import BuildPicker.Proofs.Selection.Counter

/-!
How selections fail, and what they leave behind.

The only error of a selection is that the expanded template of a build number is no
integer. The error of a call that does not look up a build number is that of one of
the calls that it makes, so it leads down the tree of calls to such a template. On
the way back nothing is undone: however the calls end, the levels come out as they
went in, also when they are kept on one counter for all calls.
-/

namespace BuildPicker

open BuildPicker.Text

/-! ### Where an error arises -/

namespace Selector

variable {job : Job} {key template : String} {ctx : Context} {e : SelectionError}

theorem byNumber_eq_error_iff :
    byNumber job key = .error e ↔
      e = .notANumber key ∧ (signed? (trim key).toList).bind int64? = none := by
  unfold byNumber
  split
  · next hnone => simp [hnone, eq_comm]
  · next i hsome => simp [hsome]

/-- A lookup is only made for a template that is resolved, so its errors are the only ones. -/
theorem nextSingle_eq_error {lookup : String → Except SelectionError (Option Build)}
    (h : (nextSingle template lookup job ctx).value = .error e) :
    isUnresolved (ctx.vars.expand template) = false ∧
      lookup (ctx.vars.expand template) = .error e := by
  rw [value_nextSingle] at h
  split at h
  · cases h
  · split at h
    · cases h
    · next hresolved => exact ⟨by simpa using hresolved, h⟩

theorem exists_popQueue_eq (job : Job) (as : List Attachment) :
    ∃ b? as', popQueue job as = ⟨.ok b?, as'⟩ := by
  unfold popQueue
  split
  · exact ⟨_, _, rfl⟩
  · exact ⟨_, _, rfl⟩

theorem exists_nextTriggering_eq (dependencies : Bool) (strategy : Strategy) (job : Job)
    (ctx : Context) :
    ∃ b? as, (nextTriggering dependencies strategy job ctx).value = ⟨.ok b?, as⟩ := by
  unfold nextTriggering
  split
  · exact exists_popQueue_eq job _
  · split
    · exact ⟨none, _, rfl⟩
    · exact exists_popQueue_eq job _

end Selector

namespace Call

variable {job : Job} {e : SelectionError}

/-- The error that a reply is. -/
def Reply.error? : Reply → Option SelectionError
  | offer ⟨.error e, _⟩ => some e
  | choice ⟨.error e, _⟩ => some e
  | _ => none

theorem Reply.error?_offer_eq_some_iff {o : Offer} :
    (offer o).error? = some e ↔ o.result = .error e := by
  obtain ⟨result, as⟩ := o
  cases result with
  | error e' => simp [error?]
  | ok b? => simp [error?]

theorem Reply.error?_choice_eq_some_iff {c : Choice} :
    (choice c).error? = some e ↔ c.result = .error e := by
  obtain ⟨result, ctx⟩ := c
  cases result with
  | error e' => simp [error?]
  | ok b? => simp [error?]

/-- The call looks up a build number whose expanded template is given and is no integer of
64 bits. -/
def Misses (c : Call) (e : SelectionError) : Prop :=
  ∃ template ctx, c = next (.buildNumber template) ctx ∧
    e = .notANumber (ctx.vars.expand template) ∧
    (ctx.vars.expand template).toList.head? ≠ some '$' ∧
    (signed? (trim (ctx.vars.expand template)).toList).bind int64? = none

theorem exists_of_firstResult {replies : List Reply} (h : firstResult replies = .error e) :
    ∃ r ∈ replies, r.error? = some e := by
  induction replies with
  | nil => cases h
  | cons r replies ih =>
      cases r with
      | offer | verdict => cases h
      | choice c =>
          obtain ⟨result, ctx⟩ := c
          match result with
          | .error e' =>
              cases h
              exact ⟨_, List.mem_cons_self, rfl⟩
          | .ok none =>
              obtain ⟨r, hr, he⟩ := ih h
              exact ⟨r, List.mem_cons_of_mem _ hr, he⟩
          | .ok (some b) => cases h

theorem exists_of_lastChoice {ctx : Context} {replies : List Reply}
    (h : (lastChoice ctx replies).result = .error e) : ∃ r ∈ replies, r.error? = some e := by
  fun_induction lastChoice ctx replies with
  | case1 ctx e' as replies =>
      cases h
      exact ⟨_, List.mem_cons_self, rfl⟩
  | case2 => cases h
  | case3 ctx b as accepted replies hdeclined ih =>
      obtain ⟨r, hr, he⟩ := ih h
      exact ⟨r, List.mem_cons_of_mem _ (List.mem_cons_of_mem _ hr), he⟩
  | case4 => cases h
  | case5 => cases h

/-- The error of a call is that of a build number, or of one of the calls that it makes. -/
theorem Makes.misses_or_exists {c : Call} {calls : List Call} (h : Makes job c calls)
    (he : (c.reply job).error? = some e) :
    c.Misses e ∨ ∃ d ∈ calls, (d.reply job).error? = some e := by
  have hbelow (hr : ∃ r ∈ calls.map (reply job), r.error? = some e) :
      ∃ d ∈ calls, (d.reply job).error? = some e := by
    obtain ⟨r, hr, hre⟩ := hr
    obtain ⟨d, hd, rfl⟩ := List.mem_map.1 hr
    exact ⟨d, hd, hre⟩
  rw [h.reply_eq] at he
  cases h with
  | next s ctx =>
      cases s with
      | buildNumber template =>
          simp only [replyFrom, Selector.nextWith, Reply.error?_offer_eq_some_iff] at he
          obtain ⟨hresolved, hlookup⟩ := Selector.nextSingle_eq_error he
          obtain ⟨rfl, hnone⟩ := Selector.byNumber_eq_error_iff.1 hlookup
          exact .inl ⟨template, ctx, rfl, rfl, of_decide_eq_false hresolved, hnone⟩
      | displayName template | permalink template =>
          simp only [replyFrom, Selector.nextWith, Reply.error?_offer_eq_some_iff] at he
          cases (Selector.nextSingle_eq_error he).2
      | status s =>
          simp only [replyFrom, Selector.nextWith, Reply.error?_offer_eq_some_iff] at he
          cases he
      | triggering dependencies strategy =>
          obtain ⟨b?, as, hoffer⟩ :=
            Selector.exists_nextTriggering_eq dependencies strategy job ctx
          simp only [replyFrom, Selector.nextWith, Reply.error?_offer_eq_some_iff, hoffer] at he
          cases he
      | fallback entries =>
          rw [replyFrom, Reply.error?_offer_eq_some_iff] at he
          exact .inr (hbelow (exists_of_firstResult he))
      | parameterized parameter =>
          rw [replyFrom] at he
          cases hreplies : (ofNext job ctx (.parameterized parameter)).map (reply job) with
          | nil =>
              rw [hreplies] at he
              cases he
          | cons r replies =>
              rw [hreplies] at he hbelow
              exact .inr (hbelow ⟨r, List.mem_cons_self, he⟩)
  | select hrun =>
      rw [replyFrom, Reply.error?_choice_eq_some_iff] at he
      exact .inr (hbelow (exists_of_lastChoice he))
  | judge f b ctx => cases f <;> cases he

end Call

namespace CallTree

variable {job : Job}

/-- The error of the call at the root is that of a build number looked up in the tree. -/
theorem IsMade.exists_misses {t : CallTree} (h : t.IsMade job) {e : SelectionError}
    (he : (t.call.reply job).error? = some e) : ∃ c, t.Contains c ∧ c.Misses e := by
  induction h with
  | @node call below hmakes _ ih =>
      obtain hmisses | ⟨d, hd, he⟩ := hmakes.misses_or_exists he
      · exact ⟨call, .here call below, hmisses⟩
      · obtain ⟨t, ht, rfl⟩ := List.mem_map.1 hd
        obtain ⟨c, hc, hmisses⟩ := ih t ht he
        exact ⟨c, .deeper ht hc, hmisses⟩

/-! ### One counter for all calls -/

mutual

/-- The number of parameters that are followed at the time, kept in one counter by all calls of the
tree: it is raised on the way into a call that stands behind a parameter, and lowered on the way
out. There is none if a call finds the counter at odds with the levels of its context, or if it
would be lowered below zero. -/
def count : CallTree → (followed : Nat) → Option Nat
  | node call below, followed =>
    if followed + call.context.levels = maxLevels then countBelow call.step below followed
    else none

def countBelow (step : Nat) : List CallTree → (followed : Nat) → Option Nat
  | [], followed => some followed
  | t :: below, followed => do
    let after ← t.count (followed + step)
    if step ≤ after then countBelow step below (after - step) else none

end

theorem countBelow_eq {step followed : Nat} {below : List CallTree}
    (hbelow : ∀ t ∈ below, t.count (followed + step) = some (followed + step)) :
    countBelow step below followed = some followed := by
  induction below with
  | nil => rfl
  | cons t below ih =>
      obtain ⟨ht, hbelow⟩ := List.forall_mem_cons.1 hbelow
      rw [countBelow, ht, Option.bind_eq_bind, Option.bind_some, if_pos (Nat.le_add_left step _),
        Nat.add_sub_cancel, ih hbelow]

/-- The counter agrees with the levels throughout, and stands in the end where it stood before. -/
theorem IsMade.count_eq {t : CallTree} (h : t.IsMade job) {followed : Nat}
    (hfollowed : followed + t.call.context.levels = maxLevels) :
    t.count followed = some followed := by
  induction h generalizing followed with
  | @node call below hmakes _ ih =>
      rw [CallTree.call] at hfollowed
      rw [count, if_pos hfollowed]
      refine countBelow_eq fun t ht => ih t ht ?_
      have hlevels := (hmakes.context_eq _ (List.mem_map_of_mem ht)).2
      omega

end CallTree

/-- However a selection ends, nothing but the last match and the records of its context changes.
It comes to the same if the levels are kept on one counter that may not be raised above the limit,
and a counter of the parameters followed comes out of every call as it went in. A selection can only
fail because a template of a build number, reached in one of its calls, expands to a text that is no
integer and does not begin with a reference; there is then no last match. -/
theorem Selector.select_restores (s : Selector) (job : Job) (ctx : Context) :
    let choice := (s.select job ctx).value
    (∃ as, choice.context =
      { ctx with lastMatch := selected? choice.result, attachments := as }) ∧
    (ctx.levels ≤ maxLevels → ∀ outcome, Selector.Yields job (.select s) ctx outcome ↔
      outcome = choice) ∧
    ∃ tree : CallTree, tree.call = .select s ctx ∧ tree.IsMade job ∧
      (∀ followed, followed + ctx.levels = maxLevels → tree.count followed = some followed) ∧
      ∀ e, choice.result = .error e → choice.context.lastMatch = none ∧
        ∃ template inner, tree.Contains (.next (.buildNumber template) inner) ∧
          e = .notANumber (ctx.vars.expand template) ∧
          (ctx.vars.expand template).toList.head? ≠ some '$' ∧
          (signed? (trim (ctx.vars.expand template)).toList).bind int64? = none := by
  intro choice
  obtain ⟨as, hcontext⟩ := s.exists_moved_of_select job ctx
  obtain ⟨tree, hcall, hmade⟩ : (Call.select s ctx).Ends job := Call.select_ends s ctx
  refine ⟨⟨as, hcontext⟩, fun hbound outcome => Selector.yields_iff hbound, tree, hcall, hmade,
    fun followed hfollowed => ?_, fun e he => ?_⟩
  · exact hmade.count_eq (by rwa [hcall])
  · have hreply : (tree.call.reply job).error? = some e := by
      rw [hcall]
      exact Call.Reply.error?_choice_eq_some_iff.2 he
    obtain ⟨_, hc, template, inner, rfl, hvalue⟩ := hmade.exists_misses hreply
    have hvars : inner.vars = ctx.vars := by
      have hsurroundings := hmade.surroundings_eq hc
      rw [hcall] at hsurroundings
      exact congrArg Surroundings.vars hsurroundings
    rw [hvars] at hvalue
    refine ⟨?_, template, inner, hc, hvalue⟩
    rw [hcontext, he]
    rfl

end BuildPicker
