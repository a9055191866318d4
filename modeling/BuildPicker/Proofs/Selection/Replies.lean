import BuildPicker.Proofs.Selection.Calls
import BuildPicker.Proofs.Selection.Verdict

/-!
Replies to calls, and the end of selections.

What a call comes to follows from the replies to the calls that it makes itself.
`Call.replyFrom` works it out from these alone: it asks no other selector, selects
by no entry and judges by no other filter. So the finite tree of a selection leaves
out no call that has a part in it.
-/

namespace BuildPicker

open BuildPicker.Text

namespace Call

/-! ### What a call comes to -/

inductive Reply
  | offer (o : Offer)
  | choice (c : Choice)
  | verdict (accepted : Bool)

def Reply.accepts : Reply → Bool
  | verdict accepted => accepted
  | _ => false

/-- What the call comes to. -/
def reply (job : Job) : Call → Reply
  | next s ctx => .offer (s.next job ctx).value
  | select s ctx => .choice (s.select job ctx).value
  | judge f b ctx => .verdict ({ ctx with filter := f }.accepts b)

/-- The result of the first selection that has one. -/
def firstResult : List Reply → Except SelectionError (Option Build)
  | .choice c :: replies =>
    match c.result with
    | .ok none => firstResult replies
    | found => found
  | _ => .ok none

/-- What the rounds of a loop end in. -/
def lastChoice (ctx : Context) : List Reply → Choice
  | .offer ⟨.error e, as⟩ :: _ => ⟨.error e, { ctx with attachments := as }⟩
  | .offer ⟨.ok (some b), as⟩ :: .verdict accepted :: replies =>
    if accepted then ⟨.ok (some b), ctx.moved (some b) as⟩
    else lastChoice (ctx.moved (some b) as) replies
  | .offer ⟨.ok none, as⟩ :: _ => ⟨.ok none, ctx.moved none as⟩
  | _ => ⟨.ok none, ctx⟩

/-- What the call comes to, given the replies to the calls that it makes. -/
def replyFrom (job : Job) (replies : List Reply) : Call → Reply
  | next (.fallback _) ctx => .offer ⟨firstResult replies, ctx.attachments⟩
  | next (.parameterized _) ctx => replies.headD (.offer ⟨.ok none, ctx.attachments⟩)
  | next s ctx =>
    .offer (s.nextWith (fun _ ctx => return ⟨.ok none, ctx.attachments⟩) job ctx).value
  | select _ ctx => .choice (lastChoice { ctx with lastMatch := none } replies)
  | judge (.and _) _ _ => .verdict (replies.all Reply.accepts)
  | judge (.or _) _ _ => .verdict (replies.any Reply.accepts)
  | judge (.not _) _ _ => .verdict (!replies.any Reply.accepts)
  | judge (.parameterized parameter) _ ctx =>
    .verdict (isBlankText (ctx.vars.expand parameter) || replies.any Reply.accepts)
  | judge f b ctx => .verdict (f.judgeWith ctx.vars (fun _ => return false) b).value

/-! ### Replies to the calls of a filter -/

/-- Whether some verdict is the one that ends the judging does not depend on those behind it. -/
theorem any_beq_ofFilters (job : Job) (ctx : Context) (b : Build) (last : Bool)
    (filters : List Filter) :
    ((ofFilters ctx b last filters).map (reply job)).any (fun r => r.accepts == last) =
      filters.any fun f => { ctx with filter := f }.accepts b == last := by
  induction filters with
  | nil => rfl
  | cons f filters ih =>
      have hreply : (reply job (judge f b ctx)).accepts = { ctx with filter := f }.accepts b := rfl
      rw [ofFilters, List.map_cons, List.any_cons, List.any_cons, ← ih, hreply]
      by_cases hlast : { ctx with filter := f }.accepts b = last
      · simp [hlast]
      · simp [hlast]

theorem reply_judge (job : Job) (f : Filter) (b : Build) (ctx : Context) :
    (judge f b ctx).reply job =
      (judge f b ctx).replyFrom job ((ofJudge ctx b f).map (reply job)) := by
  rw [reply]
  cases f with
  | acceptAll | displayName =>
      rw [ctx.accepts_eq]
      simp only [replyFrom, Filter.judgeWith]
  | and filters =>
      have hreplies := any_beq_ofFilters job ctx b false filters
      simp only [beq_false] at hreplies
      rw [ctx.accepts_and, replyFrom, ofJudge, List.all_eq_not_any_not, List.all_eq_not_any_not,
        hreplies]
  | or filters =>
      have hreplies := any_beq_ofFilters job ctx b true filters
      simp only [beq_true] at hreplies
      rw [ctx.accepts_or, replyFrom, ofJudge, hreplies]
  | not f =>
      rw [ctx.accepts_not, replyFrom, ofJudge, List.map_singleton, List.any_cons, List.any_nil,
        Bool.or_false]
      rfl
  | parameterized parameter =>
      rw [ctx.accepts_parameterized, replyFrom, ofJudge]
      cases isBlankText (ctx.vars.expand parameter) with
      | true => rfl
      | false =>
          cases isUnresolved (ctx.vars.expand parameter) with
          | true => rfl
          | false =>
              cases Filter.decode (ctx.vars.expand parameter) with
              | error e => rfl
              | ok f =>
                  cases ctx.levels with
                  | zero => rfl
                  | succ levels => exact congrArg Reply.verdict (Bool.or_false _).symm

/-! ### Replies to the calls of a selector -/

/-- An entry selects on a fork of the context, on which as many parameters may be followed. -/
theorem value_result_attempt (job : Job) (ctx : Context) (s : Selector) (f : Filter) :
    (pickFrom (s.nextWith (Selector.nextBelow job ctx.levels) job) s.label job
      (ctx.attempt f)).value.result = (s.select job (ctx.attempt f)).value.result := by
  have hoffers : Offers job _ _ _ :=
    Selector.offers_nextAt ctx.levels s (ctx.attempt f) (ctx.attempt f).attachments
  have hselect := s.offers_next job (ctx.attempt f) (ctx.attempt f).attachments
  rw [← Selector.nextAt_eq, hoffers.value_result_pickFrom]
  exact (hselect.value_result_pickFrom s.label).symm

theorem value_firstChoice_eq (job : Job) (ctx : Context) (entries : List (Selector × Filter)) :
    (Selector.firstChoice (Selector.nextBelow job ctx.levels) job ctx entries).value =
      firstResult ((ofEntries job ctx entries).map (reply job)) := by
  induction entries with
  | nil =>
      rw [Selector.firstChoice]
      rfl
  | cons entry entries ih =>
      obtain ⟨s, f⟩ := entry
      rw [Selector.value_firstChoice_cons, value_result_attempt, ih, ofEntries, List.map_cons,
        reply, firstResult]
      cases (s.select job (ctx.attempt f)).value.result with
      | error e => rfl
      | ok b? =>
          cases b? with
          | none => rfl
          | some b => rfl

theorem reply_next (job : Job) (s : Selector) (ctx : Context) :
    (next s ctx).reply job = (next s ctx).replyFrom job ((ofNext job ctx s).map (reply job)) := by
  rw [reply, Selector.next, Selector.nextAt_eq]
  cases s with
  | buildNumber | displayName | permalink | status | triggering =>
      simp only [replyFrom, Selector.nextWith]
  | fallback entries =>
      rw [replyFrom, ofNext, Selector.nextWith]
      split
      · rfl
      · rw [← value_firstChoice_eq]
        rfl
  | parameterized parameter =>
      rw [replyFrom, ofNext, Selector.nextWith, Logged.value_bind]
      cases (Selector.resolve ctx.vars parameter).value with
      | none => rfl
      | some s =>
          cases ctx.levels with
          | zero => rfl
          | succ levels => rfl

/-! ### Replies in a run -/

section

variable {job : Job} {s : Selector} {ctx : Context} {b : Build} {as : List Attachment}

theorem reply_next_of_value {offer : Offer} (hnext : (s.next job ctx).value = offer) :
    reply job (next s ctx) = .offer offer :=
  congrArg Reply.offer hnext

theorem map_reply_ofRound (hnext : (s.next job ctx).value = ⟨.ok (some b), as⟩) :
    (ofRound s ⟨ctx, .ok (some b), as⟩).map (reply job) =
      [.offer ⟨.ok (some b), as⟩, .verdict ((ctx.moved (some b) as).accepts b)] := by
  rw [ofRound, List.map_cons, reply_next_of_value hnext]
  rfl

/-- The replies in a run tell what it ends in. -/
theorem lastChoice_of_run {rounds : List Round} {choice : Choice}
    (hrun : Run (s.next job) ctx rounds choice) :
    lastChoice ctx ((rounds.flatMap (ofRound s)).map (reply job)) = choice := by
  induction hrun with
  | failed hnext | exhausted hnext =>
      rw [List.flatMap_singleton, ofRound, List.map_cons, reply_next_of_value hnext]
      rfl
  | accepted hnext hb =>
      rw [List.flatMap_singleton, map_reply_ofRound hnext, hb]
      rfl
  | declined hnext hb _ ih =>
      rw [List.flatMap_cons, List.map_append, map_reply_ofRound hnext, hb]
      exact ih

end

/-- A call comes to what follows from the replies to the calls that it makes. -/
theorem Makes.reply_eq {job : Job} {c : Call} {calls : List Call} (h : Makes job c calls) :
    c.reply job = c.replyFrom job (calls.map (reply job)) := by
  cases h with
  | next s ctx => exact reply_next job s ctx
  | @select s ctx rounds choice hrun =>
      obtain ⟨_, hselect⟩ := s.exists_run_select job ctx
      rw [replyFrom, lastChoice_of_run hrun, (hrun.unique hselect).2]
      rfl
  | judge f b ctx => exact reply_judge job f b ctx

end Call

/-! ### Selections end -/

/-- Throughout the tree, a call comes to what follows from the replies to the calls below it. -/
inductive CallTree.IsAnswered (job : Job) : CallTree → Prop
  | node {call : Call} {below : List CallTree}
      (hreply : call.reply job = call.replyFrom job (below.map fun t => t.call.reply job))
      (hbelow : ∀ t ∈ below, IsAnswered job t) : IsAnswered job (node call below)

theorem CallTree.IsMade.isAnswered {job : Job} {t : CallTree} (h : t.IsMade job) :
    t.IsAnswered job := by
  induction h with
  | node hmakes _ ih =>
      have hreply := hmakes.reply_eq
      rw [List.map_map] at hreply
      exact .node hreply ih

/-- The loop of a selection comes to an end without a bound on its rounds, which are at most one
for each build of the job and one more. The candidates that it receives are different builds of
the job. All calls on the way form one finite tree, which accounts for what each of them comes to,
and in which no more parameters are followed, one from the other, than the context allows: sixteen
if it stands at none. -/
theorem Selector.select_terminates (s : Selector) (job : Job) (ctx : Context) :
    (∃ rounds, Run (s.next job) { ctx with lastMatch := none } rounds (s.select job ctx).value ∧
      rounds.length ≤ job.builds.length + 1 ∧
      ((rounds.map Round.answer).filterMap selected?).Nodup ∧
      ∀ b ∈ (rounds.map Round.answer).filterMap selected?, b ∈ job.builds) ∧
    ∃ tree : CallTree, tree.call = .select s ctx ∧ tree.IsMade job ∧ tree.IsAnswered job ∧
      tree.depth ≤ ctx.levels ∧
      ∀ other : CallTree, other.call = .select s ctx → other.IsMade job → other = tree := by
  have hoffers := s.offers_next job ctx ctx.attachments
  constructor
  · obtain ⟨rounds, as, hrun, hanswers, -⟩ := hoffers.exists_run s.label
    obtain ⟨hlength, hnodup, hmem⟩ := hoffers.answersFrom_bounded ctx.accepts
    rw [← hanswers] at hlength hnodup hmem
    exact ⟨rounds, hrun, by simpa using hlength, hnodup, hmem⟩
  · obtain ⟨tree, hcall, hmade⟩ : (Call.select s ctx).Ends job :=
      Call.select_ends_of_next fun last as => Call.next_ends s _
    refine ⟨tree, hcall, hmade, hmade.isAnswered, ?_, fun other hother hmade' => ?_⟩
    · have hdepth := hmade.depth_le
      rwa [hcall] at hdepth
    · exact hmade'.unique hmade (hother.trans hcall.symm)

end BuildPicker
