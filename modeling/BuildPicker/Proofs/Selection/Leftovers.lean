import BuildPicker.Proofs.Selection.Requests
import BuildPicker.Proofs.Selection.Verbosity

/-!
What earlier selections leave on a context.

A selection forgets the last candidate when it starts, but not the records: those of
clients are there, and queues for this job or for others. None of them has a part in
it, neither in its result nor in the lines that it writes. Two selections on contexts
with different records are in step from round to round. What holds between the records
meanwhile depends on the selector: one that follows triggers has put the same queue
behind them, and the others do not look at them.
-/

namespace BuildPicker

open BuildPicker.Text

/-- Computations that write the same go on alike if what they go on with is alike. -/
theorem Logged.bind_congr_of_map {α β γ : Type} {x x' : Logged α} {f f' : α → Logged β}
    {g : α → γ} (hx : g <$> x = g <$> x') (hf : f x.value = f' x'.value) :
    x >>= f = x' >>= f' := by
  have hlog : x.log = x'.log := by
    rw [← Logged.log_map g x, hx, Logged.log_map]
  show Logged.mk _ (x.log ++ _) = Logged.mk _ (x'.log ++ _)
  rw [hf, hlog]

/-! ### Selections in step -/

/-- Offers with the same answer and the same lines. If they are of a build, the records with which
the two contexts go on are related again. -/
structure Logged.Alike (R : Option Build → List Attachment → List Attachment → Prop)
    (offer offer' : Logged Offer) : Prop where
  answer : Offer.result <$> offer = Offer.result <$> offer'
  more : ∀ b, offer.value.result = .ok (some b) →
    R (some b) offer.value.attachments offer'.value.attachments

/-- From these records on, some relation between them holds in every round, so that the selector
offers the same on both contexts. -/
def InStep (next : Context → Logged Offer) (ctx : Context) (last : Option Build)
    (as as' : List Attachment) : Prop :=
  ∃ R : Option Build → List Attachment → List Attachment → Prop,
    (∀ last as as', R last as as' →
      (next (ctx.moved last as)).Alike R (next (ctx.moved last as'))) ∧
    R last as as'

/-- A selector that answers the same and writes the same, whatever is on the context when it is
asked for the first time. -/
def IgnoresRecords (next : Context → Logged Offer) : Prop :=
  ∀ ctx as as', InStep next ctx none as as'

namespace InStep

variable {next next' : Context → Logged Offer} {ctx : Context} {last : Option Build}
  {as as' : List Attachment}

/-- The loop goes through the same rounds. -/
theorem pick_eq (h : InStep next ctx last as as') (label : String) (rounds : Nat) :
    Choice.result <$> pick next label rounds (ctx.moved last as) =
      Choice.result <$> pick next label rounds (ctx.moved last as') := by
  obtain ⟨R, hstep, hR⟩ := h
  induction rounds generalizing last as as' with
  | zero => rfl
  | succ rounds ih =>
      obtain ⟨hanswer, hmore⟩ := hstep last as as' hR
      rw [pick, pick, map_bind, map_bind]
      refine Logged.bind_congr_of_map hanswer ?_
      have hresult := congrArg Logged.value hanswer
      simp only [Logged.value_map] at hresult
      -- The offers differ in their records only, which are related again if the loop goes on.
      generalize (next (ctx.moved last as)).value = offer at hresult hmore ⊢
      generalize (next (ctx.moved last as')).value = offer' at hresult hmore ⊢
      obtain ⟨result, bs⟩ := offer
      obtain ⟨result', bs'⟩ := offer'
      obtain rfl : result = result' := hresult
      cases result with
      | error e => rfl
      | ok b? =>
          cases b? with
          | none => rfl
          | some b =>
              have hrest := ih (hmore b rfl)
              simp only [map_bind]
              refine bind_congr fun _ => bind_congr fun accepted => ?_
              cases accepted with
              | true => rfl
              | false =>
                  simp only [Bool.false_eq_true, if_false, map_bind]
                  exact bind_congr fun _ => hrest

/-- Lines that are written in every round make no difference. -/
theorem of_bind {α : Type} (x : Logged α)
    (hnext : ∀ last as, next (ctx.moved last as) = x >>= fun _ => next' (ctx.moved last as))
    (h : InStep next' ctx last as as') : InStep next ctx last as as' := by
  obtain ⟨R, hstep, hR⟩ := h
  refine ⟨R, fun last as as' hR => ?_, hR⟩
  obtain ⟨hanswer, hmore⟩ := hstep last as as' hR
  rw [hnext, hnext]
  refine ⟨?_, hmore⟩
  rw [map_bind, map_bind]
  exact bind_congr fun _ => hanswer

end InStep

/-- A selector that never looks at the records. -/
theorem IgnoresRecords.of_result_eq {next : Context → Logged Offer}
    (h : ∀ (ctx : Context) (last : Option Build) (as as' : List Attachment),
      Offer.result <$> next (ctx.moved last as) = Offer.result <$> next (ctx.moved last as')) :
    IgnoresRecords next :=
  fun ctx _ _ => ⟨fun _ _ _ => True, fun last as as' _ => ⟨h ctx last as as', by simp⟩, trivial⟩

theorem IgnoresRecords.pickFrom_moved {next : Context → Logged Offer} (h : IgnoresRecords next)
    (label : String) (job : Job) (ctx : Context) (last : Option Build) (as : List Attachment) :
    Choice.result <$> pickFrom next label job (ctx.moved last as) =
      Choice.result <$> pickFrom next label job ctx :=
  (h ctx as ctx.attachments).pick_eq label (job.builds.length + 1)

namespace Selector

variable {nested : Selector → Context → Logged Offer} {job : Job}

/-! ### Selectors that follow triggers -/

theorem result_popPending (job : Job) (pending : List BuildNumber) (as as' : List Attachment) :
    (popPending job as pending).result = (popPending job as' pending).result := by
  cases pending with
  | nil => rw [popPending_nil, popPending_nil]
  | cons n pending => rw [popPending_cons, popPending_cons]

/-- Once a build has been offered, the same queue of the job stands behind the records of both. -/
def SameQueue (job : Job) (last : Option Build) (as as' : List Attachment) : Prop :=
  last.isSome → ∃ pending bs bs',
    as = replaceQueue ⟨job.name, pending⟩ bs ∧ as' = replaceQueue ⟨job.name, pending⟩ bs'

theorem alike_popPending (found : Logged (List BuildNumber)) (as as' : List Attachment) :
    (popPending job as <$> found).Alike (SameQueue job) (popPending job as' <$> found) where
  answer := by
    rw [← comp_map, ← comp_map]
    exact congrArg (· <$> found) (funext fun pending => result_popPending job pending as as')
  more b hb := by
    rw [Logged.value_map] at hb
    rw [Logged.value_map, Logged.value_map]
    cases hpending : found.value with
    | nil =>
        rw [hpending, popPending_nil] at hb
        cases hb
    | cons n pending =>
        rw [popPending_cons, popPending_cons]
        exact fun _ => ⟨pending, as, as', rfl, rfl⟩

/-- When it is asked for the first time the selector queues what it has found, without a look at
the records, and from then on it goes through that queue. -/
theorem ignoresRecords_nextTriggering (dependencies : Bool) (strategy : Strategy) (job : Job) :
    IgnoresRecords (nextTriggering dependencies strategy job) := by
  refine fun ctx as as' => ⟨SameQueue job, fun last as as' hqueue => ?_, nofun⟩
  cases last with
  | none =>
      cases horigin : ctx.origin with
      | none =>
          rw [nextTriggering_of_origin_eq_none horigin, nextTriggering_of_origin_eq_none horigin]
          exact ⟨rfl, nofun⟩
      | some origin =>
          rw [nextTriggering_start horigin, nextTriggering_start horigin]
          exact alike_popPending _ as as'
  | some b =>
      obtain ⟨pending, bs, bs', rfl, rfl⟩ := hqueue rfl
      rw [nextTriggering_resume, nextTriggering_resume, ← map_pure, ← map_pure]
      exact alike_popPending _ bs bs'

/-! ### All selectors -/

theorem result_map_single (template : String)
    (lookup : String → Except SelectionError (Option Build)) (job : Job) (ctx : Context)
    (last : Option Build) (as as' : List Attachment) :
    (Offer.result <$> do
        return ⟨← nextSingle template lookup job (ctx.moved last as), as⟩) =
      Offer.result <$> do
        return ⟨← nextSingle template lookup job (ctx.moved last as'), as'⟩ :=
  rfl

/-- Nothing but the result comes back from the fork on which an entry is tried. -/
theorem firstChoice_cons (nested : Selector → Context → Logged Offer) (job : Job) (ctx : Context)
    (s : Selector) (f : Filter) (rest : List (Selector × Filter)) :
    firstChoice nested job ctx ((s, f) :: rest) = do
      detail ("Try " ++ s.label)
      let result ←
        Choice.result <$> pickFrom (nextWith nested job s) s.label job (ctx.attempt f)
      match result with
      | .ok none => firstChoice nested job ctx rest
      | found => return found := by
  rw [firstChoice]
  refine bind_congr fun _ => ?_
  rw [bind_map_left]
  refine bind_congr fun choice => ?_
  -- The two matches are written out apart, so they agree only in each of their cases.
  cases choice.result with
  | error e => rfl
  | ok b? =>
      cases b? with
      | none => rfl
      | some b => rfl

theorem firstChoice_moved {entries : List (Selector × Filter)}
    (hentries : ∀ entry ∈ entries, IgnoresRecords (nextWith nested job entry.1)) (ctx : Context)
    (last : Option Build) (as : List Attachment) :
    firstChoice nested job (ctx.moved last as) entries = firstChoice nested job ctx entries := by
  induction entries with
  | nil => rw [firstChoice, firstChoice]
  | cons entry entries ih =>
      obtain ⟨s, f⟩ := entry
      obtain ⟨hs, hentries⟩ := List.forall_mem_cons.1 hentries
      have hattempt : (ctx.moved last as).attempt f =
          (ctx.attempt f).moved last (as.map Attachment.forked) := rfl
      rw [firstChoice_cons, firstChoice_cons, ih hentries, hattempt, hs.pickFrom_moved]

theorem ignoresRecords_nextWith (hnested : ∀ s, IgnoresRecords (nested s)) (s : Selector) :
    IgnoresRecords (nextWith nested job s) := by
  induction s using Selector.induction with
  | buildNumber template =>
      refine .of_result_eq fun ctx last as as' => ?_
      rw [nextWith, nextWith]
      exact result_map_single template (byNumber job) job ctx last as as'
  | displayName template =>
      refine .of_result_eq fun ctx last as as' => ?_
      rw [nextWith, nextWith]
      exact result_map_single template (byDisplayName job) job ctx last as as'
  | permalink template =>
      refine .of_result_eq fun ctx last as as' => ?_
      rw [nextWith, nextWith]
      exact result_map_single template (byPermalink job) job ctx last as as'
  | status s =>
      refine .of_result_eq fun ctx last as as' => ?_
      rw [nextWith, nextWith]
      rfl
  | triggering dependencies strategy =>
      rw [nextWith_triggering]
      exact ignoresRecords_nextTriggering dependencies strategy job
  | fallback entries hentries =>
      refine .of_result_eq fun ctx last as as' => ?_
      have hchoice := (firstChoice_moved hentries ctx last as).trans
        (firstChoice_moved hentries ctx last as').symm
      rw [nextWith, nextWith, hchoice]
      cases last with
      | none => rfl
      | some b => rfl
  | parameterized parameter =>
      intro ctx as as'
      let unresolved (ctx : Context) : Logged Offer := do
        notice "No selector was resolved."
        return ⟨.ok none, ctx.attachments⟩
      have hunresolved : IgnoresRecords unresolved := .of_result_eq fun _ _ _ _ => rfl
      have hnext (last : Option Build) (as : List Attachment) :
          nextWith nested job (.parameterized parameter) (ctx.moved last as) =
            resolve ctx.vars parameter >>= fun _ =>
              ((resolve ctx.vars parameter).value.elim unresolved nested) (ctx.moved last as) := by
        rw [nextWith]
        refine Logged.bind_congr_of_map (g := id) rfl ?_
        rw [Context.vars_moved]
        cases (resolve ctx.vars parameter).value with
        | none => rfl
        | some s => rfl
      refine .of_bind (resolve ctx.vars parameter) hnext ?_
      cases (resolve ctx.vars parameter).value with
      | none => exact hunresolved ctx as as'
      | some s => exact hnested s ctx as as'

theorem ignoresRecords_nextAt (job : Job) (levels : Nat) (s : Selector) :
    IgnoresRecords (nextAt job levels s) := by
  induction levels generalizing s with
  | zero =>
      rw [nextAt]
      exact ignoresRecords_nextWith (fun _ => .of_result_eq fun _ _ _ _ => rfl) s
  | succ levels ih =>
      rw [nextAt]
      exact ignoresRecords_nextWith (fun s ctx => ih s { ctx with levels := levels }) s

theorem ignoresRecords_next (s : Selector) (job : Job) : IgnoresRecords (s.next job) :=
  fun ctx => ignoresRecords_nextAt job ctx.levels s ctx

/-- The last match and the records that a context has before a selection have no part in it. -/
theorem result_select_moved (s : Selector) (job : Job) (ctx : Context) (last : Option Build)
    (as : List Attachment) :
    Choice.result <$> s.select job (ctx.moved last as) = Choice.result <$> s.select job ctx :=
  (s.ignoresRecords_next job).pickFrom_moved s.label job ctx last as

/-- On contexts with the same basis a selection has the same result and writes the same lines. -/
theorem result_select_congr (s : Selector) (job : Job) {ctx ctx' : Context}
    (hbasis : ctx.basis = ctx'.basis) :
    Choice.result <$> s.select job ctx = Choice.result <$> s.select job ctx' := by
  have hctx : ctx = (ctx'.withVerbose ctx.verbose).moved ctx.lastMatch ctx.attachments := by
    cases ctx
    cases ctx'
    cases hbasis
    rfl
  rw [hctx, result_select_moved, select_withVerbose, ← comp_map]
  rfl

end Selector

end BuildPicker
