import BuildPicker.Selection.Pick
import Mathlib.Data.List.Perm.Subperm

/-!
Runs of the loop that picks a build.

`Run` is the loop as such, with no bound on its rounds: a run exists only if the
loop comes to an end. A bounded loop with enough rounds does the same, so the
bound is never what ends a selection. What a selector answers depends on the last
candidate and on the records of the context, and `Enumerates` says that it lists
some candidates when each of them is recorded and the next one asked for; the
loop then offers them up to the first that is accepted.
-/

namespace BuildPicker

namespace Context

/-- The context where the enumeration of candidates stands somewhere else. -/
def moved (ctx : Context) (last : Option Build) (as : List Attachment) : Context :=
  { ctx with lastMatch := last, attachments := as }

/-- Whether the filter in force accepts a build. -/
def accepts (ctx : Context) (b : Build) : Bool :=
  (ctx.judge b).value

section

variable (ctx : Context) (last : Option Build) (as : List Attachment)

@[simp] theorem lastMatch_moved : (ctx.moved last as).lastMatch = last := rfl

@[simp] theorem attachments_moved : (ctx.moved last as).attachments = as := rfl

@[simp] theorem vars_moved : (ctx.moved last as).vars = ctx.vars := rfl

@[simp] theorem moved_self : ctx.moved ctx.lastMatch ctx.attachments = ctx := rfl

end

end Context

/-! ### The loop without a bound -/

/-- The build of an answer, if it has one. -/
def selected? (answer : Except SelectionError (Option Build)) : Option Build :=
  match answer with
  | .ok b? => b?
  | .error _ => none

/-- One round: the context in which a candidate is asked for, and what is offered. -/
structure Round where
  context : Context
  offer : Offer

def Round.answer (r : Round) : Except SelectionError (Option Build) :=
  r.offer.result

/-- The rounds from a context to the end of the loop, and what it ends in. -/
inductive Run (next : Context → Logged Offer) : Context → List Round → Choice → Prop
  | failed {ctx : Context} {e : SelectionError} {as : List Attachment}
      (hnext : (next ctx).value = ⟨.error e, as⟩) :
      Run next ctx [⟨ctx, .error e, as⟩] ⟨.error e, { ctx with attachments := as }⟩
  | exhausted {ctx : Context} {as : List Attachment}
      (hnext : (next ctx).value = ⟨.ok none, as⟩) :
      Run next ctx [⟨ctx, .ok none, as⟩] ⟨.ok none, ctx.moved none as⟩
  | accepted {ctx : Context} {b : Build} {as : List Attachment}
      (hnext : (next ctx).value = ⟨.ok (some b), as⟩)
      (hb : (ctx.moved (some b) as).accepts b = true) :
      Run next ctx [⟨ctx, .ok (some b), as⟩] ⟨.ok (some b), ctx.moved (some b) as⟩
  | declined {ctx : Context} {b : Build} {as : List Attachment} {rounds : List Round}
      {choice : Choice} (hnext : (next ctx).value = ⟨.ok (some b), as⟩)
      (hb : (ctx.moved (some b) as).accepts b = false)
      (hrest : Run next (ctx.moved (some b) as) rounds choice) :
      Run next ctx (⟨ctx, .ok (some b), as⟩ :: rounds) choice

namespace Run

variable {next : Context → Logged Offer} {ctx : Context} {rounds rounds' : List Round}
  {choice choice' : Choice}

/-- All rounds take place in the context of the first, with another place in the enumeration. -/
theorem exists_moved (hrun : Run next ctx rounds choice) {r : Round} (hr : r ∈ rounds) :
    ∃ last as, r.context = ctx.moved last as := by
  induction hrun with
  | failed | exhausted | accepted =>
      obtain rfl := List.mem_singleton.1 hr
      exact ⟨_, _, (Context.moved_self _).symm⟩
  | declined _ _ _ ih =>
      obtain rfl | hr := List.mem_cons.1 hr
      · exact ⟨_, _, (Context.moved_self _).symm⟩
      · obtain ⟨last, as, hcontext⟩ := ih hr
        exact ⟨last, as, hcontext⟩

/-- There is only one run from a context. -/
theorem unique (hrun : Run next ctx rounds choice) (hrun' : Run next ctx rounds' choice') :
    rounds = rounds' ∧ choice = choice' := by
  induction hrun generalizing rounds' choice' with
  | failed hnext => cases hrun' <;> simp_all
  | exhausted hnext => cases hrun' <;> simp_all
  | accepted hnext hb => cases hrun' <;> simp_all
  | declined hnext hb _ ih =>
      cases hrun' with
      | declined hnext' hb' hrest' =>
          have h := hnext.symm.trans hnext'
          cases h
          obtain ⟨rfl, rfl⟩ := ih hrest'
          exact ⟨rfl, rfl⟩
      | failed | exhausted | accepted => simp_all

end Run

theorem value_pick_succ (next : Context → Logged Offer) (label : String) (rounds : Nat)
    (ctx : Context) :
    (pick next label (rounds + 1) ctx).value =
      match (next ctx).value with
      | ⟨.error e, as⟩ => ⟨.error e, { ctx with attachments := as }⟩
      | ⟨.ok none, as⟩ => ⟨.ok none, ctx.moved none as⟩
      | ⟨.ok (some b), as⟩ =>
        if (ctx.moved (some b) as).accepts b then ⟨.ok (some b), ctx.moved (some b) as⟩
        else (pick next label rounds (ctx.moved (some b) as)).value := by
  rw [pick, Logged.value_bind]
  obtain ⟨result, as⟩ := (next ctx).value
  match result with
  | .error e => rfl
  | .ok none => rfl
  | .ok (some b) =>
      simp only [Logged.value_bind, apply_ite Logged.value]
      rfl

/-- A loop with as many rounds as a run takes does what the run does. -/
theorem Run.value_pick {next : Context → Logged Offer} {ctx : Context} {trace : List Round}
    {choice : Choice} (hrun : Run next ctx trace choice) (label : String) {rounds : Nat}
    (hrounds : trace.length ≤ rounds) : (pick next label rounds ctx).value = choice := by
  induction hrun generalizing rounds with
  | failed hnext =>
      obtain ⟨rounds, rfl⟩ := Nat.exists_eq_add_of_le' hrounds
      rw [List.length_singleton, value_pick_succ, hnext]
  | exhausted hnext =>
      obtain ⟨rounds, rfl⟩ := Nat.exists_eq_add_of_le' hrounds
      rw [List.length_singleton, value_pick_succ, hnext]
  | accepted hnext hb =>
      obtain ⟨rounds, rfl⟩ := Nat.exists_eq_add_of_le' hrounds
      rw [List.length_singleton, value_pick_succ, hnext]
      exact if_pos hb
  | declined hnext hb _ ih =>
      rw [List.length_cons] at hrounds
      obtain ⟨rounds, rfl⟩ : ∃ n, rounds = n + 1 := ⟨rounds - 1, by omega⟩
      rw [value_pick_succ, hnext]
      simp only [hb, Bool.false_eq_true, if_false]
      exact ih (by omega)

/-! ### Enumeration -/

/-- Asked again and again, each answer recorded as the last candidate, `ask` lists the builds and
then has no other. -/
inductive Enumerates (ask : Option Build → List Attachment → Offer) :
    Option Build → List Attachment → List Build → List Attachment → Prop
  | done {last : Option Build} {as as' : List Attachment} (h : ask last as = ⟨.ok none, as'⟩) :
      Enumerates ask last as [] as'
  | more {last : Option Build} {as as' as'' : List Attachment} {b : Build} {bs : List Build}
      (h : ask last as = ⟨.ok (some b), as'⟩) (hrest : Enumerates ask (some b) as' bs as'') :
      Enumerates ask last as (b :: bs) as''

/-- A selector as a function of the last candidate and of the records. -/
def asking (next : Context → Logged Offer) (ctx : Context) (last : Option Build)
    (as : List Attachment) : Offer :=
  (next (ctx.moved last as)).value

/-- What the loop hears from a selector that lists the builds. -/
def answersTo (accepts : Build → Bool) : List Build → List (Except SelectionError (Option Build))
  | [] => [.ok none]
  | b :: bs => .ok (some b) :: if accepts b then [] else answersTo accepts bs

section

variable {accepts : Build → Bool}

theorem length_answersTo_le (accepts : Build → Bool) (bs : List Build) :
    (answersTo accepts bs).length ≤ bs.length + 1 := by
  induction bs with
  | nil => exact Nat.le_refl 1
  | cons b bs ih =>
      rw [answersTo]
      split
      · simp
      · simpa using ih

theorem filterMap_answersTo_sublist (accepts : Build → Bool) (bs : List Build) :
    ((answersTo accepts bs).filterMap selected?).Sublist bs := by
  induction bs with
  | nil => exact List.nil_sublist _
  | cons b bs ih =>
      have hb : selected? (.ok (some b)) = some b := rfl
      rw [answersTo, List.filterMap_cons_some hb, List.cons_sublist_cons]
      split
      · exact List.nil_sublist _
      · exact ih

theorem answersTo_of_rejects {bs : List Build} (hbs : ∀ b ∈ bs, accepts b = false) :
    answersTo accepts bs = bs.map (fun b => .ok (some b)) ++ [.ok none] := by
  induction bs with
  | nil => rfl
  | cons b bs ih =>
      obtain ⟨hb, hbs⟩ := List.forall_mem_cons.1 hbs
      rw [answersTo, hb, ih hbs]
      rfl

end

section

variable {next : Context → Logged Offer} {ctx : Context} {as as' : List Attachment}
  {bs : List Build}

/-- When a selector lists some builds, the loop ends with the first that is accepted. -/
theorem Enumerates.exists_run {last : Option Build}
    (h : Enumerates (asking next ctx) last as bs as') :
    ∃ rounds final, Run next (ctx.moved last as) rounds
        ⟨.ok (bs.find? ctx.accepts), ctx.moved (bs.find? ctx.accepts) final⟩ ∧
      rounds.map Round.answer = answersTo ctx.accepts bs ∧
      (bs.find? ctx.accepts = none → final = as') := by
  induction h with
  | @done last as as' hask =>
      exact ⟨_, as', .exhausted hask, rfl, fun _ => rfl⟩
  | @more last as mid as' b bs hask _ ih =>
      by_cases hb : ctx.accepts b
      · rw [List.find?_cons_of_pos hb, answersTo, if_pos hb]
        exact ⟨_, mid, .accepted hask hb, rfl, nofun⟩
      · obtain ⟨rounds, final, hrun, hanswers, hfinal⟩ := ih
        rw [List.find?_cons_of_neg hb, answersTo, if_neg hb, ← hanswers]
        exact ⟨_, final, .declined hask (Bool.eq_false_iff.2 hb) hrun, rfl, hfinal⟩

/-- The same for a whole selection, which has a round for each build of the job. -/
theorem Enumerates.exists_run_pickFrom (h : Enumerates (asking next ctx) none ctx.attachments bs as)
    (label : String) {job : Job}
    (hlength : (answersTo ctx.accepts bs).length ≤ job.builds.length + 1) :
    ∃ rounds final, Run next { ctx with lastMatch := none } rounds
        (pickFrom next label job ctx).value ∧
      rounds.map Round.answer = answersTo ctx.accepts bs ∧
      (pickFrom next label job ctx).value =
        ⟨.ok (bs.find? ctx.accepts), ctx.moved (bs.find? ctx.accepts) final⟩ ∧
      (bs.find? ctx.accepts = none → final = as) := by
  obtain ⟨rounds, final, hrun, hanswers, hfinal⟩ := h.exists_run
  rw [← hanswers, List.length_map] at hlength
  have hpick : (pickFrom next label job ctx).value = _ := hrun.value_pick label hlength
  exact ⟨rounds, final, hpick ▸ hrun, hanswers, hpick, hfinal⟩

end

/-! ### Offers among the builds of a job -/

/-- From the start, `ask` fails at once or lists different builds of the job. -/
inductive Offers (job : Job) (ask : Option Build → List Attachment → Offer)
    (as : List Attachment) : Except SelectionError (List Build) → Prop
  | failed {e : SelectionError} {as' : List Attachment} (h : ask none as = ⟨.error e, as'⟩) :
      Offers job ask as (.error e)
  | listed {bs : List Build} {as' : List Attachment} (h : Enumerates ask none as bs as')
      (hmem : ∀ b ∈ bs, b ∈ job.builds) (hnodup : bs.Nodup) : Offers job ask as (.ok bs)

/-- What the loop hears from a selector with these candidates. -/
def answersFrom (accepts : Build → Bool) :
    Except SelectionError (List Build) → List (Except SelectionError (Option Build))
  | .error e => [.error e]
  | .ok bs => answersTo accepts bs

namespace Offers

variable {job : Job} {ask : Option Build → List Attachment → Offer} {as : List Attachment}
  {candidates : Except SelectionError (List Build)}

/-- A selector that offers at most one build. -/
theorem single {answer : Except SelectionError (Option Build)} (hfirst : ask none as = ⟨answer, as⟩)
    (hlater : ∀ b, ask (some b) as = ⟨.ok none, as⟩)
    (hmem : ∀ b, answer = .ok (some b) → b ∈ job.builds) :
    Offers job ask as (answer.map Option.toList) := by
  match answer with
  | .error e => exact .failed hfirst
  | .ok none => exact .listed (.done hfirst) (by simp) .nil
  | .ok (some b) =>
      exact .listed (.more hfirst (.done (hlater b))) (by simpa using hmem b rfl)
        (List.pairwise_singleton _ b)

/-- The loop hears different builds of the job, and at most one other answer. -/
theorem answersFrom_bounded (h : Offers job ask as candidates) (accepts : Build → Bool) :
    (answersFrom accepts candidates).length ≤ job.builds.length + 1 ∧
      ((answersFrom accepts candidates).filterMap selected?).Nodup ∧
      ∀ b ∈ (answersFrom accepts candidates).filterMap selected?, b ∈ job.builds := by
  cases h with
  | @failed e => exact ⟨Nat.le_add_left 1 _, List.Pairwise.nil, fun _ => nofun⟩
  | @listed bs _ _ hmem hnodup =>
      have hlength : bs.length ≤ job.builds.length :=
        (List.subperm_of_subset hnodup hmem).length_le
      have hheard := filterMap_answersTo_sublist accepts bs
      exact ⟨Nat.le_trans (length_answersTo_le accepts bs) (Nat.add_le_add_right hlength 1),
        hheard.nodup hnodup, fun b hb => hmem b (hheard.subset hb)⟩

/-- The loop comes to an end, with the first candidate that is accepted. -/
theorem exists_run {next : Context → Logged Offer} {ctx : Context}
    (h : Offers job (asking next ctx) ctx.attachments candidates) (label : String) :
    ∃ rounds final, Run next { ctx with lastMatch := none } rounds
        (pickFrom next label job ctx).value ∧
      rounds.map Round.answer = answersFrom ctx.accepts candidates ∧
      (pickFrom next label job ctx).value =
        ⟨candidates.map (List.find? ctx.accepts),
          ctx.moved (selected? (candidates.map (List.find? ctx.accepts))) final⟩ := by
  have hlength := (h.answersFrom_bounded ctx.accepts).1
  cases h with
  | @failed e as' hask =>
      have hrun : Run next (ctx.moved none ctx.attachments) _ _ := .failed hask
      have hpick : (pickFrom next label job ctx).value = _ :=
        hrun.value_pick label hlength
      exact ⟨_, as', hpick ▸ hrun, rfl, hpick⟩
  | @listed bs as' hlist hmem hnodup =>
      obtain ⟨rounds, final, hrun, hanswers, hpick, -⟩ := hlist.exists_run_pickFrom label hlength
      exact ⟨rounds, final, hrun, hanswers, hpick⟩

theorem mem_of_map_find? (h : Offers job ask as candidates) {accepts : Build → Bool} {b : Build}
    (hb : candidates.map (List.find? accepts) = .ok (some b)) : b ∈ job.builds := by
  cases h with
  | failed => cases hb
  | listed _ hmem => exact hmem b (List.mem_of_find?_eq_some (Except.ok.inj hb))

theorem value_result_pickFrom {next : Context → Logged Offer} {ctx : Context}
    (h : Offers job (asking next ctx) ctx.attachments candidates) (label : String) :
    (pickFrom next label job ctx).value.result = candidates.map (List.find? ctx.accepts) := by
  obtain ⟨rounds, final, -, -, hpick⟩ := h.exists_run label
  rw [hpick]

end Offers

end BuildPicker
