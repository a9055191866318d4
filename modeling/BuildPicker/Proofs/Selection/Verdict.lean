import BuildPicker.Proofs.Selection.Run

/-!
Verdicts of filters.

A filter within a filter is judged in the same context. Only a filter that is read
from a parameter is judged one level deeper, and on the last level it accepts
nothing.
-/

namespace BuildPicker

open BuildPicker.Text

namespace Filter

/-- How a filter that is read from a parameter judges. -/
def judgeBelow (vars : Variables) (b : Build) : (levels : Nat) → Filter → Logged Bool
  | 0, _ => do noticeTooManyLevels; return false
  | levels + 1, f => judge vars levels b f

theorem judge_eq (vars : Variables) (levels : Nat) (b : Build) (f : Filter) :
    judge vars levels b f = judgeWith vars (judgeBelow vars b levels) b f := by
  cases levels with
  | zero => rfl
  | succ levels => rfl

section

variable (vars : Variables) (nested : Filter → Logged Bool) (b : Build) (label : String)

theorem value_judgeAll (filters : List Filter) :
    (judgeAll vars nested b label filters).value =
      filters.all fun f => (judgeWith vars nested b f).value := by
  induction filters with
  | nil =>
      rw [judgeAll]
      rfl
  | cons f filters ih =>
      rw [judgeAll, List.all_cons, ← ih, Logged.value_bind]
      cases (judgeWith vars nested b f).value with
      | true => rfl
      | false => rfl

theorem value_judgeAny (filters : List Filter) :
    (judgeAny vars nested b label filters).value =
      filters.any fun f => (judgeWith vars nested b f).value := by
  induction filters with
  | nil =>
      rw [judgeAny]
      rfl
  | cons f filters ih =>
      rw [judgeAny, List.any_cons, ← ih, Logged.value_bind]
      cases (judgeWith vars nested b f).value with
      | true => rfl
      | false => rfl

end

/-! ### Filters on one level -/

section

variable (vars : Variables) (levels : Nat) (b : Build)

theorem value_judge_acceptAll : (judge vars levels b .acceptAll).value = true := by
  rw [judge_eq, judgeWith]
  rfl

theorem value_judge_displayName (template : String) :
    (judge vars levels b (.displayName template)).value =
      (!isUnresolved (vars.expand template) && decide (vars.expand template = b.displayName)) := by
  rw [judge_eq, judgeWith]
  cases hunresolved : isUnresolved (vars.expand template) with
  | true =>
      simp only [if_true, Logged.value_bind, Logged.value_pure, Bool.not_true, Bool.false_and]
  | false =>
      simp only [Bool.false_eq_true, if_false, Logged.value_pure, Bool.not_false, Bool.true_and]

theorem value_judge_and (filters : List Filter) :
    (judge vars levels b (.and filters)).value =
      filters.all fun f => (judge vars levels b f).value := by
  simp only [judge_eq, judgeWith, value_judgeAll]

theorem value_judge_or (filters : List Filter) :
    (judge vars levels b (.or filters)).value =
      filters.any fun f => (judge vars levels b f).value := by
  simp only [judge_eq, judgeWith, value_judgeAny]

theorem value_judge_not (f : Filter) :
    (judge vars levels b (.not f)).value = !(judge vars levels b f).value := by
  rw [judge_eq, judge_eq, judgeWith]
  rfl

/-- A filter that is read from a parameter judges one level deeper, if there is one. -/
theorem value_judge_parameterized (parameter : String) :
    (judge vars levels b (.parameterized parameter)).value =
      if isBlankText (vars.expand parameter) then true
      else if isUnresolved (vars.expand parameter) then false
      else match decode (vars.expand parameter), levels with
        | .ok f, levels + 1 => (judge vars levels b f).value
        | _, _ => false := by
  rw [judge_eq, judgeWith]
  simp only [judgeParameter, Logged.value_bind, apply_ite Logged.value]
  cases decode (vars.expand parameter) with
  | error e => rfl
  | ok f =>
      cases levels with
      | zero => rfl
      | succ levels => rfl

/-- A narrowed filter accepts what both of its parts accept, also where one of them is left out. -/
theorem value_judge_narrowedBy (f g : Filter) :
    (judge vars levels b (f.narrowedBy g)).value =
      ((judge vars levels b f).value && (judge vars levels b g).value) := by
  cases g with
  | acceptAll => rw [narrowedBy_acceptAll, value_judge_acceptAll, Bool.and_true]
  | displayName | and | or | not | parameterized =>
      cases f with
      | acceptAll => rw [acceptAll_narrowedBy, value_judge_acceptAll, Bool.true_and]
      | displayName | and | or | not | parameterized =>
          rw [narrowedBy, if_neg (by simp [isAcceptAll]), if_neg (by simp [isAcceptAll]),
            value_judge_and, List.all_cons, List.all_cons, List.all_nil, Bool.and_true]

end

/-! ### Changed parts -/

section

variable {vars : Variables} {levels levels' : Nat} {b : Build} {change : Filter → Filter}
  {fs : List Filter}

theorem value_judge_and_map
    (hfs : ∀ f ∈ fs, (judge vars levels b (change f)).value = (judge vars levels' b f).value) :
    (judge vars levels b (.and (fs.map change))).value =
      (judge vars levels' b (.and fs)).value := by
  have hall := congrArg (List.all · id) (List.map_congr_left hfs)
  rw [List.all_map, List.all_map] at hall
  rw [value_judge_and, value_judge_and, List.all_map]
  exact hall

theorem value_judge_or_map
    (hfs : ∀ f ∈ fs, (judge vars levels b (change f)).value = (judge vars levels' b f).value) :
    (judge vars levels b (.or (fs.map change))).value = (judge vars levels' b (.or fs)).value := by
  have hany := congrArg (List.any · id) (List.map_congr_left hfs)
  rw [List.any_map, List.any_map] at hany
  rw [value_judge_or, value_judge_or, List.any_map]
  exact hany

end

end Filter

namespace Context

variable (ctx : Context) (b : Build)

theorem accepts_eq (f : Filter) : { ctx with filter := f }.accepts b =
    (f.judgeWith ctx.vars (Filter.judgeBelow ctx.vars b ctx.levels) b).value := by
  rw [← Filter.judge_eq]
  rfl

theorem accepts_displayName (template : String) :
    { ctx with filter := .displayName template }.accepts b =
      (!isUnresolved (ctx.vars.expand template) &&
        decide (ctx.vars.expand template = b.displayName)) :=
  Filter.value_judge_displayName ctx.vars ctx.levels b template

theorem accepts_and (filters : List Filter) :
    { ctx with filter := .and filters }.accepts b =
      filters.all fun f => { ctx with filter := f }.accepts b :=
  Filter.value_judge_and ctx.vars ctx.levels b filters

theorem accepts_or (filters : List Filter) :
    { ctx with filter := .or filters }.accepts b =
      filters.any fun f => { ctx with filter := f }.accepts b :=
  Filter.value_judge_or ctx.vars ctx.levels b filters

theorem accepts_not (f : Filter) :
    { ctx with filter := .not f }.accepts b = !{ ctx with filter := f }.accepts b :=
  Filter.value_judge_not ctx.vars ctx.levels b f

theorem accepts_parameterized (parameter : String) :
    { ctx with filter := .parameterized parameter }.accepts b =
      if isBlankText (ctx.vars.expand parameter) then true
      else if isUnresolved (ctx.vars.expand parameter) then false
      else match Filter.decode (ctx.vars.expand parameter), ctx.levels with
        | .ok f, levels + 1 => { ctx with filter := f, levels }.accepts b
        | _, _ => false :=
  Filter.value_judge_parameterized ctx.vars ctx.levels b parameter

end Context

end BuildPicker
