import BuildPicker.Proofs.Codec.Filter
import BuildPicker.Proofs.Selection.Verdict

/-!
The algebra of filters.

A verdict is reached with the levels handed down from filter to filter. One may also
keep a single counter of the levels that are left: it is lowered on the way into a
filter that is read from a parameter and raised on the way out, and every filter
finds it as the filter before has left it. `Judges` tells how filters judge with such a
counter. The counter comes out of every filter as it went in, whatever the verdict,
so with it each filter judges as it does on its own, and the verdict of a combined
filter is the combination of the verdicts of its members.
-/

namespace BuildPicker

open BuildPicker.Text

namespace Filter

/-- Judging with one counter: `Judges vars b f n accepted m` says that the filter finds `n` levels
left on the counter, comes to the verdict `accepted` and leaves the counter at `m`. -/
inductive Judges (vars : Variables) (b : Build) : Filter → Nat → Bool → Nat → Prop
  | acceptAll (n : Nat) : Judges vars b .acceptAll n true n
  | displayName (template : String) (n : Nat) : Judges vars b (.displayName template) n
      (!isUnresolved (vars.expand template) && decide (vars.expand template = b.displayName)) n
  | andNil (n : Nat) : Judges vars b (.and []) n true n
  /-- The first filter that declines ends a conjunction. -/
  | andDeclined {f : Filter} {fs : List Filter} {n m : Nat} (hf : Judges vars b f n false m) :
      Judges vars b (.and (f :: fs)) n false m
  | andAccepted {f : Filter} {fs : List Filter} {n m k : Nat} {accepted : Bool}
      (hf : Judges vars b f n true m) (hfs : Judges vars b (.and fs) m accepted k) :
      Judges vars b (.and (f :: fs)) n accepted k
  | orNil (n : Nat) : Judges vars b (.or []) n false n
  /-- The first filter that accepts ends a disjunction. -/
  | orAccepted {f : Filter} {fs : List Filter} {n m : Nat} (hf : Judges vars b f n true m) :
      Judges vars b (.or (f :: fs)) n true m
  | orDeclined {f : Filter} {fs : List Filter} {n m k : Nat} {accepted : Bool}
      (hf : Judges vars b f n false m) (hfs : Judges vars b (.or fs) m accepted k) :
      Judges vars b (.or (f :: fs)) n accepted k
  | not {f : Filter} {n m : Nat} {accepted : Bool} (hf : Judges vars b f n accepted m) :
      Judges vars b (.not f) n (!accepted) m
  | blank {parameter : String} (n : Nat) (hblank : isBlankText (vars.expand parameter) = true) :
      Judges vars b (.parameterized parameter) n true n
  | unresolved {parameter : String} (n : Nat)
      (hblank : isBlankText (vars.expand parameter) = false)
      (hunresolved : isUnresolved (vars.expand parameter) = true) :
      Judges vars b (.parameterized parameter) n false n
  | unreadable {parameter : String} {e : DecodeError} (n : Nat)
      (hblank : isBlankText (vars.expand parameter) = false)
      (hunresolved : isUnresolved (vars.expand parameter) = false)
      (hdecode : decode (vars.expand parameter) = .error e) :
      Judges vars b (.parameterized parameter) n false n
  /-- On the last level no further filter is followed, and the counter is not touched. -/
  | exhausted {parameter : String} {f : Filter}
      (hblank : isBlankText (vars.expand parameter) = false)
      (hunresolved : isUnresolved (vars.expand parameter) = false)
      (hdecode : decode (vars.expand parameter) = .ok f) :
      Judges vars b (.parameterized parameter) 0 false 0
  /-- Else the counter is lowered for the filter that is read, and raised from where this one
  leaves it. -/
  | followed {parameter : String} {f : Filter} {n m : Nat} {accepted : Bool}
      (hblank : isBlankText (vars.expand parameter) = false)
      (hunresolved : isUnresolved (vars.expand parameter) = false)
      (hdecode : decode (vars.expand parameter) = .ok f) (hf : Judges vars b f n accepted m) :
      Judges vars b (.parameterized parameter) (n + 1) accepted (m + 1)

variable {vars : Variables} {b : Build}

/-! ### The counter comes out as it went in -/

theorem Judges.eq_value_judge {f : Filter} {n m : Nat} {accepted : Bool}
    (h : Judges vars b f n accepted m) : accepted = (judge vars n b f).value ∧ m = n := by
  induction h with
  | acceptAll n => exact ⟨(value_judge_acceptAll vars n b).symm, rfl⟩
  | displayName template n => exact ⟨(value_judge_displayName vars n b template).symm, rfl⟩
  | andNil n => exact ⟨(value_judge_and vars n b []).symm, rfl⟩
  | orNil n => exact ⟨(value_judge_or vars n b []).symm, rfl⟩
  | andDeclined _ ih =>
      rcases ih with ⟨hf, rfl⟩
      refine ⟨?_, rfl⟩
      rw [value_judge_and, List.all_cons, ← hf, Bool.false_and]
  | andAccepted _ _ ihf ihfs =>
      rcases ihf with ⟨hf, rfl⟩
      rcases ihfs with ⟨hfs, rfl⟩
      refine ⟨?_, rfl⟩
      rw [value_judge_and, List.all_cons, ← hf, Bool.true_and, ← value_judge_and]
      exact hfs
  | orAccepted _ ih =>
      rcases ih with ⟨hf, rfl⟩
      refine ⟨?_, rfl⟩
      rw [value_judge_or, List.any_cons, ← hf, Bool.true_or]
  | orDeclined _ _ ihf ihfs =>
      rcases ihf with ⟨hf, rfl⟩
      rcases ihfs with ⟨hfs, rfl⟩
      refine ⟨?_, rfl⟩
      rw [value_judge_or, List.any_cons, ← hf, Bool.false_or, ← value_judge_or]
      exact hfs
  | not _ ih =>
      rcases ih with ⟨hf, rfl⟩
      exact ⟨by rw [value_judge_not, ← hf], rfl⟩
  | blank n hblank => exact ⟨by rw [value_judge_parameterized, if_pos hblank], rfl⟩
  | unresolved n hblank hunresolved =>
      refine ⟨?_, rfl⟩
      simp only [value_judge_parameterized, hblank, hunresolved, Bool.false_eq_true, if_false,
        if_true]
  | unreadable n hblank hunresolved hdecode =>
      refine ⟨?_, rfl⟩
      simp only [value_judge_parameterized, hblank, hunresolved, hdecode, Bool.false_eq_true,
        if_false]
  | exhausted hblank hunresolved hdecode =>
      refine ⟨?_, rfl⟩
      simp only [value_judge_parameterized, hblank, hunresolved, hdecode, Bool.false_eq_true,
        if_false]
  | followed hblank hunresolved hdecode _ ih =>
      rcases ih with ⟨hf, rfl⟩
      refine ⟨?_, rfl⟩
      simp only [value_judge_parameterized, hblank, hunresolved, hdecode, Bool.false_eq_true,
        if_false]
      exact hf

/-! ### Every filter judges -/

section

variable {accepts : Filter → Bool} {n : Nat} {fs : List Filter}

theorem Judges.all (hfs : ∀ f ∈ fs, Judges vars b f n (accepts f) n) :
    Judges vars b (.and fs) n (fs.all accepts) n := by
  induction fs with
  | nil => exact .andNil n
  | cons f fs ih =>
      rcases List.forall_mem_cons.1 hfs with ⟨hf, hrest⟩
      rw [List.all_cons]
      cases haccepts : accepts f with
      | true =>
          rw [haccepts] at hf
          exact .andAccepted hf (ih hrest)
      | false =>
          rw [haccepts] at hf
          exact .andDeclined hf

theorem Judges.any (hfs : ∀ f ∈ fs, Judges vars b f n (accepts f) n) :
    Judges vars b (.or fs) n (fs.any accepts) n := by
  induction fs with
  | nil => exact .orNil n
  | cons f fs ih =>
      rcases List.forall_mem_cons.1 hfs with ⟨hf, hrest⟩
      rw [List.any_cons]
      cases haccepts : accepts f with
      | true =>
          rw [haccepts] at hf
          exact .orAccepted hf
      | false =>
          rw [haccepts] at hf
          exact .orDeclined hf (ih hrest)

end

/-- A filter that is read from a parameter judges if those on the level below do. -/
theorem judges_parameterized {n : Nat}
    (hbelow : ∀ m, n = m + 1 → ∀ f, Judges vars b f m (judge vars m b f).value m)
    (parameter : String) :
    Judges vars b (.parameterized parameter) n (judge vars n b (.parameterized parameter)).value
      n := by
  rw [value_judge_parameterized]
  cases hblank : isBlankText (vars.expand parameter) with
  | true => exact .blank n hblank
  | false =>
      cases hunresolved : isUnresolved (vars.expand parameter) with
      | true => exact .unresolved n hblank hunresolved
      | false =>
          cases hdecode : decode (vars.expand parameter) with
          | error e => exact .unreadable n hblank hunresolved hdecode
          | ok f =>
              cases n with
              | zero => exact .exhausted hblank hunresolved hdecode
              | succ m => exact .followed hblank hunresolved hdecode (hbelow m rfl f)

theorem judges_judge (n : Nat) (f : Filter) : Judges vars b f n (judge vars n b f).value n := by
  induction n using Nat.strongRecOn generalizing f with
  | ind n hbelow =>
      -- On one level the members of a filter are smaller; only a parameter leads to another.
      induction f using Filter.induction with
      | acceptAll =>
          rw [value_judge_acceptAll]
          exact .acceptAll n
      | displayName template =>
          rw [value_judge_displayName]
          exact .displayName template n
      | and fs ih =>
          rw [value_judge_and]
          exact .all ih
      | or fs ih =>
          rw [value_judge_or]
          exact .any ih
      | not f ih =>
          rw [value_judge_not]
          exact .not ih
      | parameterized parameter =>
          apply judges_parameterized
          intro m hm f
          exact hbelow m (by omega) f

/-- With one counter for all, each filter comes to the verdict that it has on its own, and the
counter is never left changed. -/
theorem judges_iff {f : Filter} {n m : Nat} {accepted : Bool} :
    Judges vars b f n accepted m ↔ accepted = (judge vars n b f).value ∧ m = n := by
  constructor
  · exact Judges.eq_value_judge
  · rintro ⟨rfl, rfl⟩
    exact judges_judge m f

end Filter

/-- A conjunction accepts what all of its members accept, a disjunction what one of them accepts, a
negation what its member does not accept, and a narrowed filter what both parts accept: each member
judged on its own in the same context. It makes no difference that the levels which are left may be
kept on one counter, as every filter leaves the counter as it was. -/
theorem Context.accepts_boolean (ctx : Context) (b : Build) :
    (∀ fs, { ctx with filter := .and fs }.accepts b ↔
      ∀ f ∈ fs, { ctx with filter := f }.accepts b) ∧
    (∀ fs, { ctx with filter := .or fs }.accepts b ↔
      ∃ f ∈ fs, { ctx with filter := f }.accepts b) ∧
    (∀ f, { ctx with filter := .not f }.accepts b ↔ ¬{ ctx with filter := f }.accepts b) ∧
    (∀ f g, { ctx with filter := f.narrowedBy g }.accepts b ↔
      { ctx with filter := f }.accepts b ∧ { ctx with filter := g }.accepts b) ∧
    ∀ f accepted left, Filter.Judges ctx.vars b f ctx.levels accepted left ↔
      accepted = { ctx with filter := f }.accepts b ∧ left = ctx.levels := by
  refine ⟨fun fs => ?_, fun fs => ?_, fun f => ?_, fun f g => ?_, fun f accepted left => ?_⟩
  · rw [ctx.accepts_and, List.all_eq_true]
  · rw [ctx.accepts_or, List.any_eq_true]
  · rw [ctx.accepts_not, Bool.not_eq_true', Bool.not_eq_true]
  · have hboth := Filter.value_judge_narrowedBy ctx.vars ctx.levels b f g
    rw [← Bool.and_eq_true]
    exact Bool.eq_iff_iff.1 hboth
  · exact Filter.judges_iff

end BuildPicker
