import BuildPicker.Codec.Filter
import BuildPicker.Proofs.Codec.Fields
import BuildPicker.Proofs.Text.Trim

/-!
What the decoder of filters accepts, and what it makes of a filter that was written.

`Filter.Denotes` says on one level which filter an expression stands for; the
decoder is this relation, level by level. A written filter nests `Filter.nesting`
levels deep and is read back with its display names trimmed.
-/

namespace BuildPicker

open BuildPicker.Text

namespace Filter

@[elab_as_elim]
theorem induction {P : Filter → Prop} (acceptAll : P .acceptAll)
    (displayName : ∀ template, P (.displayName template))
    (and : ∀ fs, (∀ f ∈ fs, P f) → P (.and fs)) (or : ∀ fs, (∀ f ∈ fs, P f) → P (.or fs))
    (not : ∀ f, P f → P (.not f)) (parameterized : ∀ parameter, P (.parameterized parameter))
    (f : Filter) : P f :=
  @Filter.rec P (fun fs => ∀ f ∈ fs, P f) acceptAll displayName and or not parameterized
    (by simp) (fun _ _ hf hfs => List.forall_mem_cons.2 ⟨hf, hfs⟩) f

/-! ### Tags -/

namespace Kind

theorem mem_all (kind : Kind) : kind ∈ all := by
  cases kind <;> decide

theorem tags_disjoint :
    ∀ a ∈ all, ∀ b ∈ all, ∀ t ∈ a.form.tags, t ∈ b.form.tags → a = b := by
  decide

theorem ofTag?_eq_some_iff {tag : String} {kind : Kind} :
    ofTag? tag = some kind ↔ kind.form.answersTo tag :=
  Form.find?_eq_some_iff mem_all tags_disjoint

theorem isWellNamed_form (kind : Kind) : kind.form.IsWellNamed := by
  cases kind <;> decide

end Kind

/-! ### Accepted expressions -/

/-- The filter that an expression stands for, where `R` says it of the expressions inside. -/
inductive Denotes (R : Expr → Filter → Prop) (e : Expr) : Filter → Prop
  | acceptAll : e.Fits Kind.acceptAll.form → Denotes R e .acceptAll
  | displayName {name : String} : e.Fits Kind.displayName.form →
      e.field? "name" = some (.string name) → Denotes R e (.displayName (trim name))
  | and {es : List Expr} {fs : List Filter} : e.Fits Kind.and.form →
      e.HasList "filters" es → List.Forall₂ R es fs → Denotes R e (.and fs)
  | or {es : List Expr} {fs : List Filter} : e.Fits Kind.or.form →
      e.HasList "filters" es → List.Forall₂ R es fs → Denotes R e (.or fs)
  | not {nested : Expr} {f : Filter} : e.Fits Kind.not.form →
      e.field? "filter" = some (.expr nested) → R nested f → Denotes R e (.not f)
  | parameterized {parameter : String} : e.Fits Kind.parameterized.form →
      e.field? "parameter" = some (.string parameter) →
      Denotes R e (.parameterized parameter)

theorem denotes_of_ofExprWith {nested : Expr → Except DecodeError Filter} {e : Expr}
    {f : Filter} (h : ofExprWith nested e = .ok f) :
    Denotes (fun e f => nested e = .ok f) e f := by
  unfold ofExprWith at h
  split at h
  · cases h
  · next kind htag =>
      obtain ⟨_, hfields, h⟩ := Except.bind_eq_ok_iff.1 h
      have hfits : e.Fits kind.form :=
        Expr.fits_iff.2 ⟨Kind.ofTag?_eq_some_iff.1 htag, hfields⟩
      cases kind with
      | acceptAll =>
          cases h
          exact .acceptAll hfits
      | displayName =>
          obtain ⟨name, hname, h⟩ := Except.bind_eq_ok_iff.1 h
          cases h
          exact .displayName hfits (Expr.textField_eq_ok_iff.1 hname)
      | and =>
          obtain ⟨es, hes, h⟩ := Except.bind_eq_ok_iff.1 h
          obtain ⟨fs, hfs, h⟩ := Except.bind_eq_ok_iff.1 h
          cases h
          exact .and hfits (Expr.exprsField_eq_ok_iff.1 hes) (decodeAll_eq_ok_iff.1 hfs)
      | or =>
          obtain ⟨es, hes, h⟩ := Except.bind_eq_ok_iff.1 h
          obtain ⟨fs, hfs, h⟩ := Except.bind_eq_ok_iff.1 h
          cases h
          exact .or hfits (Expr.exprsField_eq_ok_iff.1 hes) (decodeAll_eq_ok_iff.1 hfs)
      | not =>
          obtain ⟨inner, hinner, h⟩ := Except.bind_eq_ok_iff.1 h
          obtain ⟨g, hg, h⟩ := Except.bind_eq_ok_iff.1 h
          cases h
          exact .not hfits (Expr.exprField_eq_ok_iff.1 hinner) hg
      | parameterized =>
          obtain ⟨parameter, hparameter, h⟩ := Except.bind_eq_ok_iff.1 h
          cases h
          exact .parameterized hfits (Expr.textField_eq_ok_iff.1 hparameter)

theorem Denotes.ofExprWith_eq {nested : Expr → Except DecodeError Filter} {e : Expr}
    {f : Filter} (h : Denotes (fun e f => nested e = .ok f) e f) :
    ofExprWith nested e = .ok f := by
  have htag {kind : Kind} (hfits : e.Fits kind.form) : Kind.ofTag? e.tag = some kind :=
    Kind.ofTag?_eq_some_iff.2 hfits.tag
  unfold ofExprWith
  cases h with
  | acceptAll hfits =>
      simp only [htag hfits, hfits.checkFields_eq, Except.ok_bind]
      rfl
  | displayName hfits hname =>
      simp only [htag hfits, hfits.checkFields_eq, Except.ok_bind,
        Expr.textField_eq_ok_iff.2 hname]
      rfl
  | and hfits hes hfs =>
      simp only [htag hfits, hfits.checkFields_eq, Except.ok_bind,
        Expr.exprsField_eq_ok_iff.2 hes, decodeAll_eq_ok_iff.2 hfs]
      rfl
  | or hfits hes hfs =>
      simp only [htag hfits, hfits.checkFields_eq, Except.ok_bind,
        Expr.exprsField_eq_ok_iff.2 hes, decodeAll_eq_ok_iff.2 hfs]
      rfl
  | not hfits hnested hf =>
      simp only [htag hfits, hfits.checkFields_eq, Except.ok_bind,
        Expr.exprField_eq_ok_iff.2 hnested, hf]
      rfl
  | parameterized hfits hparameter =>
      simp only [htag hfits, hfits.checkFields_eq, Except.ok_bind,
        Expr.textField_eq_ok_iff.2 hparameter]
      rfl

theorem ofExprAt_succ_eq_ok_iff {n : Nat} {e : Expr} {f : Filter} :
    ofExprAt (n + 1) e = .ok f ↔ Denotes (fun e f => ofExprAt n e = .ok f) e f :=
  ⟨denotes_of_ofExprWith, Denotes.ofExprWith_eq⟩

/-! ### Written filters -/

mutual

/-- How many levels of expressions and lists a written filter opens. -/
def nesting : Filter → Nat
  | acceptAll | displayName _ | parameterized _ => 1
  | and filters | or filters => nestingAll filters + 2
  | not filter => filter.nesting + 1

def nestingAll : List Filter → Nat
  | [] => 0
  | f :: fs => max f.nesting (nestingAll fs)

end

mutual

/-- The filter without the white space around its display names. -/
def trimmed : Filter → Filter
  | acceptAll => acceptAll
  | displayName template => displayName (trim template)
  | and filters => and (trimmedAll filters)
  | or filters => or (trimmedAll filters)
  | not filter => not filter.trimmed
  | parameterized parameter => parameterized parameter

def trimmedAll : List Filter → List Filter
  | [] => []
  | f :: fs => f.trimmed :: trimmedAll fs

end

theorem toValues_eq_map (fs : List Filter) :
    toValues fs = (fs.map toExpr).map .expr := by
  induction fs with
  | nil => rfl
  | cons f fs ih => simp [toValues, ih]

theorem trimmedAll_eq_map (fs : List Filter) : trimmedAll fs = fs.map trimmed := by
  induction fs with
  | nil => rfl
  | cons f fs ih => simp [trimmedAll, ih]

theorem nestingAll_le_iff {fs : List Filter} {n : Nat} :
    nestingAll fs ≤ n ↔ ∀ f ∈ fs, f.nesting ≤ n := by
  induction fs with
  | nil => simp [nestingAll]
  | cons f fs ih => rw [nestingAll, Nat.max_le, List.forall_mem_cons, ih]

theorem nesting_pos (f : Filter) : 0 < f.nesting := by
  cases f <;> simp [nesting]

theorem nesting_toExpr (f : Filter) : f.toExpr.nesting = f.nesting := by
  have hall {fs : List Filter} (ih : ∀ f ∈ fs, f.toExpr.nesting = f.nesting) :
      itemsNesting (toValues fs) = nestingAll fs := by
    induction fs with
    | nil => rfl
    | cons f fs ihs =>
        obtain ⟨hf, hfs⟩ := List.forall_mem_cons.1 ih
        rw [toValues, itemsNesting, nestingAll, Value.nesting, hf, ihs hfs]
  induction f using Filter.induction with
  | acceptAll | displayName | parameterized =>
      simp [toExpr, nesting, Expr.nesting, argsNesting, Value.nesting]
  | and fs ih | or fs ih =>
      simp [toExpr, nesting, Expr.nesting, argsNesting, Value.nesting, hall ih]
  | not f ih => simp [toExpr, nesting, Expr.nesting, argsNesting, Value.nesting, ih]

theorem isWellNamed_toExpr (f : Filter) : f.toExpr.IsWellNamed := by
  have hall {fs : List Filter} (ih : ∀ f ∈ fs, f.toExpr.IsWellNamed) :
      (Value.list (toValues fs)).IsWellNamed := by
    rw [Value.isWellNamed_list_iff, toValues_eq_map, List.map_map, List.forall_mem_map]
    exact ih
  have hnode {kind : Kind} {key : String} {v : Value} (hfields : kind.form.fields = [key])
      (hv : v.IsWellNamed) : (Expr.node kind.form.tag [(key, v)]).IsWellNamed :=
    Expr.isWellNamed_node_of_form kind.isWellNamed_form (by simp [hfields])
      (List.forall_mem_singleton.2 hv)
  induction f using Filter.induction with
  | acceptAll => decide
  | displayName | parameterized => exact hnode rfl (Value.isWellNamed_string _)
  | and fs ih | or fs ih => exact hnode rfl (hall ih)
  | not f ih => exact hnode rfl ih

theorem hasList_toValues (tag : String) (fs : List Filter) :
    (Expr.node tag [("filters", .list (toValues fs))]).HasList "filters" (fs.map toExpr) := by
  rw [toValues_eq_map]
  exact .inr rfl

/-- A written filter is read back up to the white space, if there are levels enough for it. -/
theorem ofExprAt_toExpr {f : Filter} {n : Nat} (hn : f.nesting ≤ n) :
    ofExprAt n f.toExpr = .ok f.trimmed := by
  -- The levels left are what the decoder recurses on, and a conjunction leaves one unused.
  induction n generalizing f with
  | zero => exact absurd hn (Nat.not_le_of_lt f.nesting_pos)
  | succ n ih =>
      have hall {fs : List Filter} (hfs : nestingAll fs ≤ n) :
          List.Forall₂ (fun e f => ofExprAt n e = .ok f) (fs.map toExpr) (trimmedAll fs) := by
        rw [trimmedAll_eq_map, List.forall₂_map_left_iff, List.forall₂_map_right_iff,
          List.forall₂_same]
        exact fun f hf => ih (nestingAll_le_iff.1 hfs f hf)
      rw [ofExprAt_succ_eq_ok_iff]
      cases f with
      | acceptAll => exact .acceptAll (Expr.fits_node rfl (by decide))
      | displayName template =>
          rw [trimmed, ← trim_trim]
          exact .displayName (Expr.fits_node rfl (by decide)) rfl
      | and fs =>
          have hfs : nestingAll fs ≤ n := by
            rw [nesting] at hn
            omega
          exact .and (Expr.fits_node rfl (by decide)) (hasList_toValues _ fs) (hall hfs)
      | or fs =>
          have hfs : nestingAll fs ≤ n := by
            rw [nesting] at hn
            omega
          exact .or (Expr.fits_node rfl (by decide)) (hasList_toValues _ fs) (hall hfs)
      | not f =>
          rw [nesting] at hn
          exact .not (Expr.fits_node rfl (by decide)) rfl (ih (Nat.le_of_succ_le_succ hn))
      | parameterized parameter =>
          exact .parameterized (Expr.fits_node rfl (by decide)) rfl

end Filter

end BuildPicker
