import BuildPicker.Proofs.Codec.RoundTrip

/-!
Equal texts.

The reader of expressions gives up past a certain depth, but the grammar that it
follows does not: a text has one tree, however deeply this nests, and so have
decoders that are given levels enough. So the texts of two filters or selectors are
equal exactly if the two are, up to the white space around their templates.
-/

namespace BuildPicker

/-- Trees whose tags and keys are names have the same text only if they are the same. -/
theorem Expr.text_eq_iff {e e' : Expr} (h : e.IsWellNamed) (h' : e'.IsWellNamed) :
    e.text = e'.text ↔ e = e' := by
  constructor
  · intro htext
    have hderives : DerivesText e.text e := derivesText_text h
    have hderives' : DerivesText e'.text e' := derivesText_text h'
    rw [← htext] at hderives'
    exact hderives.unique hderives'
  · rintro rfl
    rfl

namespace Filter

/-- The white space around display names is not written. -/
theorem toExpr_trimmed (f : Filter) : f.trimmed.toExpr = f.toExpr := by
  have hall {fs : List Filter} (ih : ∀ f ∈ fs, f.trimmed.toExpr = f.toExpr) :
      toValues (trimmedAll fs) = toValues fs := by
    simp only [toValues_eq_map, trimmedAll_eq_map, List.map_map]
    exact List.map_congr_left fun f hf => congrArg Value.expr (ih f hf)
  induction f using Filter.induction with
  | acceptAll | parameterized => rfl
  | displayName template => rw [trimmed, toExpr, toExpr, Text.trim_trim]
  | and fs ih | or fs ih => rw [trimmed, toExpr, toExpr, hall ih]
  | not f ih => rw [trimmed, toExpr, toExpr, ih]

theorem toExpr_eq_iff {f g : Filter} : f.toExpr = g.toExpr ↔ f.trimmed = g.trimmed := by
  constructor
  · intro h
    -- With the levels that both of them need, both are read back from the one expression.
    have hf := ofExprAt_toExpr (Nat.le_max_left f.nesting g.nesting)
    have hg := ofExprAt_toExpr (Nat.le_max_right f.nesting g.nesting)
    rw [h, hg] at hf
    exact (Except.ok.inj hf).symm
  · intro h
    rw [← f.toExpr_trimmed, ← g.toExpr_trimmed, h]

end Filter

namespace Selector

/-- The white space around templates is not written, nor that in the filters of entries. -/
theorem toExpr_trimmed (s : Selector) : s.trimmed.toExpr = s.toExpr := by
  induction s using Selector.induction with
  | buildNumber template | displayName template | permalink template =>
      rw [trimmed, toExpr, toExpr, Text.trim_trim]
  | status | triggering | parameterized => rfl
  | fallback entries ih =>
      have hentry (entry : Selector × Filter) (hmem : entry ∈ entries) :
          entryToExpr (entry.1.trimmed, entry.2.trimmed) = entryToExpr entry := by
        rw [entryToExpr, entryToExpr, ih entry hmem, Filter.toExpr_trimmed]
      have hall : toValues (trimmedAll entries) = toValues entries := by
        simp only [toValues_eq_map, trimmedAll_eq_map, List.map_map]
        exact List.map_congr_left fun entry hmem => congrArg Value.expr (hentry entry hmem)
      rw [trimmed, toExpr, toExpr, hall]

theorem toExpr_eq_iff {s t : Selector} : s.toExpr = t.toExpr ↔ s.trimmed = t.trimmed := by
  constructor
  · intro h
    have hs := ofExprAt_toExpr (Nat.le_max_left s.nesting t.nesting)
    have ht := ofExprAt_toExpr (Nat.le_max_right s.nesting t.nesting)
    rw [h, ht] at hs
    exact (Except.ok.inj hs).symm
  · intro h
    rw [← s.toExpr_trimmed, ← t.toExpr_trimmed, h]

end Selector

/-- Two filters, or two selectors, of whatever depth have the same text exactly if they are the
same after trimming their templates. -/
theorem encode_eq_iff_trimmed_eq :
    (∀ f g : Filter, f.encode = g.encode ↔ f.trimmed = g.trimmed) ∧
    ∀ s t : Selector, s.encode = t.encode ↔ s.trimmed = t.trimmed := by
  constructor
  · intro f g
    apply Iff.trans (Expr.text_eq_iff f.isWellNamed_toExpr g.isWellNamed_toExpr)
    exact Filter.toExpr_eq_iff
  · intro s t
    apply Iff.trans (Expr.text_eq_iff s.isWellNamed_toExpr t.isWellNamed_toExpr)
    exact Selector.toExpr_eq_iff

end BuildPicker
