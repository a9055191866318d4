import BuildPicker.Proofs.Codec.Selector
import BuildPicker.Proofs.Expr.RoundTrip
import BuildPicker.Proofs.Expr.Spelling

/-!
Filters and selectors that are written and read back.

Three counters limit the nesting: the reader of expressions and the two decoders
each have one of their own. The reader counts lists as well, so its limit is
reached first, and only its error is ever seen on a written text.
-/

namespace BuildPicker

open BuildPicker.Text

namespace Expr

theorem ofSource_eq_ok_iff {s : String} {e : Expr} :
    ofSource s = .ok e ↔ isBlankText s = false ∧ ofText s = .ok e := by
  unfold ofSource
  split
  · next hblank => simp [hblank]
  · next hblank =>
      simp only [Bool.eq_false_iff.2 hblank, true_and]
      split <;> simp_all

theorem DerivesText.isBlankText_eq_false {s : String} {e : Expr} (h : DerivesText s e) :
    isBlankText s = false := by
  obtain ⟨ws, inside, ws', -, -, hs, -⟩ := h.exists_spelling
  have hopening : isBlank '(' = false := by decide
  rw [isBlankText, hs, List.all_append, List.all_append, List.all_cons, hopening]
  simp only [Bool.false_and, Bool.and_false]

/-- Blankness takes care of itself. -/
theorem ofSource_eq_ok_iff_derivesText {s : String} {e : Expr} :
    ofSource s = .ok e ↔ DerivesText s e ∧ e.nesting ≤ maxNesting := by
  rw [ofSource_eq_ok_iff, ofText_eq_ok_iff, and_iff_right_iff_imp]
  exact fun h => h.1.isBlankText_eq_false

theorem isBlankText_text (e : Expr) : isBlankText e.text = false := by
  cases e with
  | node tag args =>
      have hopening : isBlank '(' = false := by decide
      simp [isBlankText, text, chars, hopening]

/-- What a written text is read as, errors of the codec included. -/
theorem ofSource_text {e : Expr} (h : e.IsWellNamed) :
    ofSource e.text =
      if e.nesting ≤ maxNesting then .ok e else .error (.malformed e.text .tooDeep) := by
  rw [ofSource, isBlankText_text, ofText_text h]
  by_cases hn : e.nesting ≤ maxNesting
  · simp [hn]
  · simp [hn]

end Expr

theorem Filter.decode_encode_eq_ite (f : Filter) :
    decode f.encode =
      if f.nesting ≤ maxNesting then .ok f.trimmed
      else .error (.malformed f.encode .tooDeep) := by
  rw [decode, encode, Expr.ofSource_text f.isWellNamed_toExpr, nesting_toExpr]
  by_cases hn : f.nesting ≤ maxNesting
  · rw [if_pos hn, if_pos hn]
    exact ofExprAt_toExpr hn
  · rw [if_neg hn, if_neg hn]
    rfl

theorem Selector.decode_encode_eq_ite (s : Selector) :
    decode s.encode =
      if s.nesting ≤ maxNesting then .ok s.trimmed
      else .error (.malformed s.encode .tooDeep) := by
  rw [decode, encode, Expr.ofSource_text s.isWellNamed_toExpr, nesting_toExpr]
  by_cases hn : s.nesting ≤ maxNesting
  · rw [if_pos hn, if_pos hn]
    exact ofExprAt_toExpr hn
  · rw [if_neg hn, if_neg hn]
    rfl

theorem DecodeError.message_malformed_tooDeep (text : String) :
    (malformed text .tooDeep).message =
      "syntax error: nesting too deep: at most 64 levels are allowed" := by
  change "syntax error: " ++ Fault.message text .tooDeep = _
  rw [Expr.message_tooDeep]
  rfl

/-- A filter or selector of at most 64 levels is read back from its text with its templates
trimmed; beyond that the text is refused for its nesting. -/
theorem decode_encode :
    (∀ f : Filter, f.toExpr.nesting = f.nesting ∧
      Filter.decode f.encode =
        if f.nesting ≤ 64 then .ok f.trimmed else .error (.malformed f.encode .tooDeep)) ∧
    (∀ s : Selector, s.toExpr.nesting = s.nesting ∧
      Selector.decode s.encode =
        if s.nesting ≤ 64 then .ok s.trimmed else .error (.malformed s.encode .tooDeep)) ∧
    ∀ text, (DecodeError.malformed text .tooDeep).code = "SYNTAX" ∧
      (DecodeError.malformed text .tooDeep).message =
        "syntax error: nesting too deep: at most 64 levels are allowed" :=
  ⟨fun f => ⟨f.nesting_toExpr, f.decode_encode_eq_ite⟩,
    fun s => ⟨s.nesting_toExpr, s.decode_encode_eq_ite⟩,
    fun text => ⟨rfl, DecodeError.message_malformed_tooDeep text⟩⟩

end BuildPicker
