import BuildPicker.Proofs.Expr.Soundness
import BuildPicker.Expr.Printer
import Mathlib

/-!
Canonical texts and the trees they are read back as.

The canonical text of a tree is one of the texts that the grammar derives the tree
from, provided that all tags and keys are names. The reader therefore gives the
tree back up to the limit of nesting, and for any other tree it gives something
else or nothing.
-/

namespace BuildPicker

open BuildPicker.Text

namespace Expr

/-! ### Strings and integers -/

theorem derivesBody_escaped (s : List Char) : DerivesBody (s.flatMap escaped) s := by
  induction s with
  | nil => exact .nil
  | cons c s ih =>
      rw [List.flatMap_cons]
      unfold escaped
      split
      · exact .escape .quote ih
      · exact .escape .backslash ih
      · exact .escape .lineFeed ih
      · exact .escape .carriageReturn ih
      · exact .escape .tab ih
      · next hquote hbackslash _ _ _ => exact .plain hquote hbackslash ih

theorem derivesNumber_numeral (i : Int) : DerivesNumber (numeral i) i := by
  have hdigits (n : Nat) : ∀ c ∈ Nat.toDigits 10 n, c.isDigit := fun _ => isDigit_of_mem_toDigits
  cases i with
  | ofNat n => simpa [numeral] using DerivesNumber.positive Nat.toDigits_ne_nil (hdigits n)
  | negSucc n =>
      simpa [numeral, Int.negSucc_eq] using
        DerivesNumber.negative Nat.toDigits_ne_nil (hdigits (n + 1))

/-! ### Arguments and items -/

theorem isSpacing_space : IsSpacing [' '] := by simp [IsSpacing, isSpace]

/-- The text of `v` can be followed by anything that does not begin with a digit. -/
def WritesBack (v : Value) : Prop :=
  ∀ rest, Stops Char.isDigit rest → DerivesValue (v.chars ++ rest) v rest

theorem derivesArgs_argChars {args : List (String × Value)}
    (hargs : ∀ arg ∈ args, isName arg.1.toList ∧ WritesBack arg.2) (rest : List Char) :
    DerivesArgs (argChars args ++ ')' :: rest) args (')' :: rest) := by
  induction args with
  | nil => exact .nil _
  | cons arg args ih =>
      obtain ⟨key, v⟩ := arg
      obtain ⟨⟨hkey, hv⟩, hrest⟩ := List.forall_mem_cons.1 hargs
      have hstops : Stops Char.isDigit (argChars args ++ ')' :: rest) := by
        cases args <;> simp [argChars]
      simpa [argChars] using
        DerivesArgs.cons isSpacing_space hkey isSpacing_space (by simp) (hv _ hstops) (ih hrest)

theorem derivesItems_itemChars {items : List Value} (hitems : ∀ v ∈ items, WritesBack v)
    (rest : List Char) :
    DerivesItems (itemChars items ++ ']' :: rest) items (']' :: rest) := by
  induction items with
  | nil => exact .nil _
  | cons v items ih =>
      obtain ⟨hv, hrest⟩ := List.forall_mem_cons.1 hitems
      cases items with
      | nil =>
          have hv' : DerivesValue (v.chars ++ ']' :: rest) v ([] ++ ']' :: rest) :=
            hv _ (by simp)
          exact .cons hv' (.blank isSpacing_nil) (.nil _)
      | cons w items =>
          have hv' : DerivesValue
              (v.chars ++ ' ' :: (itemChars (w :: items) ++ ']' :: rest)) v
              ([' '] ++ (itemChars (w :: items) ++ ']' :: rest)) :=
            hv _ (by simp)
          simpa [itemChars] using DerivesItems.cons hv' (.blank isSpacing_space) (ih hrest)

theorem writesBack_of_isWellNamed {v : Value} (hv : v.IsWellNamed) : WritesBack v := by
  induction v using Value.induction with
  | nil => exact fun rest _ => .nil rest
  | boolean b =>
      intro rest _
      cases b with
      | true => exact .yes rest
      | false => exact .no rest
  | integer i => exact fun rest hrest => .integer (derivesNumber_numeral i.toInt) hrest
  | string s =>
      intro rest _
      simpa [Value.chars, quoted] using DerivesValue.string rest (derivesBody_escaped s.toList)
  | expr tag args ih =>
      intro rest _
      obtain ⟨htag, hargs⟩ := Expr.isWellNamed_node_iff.1 hv
      have hwrites : ∀ arg ∈ args, isName arg.1.toList ∧ WritesBack arg.2 :=
        fun arg harg => ⟨(hargs arg harg).1, ih arg harg (hargs arg harg).2⟩
      have hderives := derivesArgs_argChars hwrites rest
      simpa [Value.chars, Expr.chars] using
        DerivesValue.expr (.node isSpacing_nil htag hderives isSpacing_nil)
  | list items ih =>
      intro rest _
      have hitems := Value.isWellNamed_list_iff.1 hv
      have hderives := derivesItems_itemChars (fun v hv => ih v hv (hitems v hv)) rest
      simpa [Value.chars] using DerivesValue.list isSpacing_nil hderives isSpacing_nil

/-- The canonical text of a tree is derived from it by the grammar. -/
theorem derivesText_text {e : Expr} (h : e.IsWellNamed) : DerivesText e.text e := by
  have hvalue : WritesBack (.expr e) := writesBack_of_isWellNamed h
  have he := derivesValue_expr_iff.1 (hvalue [] (by simp))
  simpa [text, Value.chars] using DerivesText.intro isSpacing_nil he isSpacing_nil

/-- What the reader makes of the canonical text of a tree that can be written down. -/
theorem ofText_text {e : Expr} (h : e.IsWellNamed) :
    ofText e.text = if e.nesting ≤ maxNesting then .ok e else .error .tooDeep :=
  ofText_eq_of_derivesText (derivesText_text h)

/-- The message for a canonical text that nests too deeply says no more than that. -/
theorem message_tooDeep (text : String) :
    Fault.message text .tooDeep = "nesting too deep: at most 64 levels are allowed" := by
  have hlimit : numeralText maxNesting = "64" := by decide
  change "nesting too deep: at most " ++ numeralText maxNesting ++ " levels are allowed" = _
  rw [hlimit]
  rfl

/-! ### Negations -/

/-- `n` negations around an expression. -/
def negated : Nat → Expr → Expr
  | 0, e => e
  | n + 1, e => .node "not" [("filter", .expr (negated n e))]

@[simp] theorem nesting_negated (n : Nat) (e : Expr) :
    (negated n e).nesting = n + e.nesting := by
  induction n with
  | zero => simp [negated]
  | succ n ih =>
      simp only [negated, Expr.nesting, argsNesting, Value.nesting, ih]
      omega

theorem isWellNamed_negated_iff {n : Nat} {e : Expr} :
    (negated n e).IsWellNamed ↔ e.IsWellNamed := by
  have hnot : isName "not".toList := by decide
  have hfilter : isName "filter".toList := by decide
  induction n with
  | zero => rfl
  | succ n ih =>
      refine Iff.trans ?_ ih
      rw [negated, Expr.isWellNamed_node_iff]
      simp only [List.mem_singleton, forall_eq, hnot, hfilter, true_and]
      rfl

/-! ### Main statements -/

/-- A tree is read back from its canonical text exactly when its tags and keys are names and it
nests at most 64 levels. If only the nesting is at fault, the message is about nothing else. -/
theorem ofText_text_eq_ok_iff (e : Expr) :
    (ofText e.text = .ok e ↔ e.IsWellNamed ∧ e.nesting ≤ 64) ∧
      (e.IsWellNamed → 64 < e.nesting →
        (ofText e.text).mapError (Fault.message e.text) =
          .error "nesting too deep: at most 64 levels are allowed") := by
  refine ⟨⟨fun h => ?_, fun ⟨hnames, hn⟩ => ?_⟩, fun hnames hn => ?_⟩
  · obtain ⟨hderives, hn⟩ := ofText_eq_ok_iff.1 h
    exact ⟨hderives.isWellNamed, hn⟩
  · rw [ofText_text hnames, if_pos (by exact hn)]
  · rw [ofText_text hnames, if_neg (by exact Nat.not_le_of_lt hn), Except.mapError,
      message_tooDeep]

/-- Sixty-four negations leave no level for the expression inside. -/
theorem mapError_ofText_text_negated :
    (negated 64 (.node "accept-all" [])).IsWellNamed ∧
      64 < (negated 64 (.node "accept-all" [])).nesting ∧
      (ofText (negated 64 (.node "accept-all" [])).text).mapError
          (Fault.message (negated 64 (.node "accept-all" [])).text) =
        .error "nesting too deep: at most 64 levels are allowed" := by
  have hnames : (negated 64 (.node "accept-all" [])).IsWellNamed :=
    isWellNamed_negated_iff.2 (by decide)
  have hnesting : 64 < (negated 64 (.node "accept-all" [])).nesting := by
    rw [nesting_negated]
    decide
  exact ⟨hnames, hnesting, (ofText_text_eq_ok_iff _).2 hnames hnesting⟩

/-- The reader accepts exactly what the grammar derives with at most 64 levels. An accepted tree
can be written down, and all its spellings are read as the same tree, the canonical one among
them. -/
theorem ofText_eq_ok_iff_derivesText (s : String) (e : Expr) :
    (ofText s = .ok e ↔ DerivesText s e ∧ e.nesting ≤ 64) ∧
      (ofText s = .ok e → e.IsWellNamed ∧ ofText e.text = .ok e ∧
        ∀ t, DerivesText t e → ofText t = .ok e) := by
  refine ⟨ofText_eq_ok_iff, fun h => ?_⟩
  obtain ⟨hderives, hn⟩ := ofText_eq_ok_iff.1 h
  have hspellings (t : String) (ht : DerivesText t e) : ofText t = .ok e :=
    ofText_eq_ok_iff.2 ⟨ht, hn⟩
  exact ⟨hderives.isWellNamed, hspellings _ (derivesText_text hderives.isWellNamed), hspellings⟩

/-- Line feeds, a comma and the lack of anything between two items make no difference. -/
theorem ofText_layouts :
    let e : Expr := .node "or" [("filters", .list [.expr (.node "x" []), .integer 7])]
    ofText "(or :filters [(x) 7])" = .ok e ∧ e.IsWellNamed ∧ ofText e.text = .ok e ∧
      ofText "( or\n:filters\t[(x )7,] ) " = .ok e := by
  intro e
  have hread : ofText "(or :filters [(x) 7])" = .ok e := by cbv
  have hspelling : DerivesText "( or\n:filters\t[(x )7,] ) " e :=
    ((ofText_eq_ok_iff_derivesText _ _).1.1 (by cbv)).1
  obtain ⟨hnames, htext, hall⟩ := (ofText_eq_ok_iff_derivesText _ e).2 hread
  exact ⟨hread, hnames, htext, hall _ hspelling⟩

end Expr

end BuildPicker
