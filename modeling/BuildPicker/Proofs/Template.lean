import BuildPicker.Template
import BuildPicker.Proofs.Text.Trim
import Mathlib.Data.List.TakeWhile

/-!
Templates that are a single reference, or hold none.

A text without a dollar sign expands to itself. A text that is nothing but a
reference is one piece, so it expands to the value of its variable, whatever
stands in that value.
-/

namespace BuildPicker

open BuildPicker.Text

/-! ### Names of variables -/

/-- A name that can stand behind a dollar sign without braces. -/
def IsVariableName (name : List Char) : Prop :=
  name ≠ [] ∧ ∀ c ∈ name, Reference.isNameChar c

instance (name : List Char) : Decidable (IsVariableName name) :=
  decidable_of_iff (name ≠ [] ∧ name.all Reference.isNameChar = true)
    (and_congr_right' List.all_eq_true)

namespace Reference

theorem ne_of_isNameChar {c d : Char} (hc : isNameChar c) (hd : isNameChar d = false) : c ≠ d := by
  rintro rfl
  rw [hd] at hc
  cases hc

theorem toNat_of_isNameChar {c : Char} (hc : isNameChar c) : 48 ≤ c.toNat ∧ c.toNat ≤ 122 := by
  rw [isNameChar, Bool.or_eq_true, beq_iff_eq] at hc
  obtain hc | rfl := hc
  · delta Char.isAlphanum Char.isAlpha Char.isUpper Char.isLower Char.isDigit at hc
    simp only [Bool.or_eq_true, Bool.and_eq_true, decide_eq_true_eq, ge_iff_le,
      UInt32.le_iff_toNat_le] at hc
    change ((65 ≤ c.toNat ∧ c.toNat ≤ 90) ∨ (97 ≤ c.toNat ∧ c.toNat ≤ 122)) ∨
      (48 ≤ c.toNat ∧ c.toNat ≤ 57) at hc
    omega
  · decide

theorem isBlank_eq_false_of_isNameChar {c : Char} (hc : isNameChar c) : isBlank c = false := by
  rw [Bool.eq_false_iff]
  intro hblank
  obtain hblank | hblank := toNat_of_isBlank hblank
  all_goals
    have := toNat_of_isNameChar hc
    omega

theorem head?_source (r : Reference) : r.source.head? = some '$' := by
  unfold source
  split
  · rfl
  · rfl

theorem read?_source_plain {name : List Char} (h : IsVariableName name) :
    read? (source ⟨false, name⟩) = some ⟨false, name⟩ := by
  obtain ⟨hne, hname⟩ := h
  obtain ⟨c, tail, rfl⟩ := List.exists_cons_of_ne_nil hne
  have hc : c ≠ '{' := ne_of_isNameChar (hname c List.mem_cons_self) (by decide)
  have htake : (c :: tail).takeWhile isNameChar = c :: tail :=
    List.takeWhile_eq_self_iff.2 hname
  simp [source, read?, htake, hc]

theorem read?_source_braced {name : List Char} (hne : name ≠ []) (hname : '}' ∉ name) :
    read? (source ⟨true, name⟩) = some ⟨true, name⟩ := by
  have htake : (name ++ ['}']).takeWhile (· != '}') = name := by
    rw [List.takeWhile_append_of_pos]
    · simp
    · intro c hc
      simpa using fun h : c = '}' => hname (h ▸ hc)
  simp [source, read?, htake, hne]

theorem read?_eq_none {c : Char} (hc : c ≠ '$') (cs : List Char) : read? (c :: cs) = none := by
  unfold read?
  split
  · next heq => exact absurd (List.cons.inj heq).1 hc
  · next heq => exact absurd (List.cons.inj heq).1 hc
  · rfl

end Reference

/-! ### Pieces -/

theorem piecesFrom_length (cs : List Char) : piecesFrom cs.length cs = [] := by
  induction cs with
  | nil => rfl
  | cons c cs ih => exact ih

theorem pieces_source {r : Reference} (h : Reference.read? r.source = some r) :
    pieces r.source = [.reference r] := by
  obtain ⟨cs, hsource⟩ := List.head?_eq_some_iff.1 r.head?_source
  rw [hsource] at h ⊢
  simp only [pieces, piecesFrom, h, hsource]
  exact congrArg _ (piecesFrom_length cs)

/-- A text without a dollar sign is made of plain characters, whatever stands behind it. -/
theorem pieces_append_of_not_mem {cs : List Char} (h : '$' ∉ cs) (rest : List Char) :
    pieces (cs ++ rest) = cs.map .plain ++ pieces rest := by
  induction cs with
  | nil => rfl
  | cons c cs ih =>
      obtain ⟨hc, hcs⟩ := List.ne_and_not_mem_of_not_mem_cons h
      simp only [pieces, List.cons_append, piecesFrom, Reference.read?_eq_none hc.symm,
        List.map_cons]
      exact congrArg _ (ih hcs)

theorem pieces_of_not_mem {cs : List Char} (h : '$' ∉ cs) : pieces cs = cs.map .plain := by
  have hpieces := pieces_append_of_not_mem h []
  rw [List.append_nil] at hpieces
  exact hpieces.trans (List.append_nil _)

/-! ### Expansion -/

namespace Variables

variable {vars : Variables} {value : String}

theorem flatMap_plain (vars : Variables) (cs : List Char) :
    (cs.map Piece.plain).flatMap vars.expandPiece = cs := by
  rw [List.flatMap_map]
  exact List.flatMap_singleton' cs

theorem expand_of_not_mem (vars : Variables) {template : String} (h : '$' ∉ template.toList) :
    vars.expand template = template := by
  rw [expand, pieces_of_not_mem h, flatMap_plain, String.ofList_toList]

theorem expand_source {r : Reference} (h : Reference.read? r.source = some r)
    (hvalue : vars.get? (String.ofList r.name) = some value) :
    vars.expand (String.ofList r.source) = value := by
  rw [expand, String.toList_ofList, pieces_source h, List.flatMap_singleton, expandPiece, hvalue,
    Option.map_some, Option.getD_some, String.ofList_toList]

/-- The value of a variable stands for a reference to it, however it is written, and is not looked
into. -/
theorem expand_reference {name : String} (hname : IsVariableName name.toList)
    (hvalue : vars.get? name = some value) :
    vars.expand ("$" ++ name) = value ∧ vars.expand ("$\x7b" ++ name ++ "\x7d") = value := by
  have hbrace : '}' ∉ name.toList := fun hmem => absurd (hname.2 '}' hmem) (by decide)
  have hplain : "$" ++ name = String.ofList (Reference.source ⟨false, name.toList⟩) :=
    String.toList_injective (by simp [Reference.source])
  have hbraced : "$\x7b" ++ name ++ "\x7d" =
      String.ofList (Reference.source ⟨true, name.toList⟩) :=
    String.toList_injective (by simp [Reference.source])
  rw [← String.ofList_toList (s := name)] at hvalue
  rw [hplain, hbraced]
  exact ⟨expand_source (Reference.read?_source_plain hname) hvalue,
    expand_source (Reference.read?_source_braced hname.1 hbrace) hvalue⟩

end Variables

end BuildPicker
