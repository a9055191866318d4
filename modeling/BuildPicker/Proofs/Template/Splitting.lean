import BuildPicker.Proofs.Expr.Lexical
import BuildPicker.Proofs.Template.Strings
import Mathlib.Data.List.Basic

/-!
How templates fall into pieces.

Where a reference begins, and where it ends, can be told from the characters alone. This
leaves one way to take a template apart without losing anything: a reference wherever one
begins, and a plain character everywhere else. The variables have no part in it, so what
they hold is put in and never looked at again.
-/

namespace BuildPicker

open BuildPicker.Expr

namespace Reference

/-- A text that begins with a reference. In braces the name ends with the first closing brace;
without braces it goes on as long as there are characters for it. -/
inductive Begins : Reference → List Char → Prop
  | braced {name rest : List Char} (hne : name ≠ []) (hname : '}' ∉ name) :
      Begins ⟨true, name⟩ ('$' :: '{' :: (name ++ '}' :: rest))
  | plain {name rest : List Char} (hne : name ≠ []) (hname : ∀ c ∈ name, isNameChar c)
      (hrest : Stops isNameChar rest) : Begins ⟨false, name⟩ ('$' :: (name ++ rest))

variable {r : Reference} {cs : List Char}

theorem Begins.read?_eq (h : r.Begins cs) : read? cs = some r := by
  cases h with
  | braced hne hname =>
      rw [read?_closed hname, if_neg (by simpa using hne)]
  | @plain name rest hne hname hrest =>
      have hhead : (name ++ rest).head? ≠ some '{' := by
        obtain ⟨c, tail, rfl⟩ := List.exists_cons_of_ne_nil hne
        have hc : c ≠ '{' := ne_of_isNameChar (hname c List.mem_cons_self) (by decide)
        simpa using hc
      rw [read?_plain hhead, takeWhile_append_of_stops hname hrest, if_neg (by simpa using hne)]

theorem begins_of_read? (h : read? cs = some r) : r.Begins cs := by
  cases cs with
  | nil => cases h
  | cons c cs =>
      by_cases hc : c = '$'
      · subst hc
        by_cases hbrace : cs.head? = some '{'
        · obtain ⟨tail, rfl⟩ := List.head?_eq_some_iff.1 hbrace
          by_cases hclosed : '}' ∈ tail
          · obtain ⟨name, rest, rfl, hname⟩ := List.eq_append_cons_of_mem hclosed
            rw [read?_closed hname] at h
            split at h
            · cases h
            · next hne =>
                cases h
                exact .braced (by simpa using hne) hname
          · rw [read?_unclosed hclosed] at h
            cases h
        · rw [read?_plain hbrace] at h
          split at h
          · cases h
          · next hne =>
              cases h
              have hbegins := Begins.plain (by simpa using hne)
                (fun c hc => List.mem_takeWhile_imp hc) (stops_dropWhile isNameChar cs)
              rwa [List.takeWhile_append_dropWhile] at hbegins
      · rw [read?_eq_none hc] at h
        cases h

theorem read?_eq_some_iff : read? cs = some r ↔ r.Begins cs :=
  ⟨begins_of_read?, Begins.read?_eq⟩

theorem read?_eq_none_iff : read? cs = none ↔ ∀ r : Reference, ¬r.Begins cs := by
  simp only [Option.eq_none_iff_forall_ne_some, ne_eq, read?_eq_some_iff]

end Reference

/-! ### Taking a template apart -/

/-- Whether a piece is what a text begins with: a reference if there is one, and only then. -/
def Piece.Fits (cs : List Char) : Piece → Prop
  | plain _ => ∀ r : Reference, ¬r.Begins cs
  | reference r => r.Begins cs

/-- The pieces make up the text, and each fits where it stands. -/
structure IsSplit (cs : List Char) (ps : List Piece) : Prop where
  lossless : ps.flatMap Piece.source = cs
  fits : ∀ before p after, ps = before ++ p :: after → p.Fits ((p :: after).flatMap Piece.source)

variable {cs : List Char} {p : Piece} {ps qs : List Piece}

theorem isSplit_nil_iff : IsSplit cs [] ↔ cs = [] := by
  constructor
  · intro h
    exact h.lossless.symm
  · rintro rfl
    exact ⟨rfl, fun before p after h => by simp at h⟩

theorem isSplit_cons_iff :
    IsSplit cs (p :: ps) ↔ ∃ rest, cs = p.source ++ rest ∧ p.Fits cs ∧ IsSplit rest ps := by
  constructor
  · intro h
    have hlossless := h.lossless
    rw [List.flatMap_cons] at hlossless
    refine ⟨ps.flatMap Piece.source, hlossless.symm, h.lossless ▸ h.fits [] p ps rfl, rfl, ?_⟩
    intro before q after hps
    exact h.fits (p :: before) q after (congrArg (p :: ·) hps)
  · rintro ⟨rest, rfl, hp, hps⟩
    refine ⟨by rw [List.flatMap_cons, hps.lossless], fun before q after hsplit => ?_⟩
    cases before with
    | nil =>
        obtain ⟨rfl, rfl⟩ := List.cons.inj hsplit
        rwa [List.flatMap_cons, hps.lossless]
    | cons first before =>
        exact hps.fits before q after (List.cons.inj hsplit).2

theorem isSplit_pieces (cs : List Char) : IsSplit cs (pieces cs) := by
  induction cs using pieces_induction with
  | nil => exact isSplit_nil_iff.2 rfl
  | plain c cs hr ih =>
      rw [pieces_cons_of_none hr]
      exact isSplit_cons_iff.2 ⟨cs, rfl, Reference.read?_eq_none_iff.1 hr, ih⟩
  | reference r cs hr ih =>
      rw [pieces_source_append hr]
      exact isSplit_cons_iff.2 ⟨cs, rfl, Reference.begins_of_read? hr, ih⟩

/-- The text alone decides on the first piece, and so on all of them. -/
theorem IsSplit.eq_pieces (h : IsSplit cs ps) : ps = pieces cs := by
  induction ps generalizing cs with
  | nil =>
      obtain rfl := isSplit_nil_iff.1 h
      rfl
  | cons p ps ih =>
      obtain ⟨rest, rfl, hp, hps⟩ := isSplit_cons_iff.1 h
      rw [ih hps]
      cases p with
      | plain c => exact (pieces_cons_of_none (Reference.read?_eq_none_iff.2 hp)).symm
      | reference r => exact (pieces_source_append hp.read?_eq).symm

/-! ### Expansion -/

/-- The variable that a piece refers to. -/
def Piece.name? : Piece → Option String
  | plain _ => none
  | reference r => some (String.ofList r.name)

namespace Variables

variable {vars vars' : Variables}

theorem expandPiece_congr (h : ∀ name ∈ p.name?, vars.get? name = vars'.get? name) :
    vars.expandPiece p = vars'.expandPiece p := by
  cases p with
  | plain c => rfl
  | reference r => rw [expandPiece, expandPiece, h _ rfl]

theorem expandPiece_eq_source (h : ∀ name ∈ p.name?, vars.get? name = none) :
    vars.expandPiece p = p.source := by
  cases p with
  | plain c => rfl
  | reference r => rw [expandPiece, h _ rfl, Option.map_none, Option.getD_none, Piece.source]

/-- A template falls into plain characters and references in one way only, whatever the variables
hold. It expands to these pieces, with the value of each bound variable in the place of the
references to it. So it stays as it is if none of its variables is bound, and other variables do
not matter. -/
theorem expand_lossless (template : String) :
    ∃ ps, IsSplit template.toList ps ∧ (∀ qs, IsSplit template.toList qs → qs = ps) ∧
      (∀ vars : Variables, (vars.expand template).toList = ps.flatMap vars.expandPiece) ∧
      (∀ vars : Variables, (∀ name ∈ ps.filterMap Piece.name?, vars.get? name = none) →
        vars.expand template = template) ∧
      ∀ vars vars' : Variables,
        (∀ name ∈ ps.filterMap Piece.name?, vars.get? name = vars'.get? name) →
          vars.expand template = vars'.expand template := by
  have hsplit := isSplit_pieces template.toList
  have hmem {p : Piece} (hp : p ∈ pieces template.toList) {name : String} (hname : name ∈ p.name?) :
      name ∈ (pieces template.toList).filterMap Piece.name? :=
    List.mem_filterMap.2 ⟨p, hp, hname⟩
  refine ⟨pieces template.toList, hsplit, fun qs => IsSplit.eq_pieces,
    fun vars => String.toList_ofList, fun vars hunbound => ?_, fun vars vars' hsame => ?_⟩
  · have hsource : (pieces template.toList).flatMap vars.expandPiece =
        (pieces template.toList).flatMap Piece.source :=
      List.flatMap_congr fun p hp =>
        expandPiece_eq_source fun name hname => hunbound name (hmem hp hname)
    rw [expand, hsource, hsplit.lossless, String.ofList_toList]
  · refine congrArg String.ofList (List.flatMap_congr fun p hp => ?_)
    exact expandPiece_congr fun name hname => hsame name (hmem hp hname)

/-- Dollar signs and braces that begin no reference, an unbound name with a reference in it, and
values with references in them. -/
theorem expand_lossless_nested :
    let template := "$$\x7bA\x7d$\x7b$\x7bA\x7d\x7d$\x7b\x7d$B$"
    let vars : Variables := .ofList [("A", "$B"), ("B", "$\x7bA\x7d")]
    vars.expand template = "$$B$\x7b$\x7bA\x7d\x7d$\x7b\x7d$\x7bA\x7d$" ∧
    expand (.ofList [("C", "c")]) template = template ∧
    expand (vars.insert "C" "c") template = vars.expand template := by
  intro template vars
  obtain ⟨ps, -, hunique, hexpand, hunbound, hsame⟩ := expand_lossless template
  obtain rfl : pieces template.toList = ps := hunique _ (isSplit_pieces _)
  exact ⟨String.toList_injective ((hexpand vars).trans (by decide)), hunbound _ (by decide),
    hsame _ _ (by decide)⟩

end Variables

end BuildPicker
