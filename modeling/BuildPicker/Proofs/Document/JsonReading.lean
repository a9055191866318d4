import BuildPicker.Proofs.Document.JsonSpelling
import BuildPicker.Proofs.Expr.Lexical
import Mathlib.Data.List.DropRight

/-!
Reading JSON.

A text for a document is read as this document, wherever there is white space in it. What
stands behind a value must not be such that it could go on with a number. The rounds of
the reader suffice as long as they are no fewer than the characters of the value.
-/

namespace BuildPicker

open BuildPicker.Text
open BuildPicker.Expr (Stops stops_nil stops_cons takeWhile_append_of_stops
  dropWhile_append_of_stops)

namespace Json

/-! ### White space -/

theorem skip_append {ws : List Char} (h : IsSpacing ws) (cs : List Char) :
    skip (ws ++ cs) = skip cs :=
  List.dropWhile_append_of_pos h

theorem skip_cons {c : Char} (h : isJsonSpace c = false) (cs : List Char) :
    skip (c :: cs) = c :: cs := by
  simp [skip, h]

theorem skip_skip (cs : List Char) : skip (skip cs) = skip cs :=
  List.dropWhile_idempotent isJsonSpace cs

theorem eq_of_isJsonSpace {c : Char} (h : isJsonSpace c) :
    c = ' ' ∨ c = '\t' ∨ c = '\n' ∨ c = '\r' := by
  simpa [isJsonSpace, or_assoc] using h

/-! ### Strings -/

/-- The units of a string, with one more in front. -/
def withUnit (unit : CodeUnit) : List CodeUnit × List Char → List CodeUnit × List Char
  | (units, rest) => (unit :: units, rest)

theorem readUnits?_letter {letter c : Char} (hletter : letter ≠ 'u') (hc : escape? letter = some c)
    (cs : List Char) :
    readUnits? ('\\' :: letter :: cs) = (readUnits? cs).map (withUnit (.char c)) := by
  rw [readUnits?]
  · rw [hc]
    cases readUnits? cs with
    | none | some => rfl
  · rintro _ _ _ _ _ rfl
    exact fun _ => absurd rfl hletter

theorem radix?_hexLetter :
    ∀ n < 0x20, radix? 16 ['0', '0', hexLetter (n / 16), hexLetter (n % 16)] = some n := by
  decide

theorem readUnits?_control {c : Char} (hc : c.toNat < 0x20) (cs : List Char) :
    readUnits? ('\\' :: 'u' :: '0' :: '0' :: hexLetter (c.toNat / 16) :: hexLetter (c.toNat % 16) ::
      cs) = (readUnits? cs).map (withUnit (.char c)) := by
  have hunit : CodeUnit.ofNat c.toNat = .char c := by
    have hlow : ¬0xd800 ≤ c.toNat := by omega
    simp [CodeUnit.ofNat, hlow]
  rw [readUnits?, radix?_hexLetter c.toNat hc]
  cases readUnits? cs with
  | none => rfl
  | some parts => simp [hunit, withUnit]

theorem readUnits?_plain {c : Char} (hquote : c ≠ '"') (hbackslash : c ≠ '\\')
    (hc : ¬c.toNat < 0x20) (cs : List Char) :
    readUnits? (c :: cs) = (readUnits? cs).map (withUnit (.char c)) := by
  rw [readUnits?]
  · cases readUnits? cs with
    | none | some => simp [hc, hbackslash, withUnit]
  · exact hquote
  · exact fun _ _ _ _ _ h _ => hbackslash h
  · exact fun _ _ h _ => hbackslash h

/-- What is written for a character is read as this character. -/
theorem readUnits?_escaped (c : Char) (cs : List Char) :
    readUnits? (escaped c ++ cs) = (readUnits? cs).map (withUnit (.char c)) := by
  unfold escaped
  split
  case h_8 hquote hbackslash _ _ _ _ _ =>
    split
    · next hc => exact readUnits?_control hc cs
    · next hc => exact readUnits?_plain hquote hbackslash hc cs
  all_goals exact readUnits?_letter (by decide) rfl cs

theorem readUnits?_append (s rest : List Char) :
    readUnits? (s.flatMap escaped ++ '"' :: rest) = some (s.map .char, rest) := by
  induction s with
  | nil => rfl
  | cons c s ih =>
      rw [List.flatMap_cons, List.append_assoc, readUnits?_escaped, ih]
      rfl

theorem joinHalves?_map_char (s : List Char) : joinHalves? (s.map .char) = some s := by
  induction s with
  | nil => rfl
  | cons c s ih => simp [joinHalves?, ih]

theorem readString?_append (s : String) (rest : List Char) :
    readString? (s.toList.flatMap escaped ++ '"' :: rest) = some (.quoted s, rest) := by
  simp [readString?, readUnits?_append, joinHalves?_map_char]

/-! ### Numbers -/

/-- The characters that a number may go on with. -/
def continuesNumber (c : Char) : Bool :=
  c.isDigit || c == '.' || c == 'e' || c == 'E'

theorem readDigits?_append {ds rest : List Char} (hne : ds ≠ []) (hds : ∀ c ∈ ds, c.isDigit)
    (hrest : Stops Char.isDigit rest) : readDigits? (ds ++ rest) = some (ds, rest) := by
  rw [readDigits?, takeWhile_append_of_stops hds hrest, dropWhile_append_of_stops hds hrest]
  simp [hne]

theorem readWhole?_append (n : Nat) {rest : List Char} (hrest : Stops Char.isDigit rest) :
    readWhole? (Nat.toDigits 10 n ++ rest) = some (Nat.toDigits 10 n, rest) := by
  by_cases hn : n = 0
  · subst hn
    rfl
  · have hhead := head?_toDigits_ne_zero hn
    rw [readWhole?]
    · exact readDigits?_append Nat.toDigits_ne_nil (fun _ => isDigit_of_mem_toDigits) hrest
    · intro tail heq
      rw [← List.head?_append_of_ne_nil _ Nat.toDigits_ne_nil, heq] at hhead
      exact hhead rfl

theorem stops_isDigit {rest : List Char} (h : Stops continuesNumber rest) :
    Stops Char.isDigit rest := by
  intro c hc
  have hfalse := h c hc
  simp only [continuesNumber, Bool.or_eq_false_iff] at hfalse
  exact hfalse.1.1.1

theorem readNumber?_append (n : Nat) {rest : List Char} (hrest : Stops continuesNumber rest) :
    readNumber? (Nat.toDigits 10 n ++ rest) = some (Nat.toDigits 10 n, rest) := by
  have hfraction : readFraction? rest = some ([], rest) := by
    unfold readFraction?
    split
    · simp [continuesNumber] at hrest
    · rfl
  have hexponent : readExponent? rest = some ([], rest) := by
    cases rest with
    | nil => rfl
    | cons c rest =>
        simp only [stops_cons, continuesNumber, Bool.or_eq_false_iff] at hrest
        simp [readExponent?, hrest]
  have hwhole := readWhole?_append n (stops_isDigit hrest)
  obtain ⟨d, ds, hds⟩ := List.exists_cons_of_ne_nil (Nat.toDigits_ne_nil (n := n) (b := 10))
  have hd : d ≠ '-' := by
    rintro rfl
    have hdigit : '-'.isDigit := isDigit_of_mem_toDigits (hds ▸ List.mem_cons_self)
    exact absurd hdigit (by decide)
  rw [hds, List.cons_append] at hwhole ⊢
  simp [readNumber?, hd, hwhole, hfraction, hexponent]

/-! ### Values -/

theorem readValue?_skip (n : Nat) (cs : List Char) : readValue? n (skip cs) = readValue? n cs := by
  cases n with
  | zero => rfl
  | succ n => rw [readValue?, readValue?, skip_skip]

theorem readItems?_skip (n : Nat) (cs : List Char) : readItems? n (skip cs) = readItems? n cs := by
  cases n with
  | zero => rfl
  | succ n => rw [readItems?, readItems?, readValue?_skip]

theorem readMembers?_skip (n : Nat) (cs : List Char) :
    readMembers? n (skip cs) = readMembers? n cs := by
  cases n with
  | zero => rfl
  | succ n => rw [readMembers?, readMembers?, skip_skip]

theorem readValue?_digit {c : Char} (hc : c.isDigit) (n : Nat) (cs : List Char) :
    readValue? (n + 1) (c :: cs) =
      (readNumber? (c :: cs)).map fun (literal, rest) => (.bare (String.ofList literal), rest) := by
  have hne {d : Char} (hd : d.isDigit = false) : c ≠ d := by
    rintro rfl
    rw [hc] at hd
    cases hd
  have hspace : isJsonSpace c = false := by
    simp [isJsonSpace, hne (d := ' ') rfl, hne (d := '\t') rfl, hne (d := '\n') rfl,
      hne (d := '\r') rfl]
  rw [readValue?, skip_cons hspace]
  split
  case h_7 => cases readNumber? (c :: cs) <;> rfl
  all_goals
    next heq => exact absurd (List.cons.inj heq).1 (hne rfl)

theorem readValue?_bracket (n : Nat) (cs : List Char) :
    readValue? (n + 1) ('[' :: cs) =
      match skip cs with
      | ']' :: rest => some (.sequence [], rest)
      | rest => do
        let (items, rest) ← readItems? n rest
        return (.sequence items, rest) := by
  rw [readValue?, skip_cons rfl]
  rfl

theorem readValue?_brace (n : Nat) (cs : List Char) :
    readValue? (n + 1) ('{' :: cs) =
      match skip cs with
      | '}' :: rest => some (.mapping [], rest)
      | rest => do
        let (members, rest) ← readMembers? n rest
        return (.mapping members, rest) := by
  rw [readValue?, skip_cons rfl]
  rfl

/-- A value begins with a character of its own, and with no closing bracket. -/
theorem Spells.head {cs : List Char} {d : Document} (h : Spells cs d) :
    ∃ c tail, cs = c :: tail ∧ isJsonSpace c = false ∧ c ≠ ']' := by
  cases h with
  | number n =>
      obtain ⟨c, tail, hcs⟩ := List.exists_cons_of_ne_nil
        (Nat.toDigits_ne_nil (n := n.toNat) (b := 10))
      have hc : c.isDigit := isDigit_of_mem_toDigits (hcs ▸ List.mem_cons_self)
      refine ⟨c, tail, by rw [toList_digits, hcs], ?_, ?_⟩
      · rw [Bool.eq_false_iff]
        intro hspace
        obtain rfl | rfl | rfl | rfl := eq_of_isJsonSpace hspace
        all_goals exact absurd hc (by decide)
      · rintro rfl
        exact absurd hc (by decide)
  | string | null | noItems | items | noMembers | members =>
      exact ⟨_, _, rfl, by decide, by decide⟩

/-- With these rounds, texts of values are read that have no more characters than there are
rounds. -/
def Reads (n : Nat) : Prop :=
  ∀ cs d rest, Spells cs d → cs.length ≤ n → Stops continuesNumber rest →
    readValue? n (cs ++ rest) = some (d, rest)

theorem stops_continuesNumber {ws rest : List Char} (hws : IsSpacing ws)
    (hrest : Stops continuesNumber rest) : Stops continuesNumber (ws ++ rest) := by
  cases ws with
  | nil => exact hrest
  | cons c ws =>
      rw [List.cons_append, stops_cons]
      obtain rfl | rfl | rfl | rfl := eq_of_isJsonSpace (hws c List.mem_cons_self)
      all_goals rfl

theorem stops_comma (rest : List Char) : Stops continuesNumber (',' :: rest) :=
  (stops_cons _ _ _).2 rfl

namespace Reads

variable {n : Nat}

theorem padded (hn : Reads n) {cs rest : List Char} {d : Document} (h : Padded Spells cs d)
    (hlength : cs.length ≤ n) (hrest : Stops continuesNumber rest) :
    ∃ rest', readValue? n (cs ++ rest) = some (d, rest') ∧ skip rest' = skip rest := by
  cases h with
  | @intro ws cs ws' _ hws h hws' =>
      simp only [List.length_append] at hlength
      have hread := hn _ _ _ h (by omega) (stops_continuesNumber hws' hrest)
      refine ⟨ws' ++ rest, ?_, skip_append hws' rest⟩
      rw [List.append_assoc, List.append_assoc, ← readValue?_skip, skip_append hws,
        readValue?_skip, hread]

/-- What the reader meets on its way through a member: the name, the colon and the value. -/
theorem member (hn : Reads n) {cs rest : List Char} {entry : Document × Document}
    (h : Member Spells cs entry) (hlength : cs.length ≤ n) (hrest : Stops continuesNumber rest) :
    ∃ inner behind value rest', skip (cs ++ rest) = '"' :: inner ∧
      readString? inner = some (entry.1, behind) ∧ skip behind = ':' :: value ∧
      readValue? n value = some (entry.2, rest') ∧ skip rest' = skip rest := by
  cases h with
  | @intro ws ws' cs name d hws hws' h =>
      simp only [List.length_append, List.length_cons] at hlength
      obtain ⟨rest', hread, hskip⟩ := hn.padded h (by omega) hrest
      refine ⟨_, _, cs ++ rest, rest', ?_, readString?_append name (ws' ++ ':' :: (cs ++ rest)),
        ?_, hread, hskip⟩
      · rw [List.append_assoc, skip_append hws, quotedChars]
        simp [skip_cons (c := '"') rfl]
      · rw [skip_append hws', skip_cons rfl]

end Reads

theorem readItems?_eq {cs : List Char} {items : List Document}
    (h : Separated (Padded Spells) cs items) {n : Nat} (hreads : ∀ m < n, Reads m)
    (hlength : cs.length < n) (rest : List Char) :
    readItems? n (cs ++ ']' :: rest) = some (items, rest) := by
  induction h generalizing n with
  | @last cs d h =>
      obtain ⟨n, rfl⟩ := Nat.exists_eq_add_one_of_ne_zero (Nat.ne_zero_of_lt hlength)
      have hn : Reads n := hreads n (Nat.lt_succ_self n)
      have hstops : Stops continuesNumber (']' :: rest)  := (stops_cons _ _ _).2 rfl
      obtain ⟨rest', hread, hskip⟩ := hn.padded h (Nat.le_of_lt_succ hlength) hstops
      rw [skip_cons rfl] at hskip
      simp only [readItems?, hread, Option.bind_eq_bind, Option.bind_some, hskip]
      rfl
  | @cons cs cs' d items h _ ih =>
      obtain ⟨n, rfl⟩ := Nat.exists_eq_add_one_of_ne_zero (Nat.ne_zero_of_lt hlength)
      have hn : Reads n := hreads n (Nat.lt_succ_self n)
      rw [List.length_append, List.length_cons] at hlength
      obtain ⟨rest', hread, hskip⟩ :=
        hn.padded h (by omega) (stops_comma (cs' ++ ']' :: rest))
      rw [skip_cons rfl] at hskip
      have hrest := ih (fun m hm => hreads m (Nat.lt_succ_of_lt hm)) (by omega)
      rw [List.append_assoc, List.cons_append]
      simp only [readItems?, hread, Option.bind_eq_bind, Option.bind_some, hskip, hrest]
      rfl

theorem readMembers?_eq {cs : List Char} {entries : List (Document × Document)}
    (h : Separated (Member Spells) cs entries) {n : Nat} (hreads : ∀ m < n, Reads m)
    (hlength : cs.length < n) (rest : List Char) :
    readMembers? n (cs ++ '}' :: rest) = some (entries, rest) := by
  induction h generalizing n with
  | @last cs entry h =>
      obtain ⟨n, rfl⟩ := Nat.exists_eq_add_one_of_ne_zero (Nat.ne_zero_of_lt hlength)
      have hn : Reads n := hreads n (Nat.lt_succ_self n)
      have hstops : Stops continuesNumber ('}' :: rest) := (stops_cons _ _ _).2 rfl
      obtain ⟨inner, behind, value, rest', hquote, hname, hcolon, hvalue, hskip⟩ :=
        hn.member h (Nat.le_of_lt_succ hlength) hstops
      rw [skip_cons rfl] at hskip
      simp only [readMembers?, hquote, hname, hcolon, hvalue, hskip, Option.bind_eq_bind,
        Option.bind_some]
      rfl
  | @cons cs cs' entry entries h _ ih =>
      obtain ⟨n, rfl⟩ := Nat.exists_eq_add_one_of_ne_zero (Nat.ne_zero_of_lt hlength)
      have hn : Reads n := hreads n (Nat.lt_succ_self n)
      rw [List.length_append, List.length_cons] at hlength
      obtain ⟨inner, behind, value, rest', hquote, hname, hcolon, hvalue, hskip⟩ :=
        hn.member h (by omega) (stops_comma (cs' ++ '}' :: rest))
      rw [skip_cons rfl] at hskip
      have hrest := ih (fun m hm => hreads m (Nat.lt_succ_of_lt hm)) (by omega)
      rw [List.append_assoc, List.cons_append]
      simp only [readMembers?, hquote, hname, hcolon, hvalue, hskip, hrest, Option.bind_eq_bind,
        Option.bind_some]
      rfl

theorem Separated.exists_first {α : Type} {R : List Char → α → Prop} {cs : List Char}
    {as : List α} (h : Separated R cs as) : ∃ first tail a, cs = first ++ tail ∧ R first a := by
  cases h with
  | last h => exact ⟨cs, [], _, (List.append_nil cs).symm, h⟩
  | cons h _ => exact ⟨_, _, _, rfl, h⟩

/-- What comes first among items is no closing bracket. -/
theorem skip_items {cs : List Char} {items : List Document}
    (h : Separated (Padded Spells) cs items) (rest : List Char) :
    ∃ c tail, skip (cs ++ rest) = c :: tail ∧ c ≠ ']' := by
  obtain ⟨first, behind, d, rfl, hfirst⟩ := h.exists_first
  cases hfirst with
  | @intro ws cs ws' _ hws h _ =>
      obtain ⟨c, tail, rfl, hspace, hc⟩ := h.head
      refine ⟨c, tail ++ ws' ++ behind ++ rest, ?_, hc⟩
      simp only [List.append_assoc, List.cons_append]
      rw [skip_append hws, skip_cons hspace]

/-- What comes first among members is a name. -/
theorem skip_members {cs : List Char} {entries : List (Document × Document)}
    (h : Separated (Member Spells) cs entries) (rest : List Char) :
    ∃ tail, skip (cs ++ rest) = '"' :: tail := by
  obtain ⟨first, behind, entry, rfl, hfirst⟩ := h.exists_first
  cases hfirst with
  | intro hws _ _ =>
      rw [List.append_assoc, List.append_assoc, skip_append hws, quotedChars]
      exact ⟨_, skip_cons rfl _⟩

/-- A value is read off, for which its number of characters suffices as rounds. -/
theorem reads (n : Nat) : Reads n := by
  induction n using Nat.strongRecOn with
  | ind n ih =>
      intro cs d rest h hlength hrest
      obtain ⟨c, tail, hcs, -, -⟩ := h.head
      obtain ⟨n, rfl⟩ : ∃ m, n = m + 1 := by
        refine Nat.exists_eq_add_one_of_ne_zero ?_
        rintro rfl
        rw [hcs] at hlength
        cases hlength
      have hreads : ∀ m < n, Reads m := fun m hm => ih m (Nat.lt_succ_of_lt hm)
      cases h with
      | string s =>
          rw [readValue?, quotedChars, List.cons_append, List.cons_append, skip_cons rfl,
            List.append_assoc]
          exact readString?_append s rest
      | null => rfl
      | number m =>
          rw [toList_digits] at hcs ⊢
          have hc : c.isDigit := isDigit_of_mem_toDigits (hcs ▸ List.mem_cons_self)
          have hread := readNumber?_append m.toNat hrest
          rw [hcs, List.cons_append] at hread ⊢
          rw [readValue?_digit hc, hread, ← hcs, ← toList_digits]
          simp only [Option.map_some, String.ofList_toList]
          rfl
      | @noItems ws hws =>
          rw [List.cons_append, readValue?_bracket, List.append_assoc, skip_append hws,
            List.cons_append, skip_cons rfl]
          rfl
      | @items cs items h =>
          simp only [List.length_cons, List.length_append, List.length_nil] at hlength
          have hread := readItems?_eq h hreads (by omega) rest
          obtain ⟨c, tail, hskip, hc⟩ := skip_items h (']' :: rest)
          rw [← readItems?_skip, hskip] at hread
          rw [List.cons_append, readValue?_bracket, List.append_assoc, List.cons_append,
            List.nil_append, hskip]
          simp [hc, hread]
      | @noMembers ws hws =>
          rw [List.cons_append, readValue?_brace, List.append_assoc, skip_append hws,
            List.cons_append, skip_cons rfl]
          rfl
      | @members cs entries h =>
          simp only [List.length_cons, List.length_append, List.length_nil] at hlength
          have hread := readMembers?_eq h hreads (by omega) rest
          obtain ⟨tail, hskip⟩ := skip_members h ('}' :: rest)
          rw [← readMembers?_skip, hskip] at hread
          rw [List.cons_append, readValue?_brace, List.append_assoc, List.cons_append,
            List.nil_append, hskip]
          simp [hread]

/-- A text for a document is read as this document. -/
theorem read?_eq_of_spellsText {s : String} {d : Document} (h : SpellsText s d) :
    read? s = some d := by
  obtain ⟨rest, hread, hskip⟩ :=
    (reads (s.toList.length + 1)).padded h (Nat.le_succ _) (stops_nil continuesNumber)
  rw [List.append_nil] at hread
  simp only [read?, hread, Option.bind_eq_bind, Option.bind_some, hskip]
  rfl

end Json

end BuildPicker
