import BuildPicker.History.BuildRef
import BuildPicker.Proofs.Text.Numeral
import BuildPicker.Proofs.Text.Trim

/-!
Reading references to builds.

A text refers to a build if a name stands before its last separator and a numeral of 32
bits behind it, both with white space around them. What is written for a reference is
such a text, and of its separators the last is the one that was written. So references
are read back, except where white space around a name gets lost; no text is read as a
reference with such a name.
-/

namespace BuildPicker

open BuildPicker.Text

namespace BuildRef

/-! ### The last separator -/

theorem splitLast?_eq_none_iff {separator : Char} {cs : List Char} :
    splitLast? separator cs = none ↔ separator ∉ cs := by
  induction cs with
  | nil => simp [splitLast?]
  | cons c cs ih =>
      rw [splitLast?, List.mem_cons, not_or, ← ih]
      cases splitLast? separator cs with
      | some parts => simp
      | none => simp [eq_comm]

theorem splitLast?_eq_some_iff {separator : Char} {cs before behind : List Char} :
    splitLast? separator cs = some (before, behind) ↔
      cs = before ++ separator :: behind ∧ separator ∉ behind := by
  constructor
  · intro h
    induction cs generalizing before with
    | nil => cases h
    | cons c cs ih =>
        rw [splitLast?] at h
        split at h
        · next before' behind' hsplit =>
            cases h
            obtain ⟨rfl, hbehind⟩ := ih hsplit
            exact ⟨rfl, hbehind⟩
        · next hnone =>
            split at h
            · next hc =>
                cases h
                exact ⟨hc ▸ rfl, splitLast?_eq_none_iff.1 hnone⟩
            · cases h
  · rintro ⟨rfl, hbehind⟩
    induction before with
    | nil => rw [List.nil_append, splitLast?, splitLast?_eq_none_iff.2 hbehind, if_pos rfl]
    | cons c before ih => rw [List.cons_append, splitLast?, ih]

theorem notMem_or_exists_split (separator : Char) (cs : List Char) :
    separator ∉ cs ∨ ∃ before behind, cs = before ++ separator :: behind ∧ separator ∉ behind := by
  cases h : splitLast? separator cs with
  | none => exact .inl (splitLast?_eq_none_iff.1 h)
  | some parts => exact .inr ⟨parts.1, parts.2, splitLast?_eq_some_iff.1 h⟩

/-! ### Numerals -/

/-- Digits after an optional plus sign, and the number they stand for. -/
inductive IsNumeral : List Char → Nat → Prop
  | intro {sign ds : List Char} {n : Nat} (hsign : sign = [] ∨ sign = ['+']) (hne : ds ≠ [])
      (hds : ∀ c ∈ ds, c.isDigit) (hn : Nat.ofDigitChars 10 ds 0 = n) : IsNumeral (sign ++ ds) n

theorem unsigned?_eq_some_iff {cs : List Char} {n : Nat} :
    unsigned? cs = some n ↔ IsNumeral cs n := by
  constructor
  · intro h
    unfold unsigned? at h
    split at h
    · obtain ⟨hne, hds, hn⟩ := natural?_eq_some_iff.1 h
      exact .intro (.inr rfl) hne hds hn
    · obtain ⟨hne, hds, hn⟩ := natural?_eq_some_iff.1 h
      exact .intro (.inl rfl) hne hds hn
  · rintro ⟨rfl | rfl, hne, hds, hn⟩
    · rw [List.nil_append, unsigned?]
      · exact natural?_eq_some_iff.2 ⟨hne, hds, hn⟩
      · rintro ds rfl
        exact absurd (hds '+' List.mem_cons_self) (by decide)
    · exact natural?_eq_some_iff.2 ⟨hne, hds, hn⟩

theorem number?_eq_some_iff {s : String} {n : BuildNumber} :
    number? s = some n ↔ IsNumeral s.toList n.toNat := by
  rw [number?, Option.bind_eq_some_iff, ← unsigned?_eq_some_iff]
  constructor
  · rintro ⟨m, hm, hn⟩
    have hmn := uint32?_eq_some_iff.1 hn
    rw [hm, Int.ofNat_inj.1 hmn]
  · intro hn
    exact ⟨n.toNat, hn, uint32?_eq_some_iff.2 rfl⟩

theorem number?_eq_none_iff {s : String} :
    number? s = none ↔ ¬∃ n ≤ 4294967295, IsNumeral s.toList n := by
  rw [Option.eq_none_iff_forall_ne_some, not_exists]
  constructor
  · rintro h n ⟨hn, hs⟩
    have htoNat : (UInt32.ofNat n).toNat = n := UInt32.toNat_ofNat_of_lt' (Nat.lt_succ_of_le hn)
    exact h (UInt32.ofNat n) (number?_eq_some_iff.2 (htoNat.symm ▸ hs))
  · intro h n hn
    exact h n.toNat ⟨Nat.le_of_lt_succ n.toNat_lt, number?_eq_some_iff.1 hn⟩

/-! ### What a text is read as -/

/-- A text that refers to a build. -/
inductive IsSpelling (r : BuildRef) (s : String) : Prop
  | intro {before behind : List Char} (hs : s.toList = before ++ '#' :: behind)
      (hbehind : '#' ∉ behind) (hjob : trim (String.ofList before) = r.job) (hne : r.job ≠ "")
      (hnumber : IsNumeral (trim (String.ofList behind)).toList r.number.toNat)

/-- What is wrong with a text that refers to no build. -/
inductive IsRefused (s : String) : ParseError → Prop
  | missingSeparator (hs : '#' ∉ s.toList) : IsRefused s (.missingSeparator s)
  | emptyJob {before behind : List Char} (hs : s.toList = before ++ '#' :: behind)
      (hbehind : '#' ∉ behind) (hbefore : ∀ c ∈ before, isBlank c) : IsRefused s .emptyJob
  | invalidNumber {before behind : List Char} (hs : s.toList = before ++ '#' :: behind)
      (hbehind : '#' ∉ behind) (hbefore : ∃ c ∈ before, isBlank c = false)
      (hnumber : ¬∃ n ≤ 4294967295, IsNumeral (trim (String.ofList behind)).toList n) :
      IsRefused s (.invalidNumber (String.ofList behind))

variable {r : BuildRef} {s : String} {e : ParseError}

theorem trim_ofList_eq_empty_iff {cs : List Char} :
    trim (String.ofList cs) = "" ↔ ∀ c ∈ cs, isBlank c := by
  rw [trim_eq_empty_iff, isBlankText, String.toList_ofList, List.all_eq_true]

theorem IsSpelling.parse_eq (h : IsSpelling r s) : parse s = .ok r := by
  obtain ⟨hs, hbehind, hjob, hne, hnumber⟩ := h
  have hisEmpty : r.job.isEmpty = false := by simpa using hne
  simp only [parse, splitLast?_eq_some_iff.2 ⟨hs, hbehind⟩, hjob, hisEmpty, Bool.false_eq_true,
    if_false, number?_eq_some_iff.2 hnumber]

theorem IsRefused.parse_eq (h : IsRefused s e) : parse s = .error e := by
  cases h with
  | missingSeparator hs => rw [parse, splitLast?_eq_none_iff.2 hs]
  | @emptyJob before behind hs hbehind hbefore =>
      have hisEmpty : (trim (String.ofList before)).isEmpty = true :=
        String.isEmpty_iff.2 (trim_ofList_eq_empty_iff.2 hbefore)
      simp only [parse, splitLast?_eq_some_iff.2 ⟨hs, hbehind⟩, hisEmpty, if_true]
  | @invalidNumber before behind hs hbehind hbefore hnumber =>
      have hisEmpty : (trim (String.ofList before)).isEmpty = false := by
        rw [← Bool.not_eq_true, String.isEmpty_iff, trim_ofList_eq_empty_iff]
        intro hblank
        obtain ⟨c, hc, hfalse⟩ := hbefore
        rw [hblank c hc] at hfalse
        cases hfalse
      simp only [parse, splitLast?_eq_some_iff.2 ⟨hs, hbehind⟩, hisEmpty, Bool.false_eq_true,
        if_false, number?_eq_none_iff.2 hnumber]

theorem exists_isSpelling_or_isRefused (s : String) :
    (∃ r, IsSpelling r s) ∨ ∃ e, IsRefused s e := by
  obtain hs | ⟨before, behind, hs, hbehind⟩ := notMem_or_exists_split '#' s.toList
  · exact .inr ⟨_, .missingSeparator hs⟩
  · by_cases hbefore : ∀ c ∈ before, isBlank c
    · exact .inr ⟨_, .emptyJob hs hbehind hbefore⟩
    · cases hnumber : number? (trim (String.ofList behind)) with
      | none =>
          have hink : ∃ c ∈ before, isBlank c = false := by simpa using hbefore
          exact .inr ⟨_, .invalidNumber hs hbehind hink (number?_eq_none_iff.1 hnumber)⟩
      | some n =>
          have hne : trim (String.ofList before) ≠ "" := mt trim_ofList_eq_empty_iff.1 hbefore
          exact .inl ⟨⟨_, n⟩, .intro hs hbehind rfl hne (number?_eq_some_iff.1 hnumber)⟩

theorem parse_eq_ok_iff : parse s = .ok r ↔ IsSpelling r s := by
  refine ⟨fun h => ?_, IsSpelling.parse_eq⟩
  obtain ⟨r', hr'⟩ | ⟨e, he⟩ := exists_isSpelling_or_isRefused s
  · obtain rfl := Except.ok.inj (h.symm.trans hr'.parse_eq)
    exact hr'
  · cases h.symm.trans he.parse_eq

theorem parse_eq_error_iff : parse s = .error e ↔ IsRefused s e := by
  refine ⟨fun h => ?_, IsRefused.parse_eq⟩
  obtain ⟨r, hr⟩ | ⟨e', he'⟩ := exists_isSpelling_or_isRefused s
  · cases h.symm.trans hr.parse_eq
  · obtain rfl := Except.error.inj (h.symm.trans he'.parse_eq)
    exact he'

/-! ### What is written for a reference -/

theorem isNumeral_toDigits (n : Nat) : IsNumeral (Nat.toDigits 10 n) n := by
  obtain ⟨hne, hds, hn⟩ := natural?_eq_some_iff.1 (natural?_toDigits n)
  change IsNumeral ([] ++ Nat.toDigits 10 n) n
  exact .intro (.inl rfl) hne hds hn

theorem isSpelling_text (hne : r.job ≠ "") (htrim : trim r.job = r.job) :
    IsSpelling r r.text := by
  have hdigit : ∀ c ∈ (digits r.number).toList, c.isDigit := fun c hc =>
    isDigit_of_mem_toDigits (toList_digits r.number ▸ hc)
  have hbehind : '#' ∉ (digits r.number).toList := fun hc => absurd (hdigit '#' hc) (by decide)
  have htrimmed : trim (digits r.number) = digits r.number :=
    trim_eq_self fun c hc => isBlank_eq_false_of_isDigit (hdigit c hc)
  have hs : r.text.toList = r.job.toList ++ '#' :: (digits r.number).toList := by simp [text]
  refine .intro hs hbehind ?_ hne ?_
  · rw [String.ofList_toList, htrim]
  · rw [String.ofList_toList, htrimmed, toList_digits]
    exact isNumeral_toDigits r.number.toNat

/-- References to jobs whose names are trimmed and not empty are read back from what is written
for them, whatever the names hold. Every reference that is read is one of these, and a text is
refused just for want of a separator, of a name before the last one or of a numeral behind it, in
this order. -/
theorem parse_classified :
    (∀ r : BuildRef, r.job ≠ "" → trim r.job = r.job → parse r.text = .ok r) ∧
    (∀ s r, parse s = .ok r ↔ IsSpelling r s) ∧
    (∀ s r, parse s = .ok r → r.job ≠ "" ∧ trim r.job = r.job ∧ parse r.text = .ok r) ∧
    ∀ s e, parse s = .error e ↔ IsRefused s e := by
  have hback (r : BuildRef) (hne : r.job ≠ "") (htrim : trim r.job = r.job) :
      parse r.text = .ok r := (isSpelling_text hne htrim).parse_eq
  refine ⟨hback, fun s r => parse_eq_ok_iff, fun s r hr => ?_, fun s e => parse_eq_error_iff⟩
  obtain ⟨-, -, hjob, hne, -⟩ := parse_eq_ok_iff.1 hr
  have htrim : trim r.job = r.job := by rw [← hjob, trim_trim]
  exact ⟨hne, htrim, hback r hne htrim⟩

/-- Separators and white space in a name; the name is looked at before the number. -/
theorem parse_classified_hashed :
    let spaced := " odd # name#2\t#\u00a0+007 "
    parse (text ⟨"##", 0⟩) = .ok ⟨"##", 0⟩ ∧
    parse spaced = .ok ⟨"odd # name#2", 7⟩ ∧
    parse (text ⟨"odd # name#2", 7⟩) = .ok ⟨"odd # name#2", 7⟩ ∧
    parse "\u00a0#x" = .error .emptyJob ∧
    parse "app#1#4294967296" = .error (.invalidNumber "4294967296") := by
  intro spaced
  obtain ⟨hback, hread, hkept, herror⟩ := parse_classified
  have hspaced : parse spaced = .ok ⟨"odd # name#2", 7⟩ := by
    have hs : spaced.toList = " odd # name#2\t".toList ++ '#' :: "\u00a0+007 ".toList := by decide
    have hnumber : number? (trim "\u00a0+007 ") = some 7 := by decide
    exact (hread _ _).2
      (.intro hs (by decide) (by decide) (by decide) (number?_eq_some_iff.1 hnumber))
  refine ⟨hback _ (by decide) (by decide), hspaced, (hkept _ _ hspaced).2.2, ?_, ?_⟩
  · have hs : "\u00a0#x".toList = ['\u00a0'] ++ '#' :: ['x'] := by decide
    exact (herror _ _).2 (.emptyJob hs (by decide) (List.forall_mem_singleton.2 rfl))
  · have hs : "app#1#4294967296".toList = 'a' :: "pp#1".toList ++ '#' :: "4294967296".toList := rfl
    have hnumber : number? (trim "4294967296") = none := by decide
    exact (herror _ _).2
      (.invalidNumber hs (by decide) ⟨'a', List.mem_cons_self, rfl⟩ (number?_eq_none_iff.1 hnumber))

end BuildRef

end BuildPicker
