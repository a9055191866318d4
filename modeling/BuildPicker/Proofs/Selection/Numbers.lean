import BuildPicker.Proofs.Expr.Lexical
import BuildPicker.Proofs.History.Job
import BuildPicker.Proofs.Selection.Failure
import BuildPicker.Proofs.Text.Trim

/-!
Build numbers in texts.

Whether a text is an integer depends on its characters alone: digits after an optional
sign, with white space around them. Which integer it is decides what is looked up. One
that no build can have is looked up without success as long as it takes 64 bits; a longer
one is refused like a text that is no integer.
-/

namespace BuildPicker

namespace Text

/-! ### Integers -/

/-- A sign that may be left out, and the factor it stands for. -/
inductive IsSign : List Char → Int → Prop
  | none : IsSign [] 1
  | plus : IsSign ['+'] 1
  | minus : IsSign ['-'] (-1)

/-- A text with an integer in it, and the integer. -/
inductive IsInteger (s : String) : Int → Prop
  | intro {ws sign ds ws' : List Char} {factor : Int} (hs : s.toList = ws ++ (sign ++ ds ++ ws'))
      (hws : ∀ c ∈ ws, isBlank c) (hsign : IsSign sign factor) (hne : ds ≠ [])
      (hds : ∀ c ∈ ds, c.isDigit) (hws' : ∀ c ∈ ws', isBlank c) :
      IsInteger s (factor * Nat.ofDigitChars 10 ds 0)

theorem IsSign.isBlank_eq_false {sign : List Char} {factor : Int} (h : IsSign sign factor) :
    ∀ c ∈ sign, isBlank c = false := by
  cases h with
  | none => exact List.forall_mem_nil _
  | plus => exact List.forall_mem_singleton.2 rfl
  | minus => exact List.forall_mem_singleton.2 rfl

theorem signed?_append {sign ds : List Char} {factor : Int} (hsign : IsSign sign factor)
    (hne : ds ≠ []) (hds : ∀ c ∈ ds, c.isDigit) :
    signed? (sign ++ ds) = some (factor * Nat.ofDigitChars 10 ds 0) := by
  have hnatural := natural?_eq_some_iff.2 ⟨hne, hds, rfl⟩
  cases hsign with
  | none =>
      obtain ⟨d, ds, rfl⟩ := List.exists_cons_of_ne_nil hne
      have hd : d.isDigit := hds d List.mem_cons_self
      rw [List.nil_append, signed?]
      · simp [hnatural]
      · rintro _ ⟨⟩
        exact absurd hd (by decide)
      · rintro _ ⟨⟩
        exact absurd hd (by decide)
  | plus => simp [signed?, hnatural]
  | minus => simp [signed?, hnatural]

theorem exists_sign_of_signed? {cs : List Char} {i : Int} (h : signed? cs = some i) :
    ∃ sign ds factor, IsSign sign factor ∧ ds ≠ [] ∧ (∀ c ∈ ds, c.isDigit) ∧ cs = sign ++ ds ∧
      i = factor * Nat.ofDigitChars 10 ds 0 := by
  unfold signed? at h
  split at h
  · next ds =>
      obtain ⟨_, hcast, rfl⟩ := Option.map_eq_some_iff.1 h
      obtain ⟨n, hn, ⟨⟩⟩ := Option.bind_eq_some_iff.1 hcast
      obtain ⟨hne, hds, rfl⟩ := natural?_eq_some_iff.1 hn
      exact ⟨['-'], ds, -1, .minus, hne, hds, rfl, by simp⟩
  · next ds =>
      obtain ⟨n, hn, rfl⟩ := Option.map_eq_some_iff.1 h
      obtain ⟨hne, hds, rfl⟩ := natural?_eq_some_iff.1 hn
      exact ⟨['+'], ds, 1, .plus, hne, hds, rfl, by simp⟩
  · obtain ⟨n, hn, rfl⟩ := Option.map_eq_some_iff.1 h
    obtain ⟨hne, hds, rfl⟩ := natural?_eq_some_iff.1 hn
    exact ⟨[], cs, 1, .none, hne, hds, rfl, by simp⟩

/-- The integer of a text is what is read after trimming. -/
theorem isInteger_iff {s : String} {i : Int} :
    IsInteger s i ↔ signed? (trim s).toList = some i := by
  constructor
  · intro h
    cases h with
    | @intro ws sign ds ws' factor hs hws hsign hne hds hws' =>
        have hink : ∀ c ∈ sign ++ ds, isBlank c = false :=
          List.forall_mem_append.2
            ⟨hsign.isBlank_eq_false, fun c hc => isBlank_eq_false_of_isDigit (hds c hc)⟩
        rw [trim, hs, trimRight_trimLeft_append_eq hws hws'
          (fun c hc => hink c (List.mem_of_mem_head? hc))
          (fun c hc => hink c (List.mem_of_mem_getLast? hc)), String.toList_ofList]
        exact signed?_append hsign hne hds
  · intro h
    obtain ⟨ws, ws', hws, hws', hs⟩ := exists_eq_append_trim s
    obtain ⟨sign, ds, factor, hsign, hne, hds, htrim, rfl⟩ := exists_sign_of_signed? h
    rw [htrim] at hs
    exact .intro hs hws hsign hne hds hws'

/-- The integers that take 64 bits with their sign. -/
def IsWord (i : Int) : Prop :=
  -2 ^ 63 ≤ i ∧ i < 2 ^ 63

theorem int64?_eq_none_iff {i : Int} : int64? i = none ↔ ¬IsWord i := by
  unfold int64? IsWord
  split <;> simp <;> omega

end Text

open Text

/-! ### Numbers of builds -/

/-- Looking up an integer finds the build with this number; no build has a negative one or one
that takes more than 32 bits. -/
theorem Job.bind_uint32?_eq_some_iff (job : Job) {i : Int} {b : Build} :
    (uint32? i).bind job.build? = some b ↔ b ∈ job.builds ∧ (b.number.toNat : Int) = i := by
  rw [Option.bind_eq_some_iff]
  constructor
  · rintro ⟨n, hn, hb⟩
    obtain ⟨hmem, rfl⟩ := mem_of_build? hb
    exact ⟨hmem, (uint32?_eq_some_iff.1 hn).symm⟩
  · rintro ⟨hmem, rfl⟩
    exact ⟨b.number, uint32?_eq_some_iff.2 rfl, build?_number hmem⟩

namespace Selector

variable {job : Job} {key : String}

theorem exists_byNumber_eq_ok {i : Int} (hkey : IsInteger key i) (hi : IsWord i) :
    ∃ found, byNumber job key = .ok found ∧
      ∀ b, found = some b ↔ b ∈ job.builds ∧ (b.number.toNat : Int) = i := by
  obtain ⟨n, hn⟩ := Option.ne_none_iff_exists'.1 (mt int64?_eq_none_iff.1 (not_not_intro hi))
  obtain rfl := Expr.int64?_eq_some_iff.1 hn
  refine ⟨_, ?_, fun b => job.bind_uint32?_eq_some_iff⟩
  simp only [byNumber, isInteger_iff.1 hkey, Option.bind_some, hn]

/-- A text with an integer that takes 64 bits is looked up, with success just if the job has a build
of this number. A text with any other integer is refused with the text, and so is a text that is no
integer. -/
theorem byNumber_classified (job : Job) (key : String) :
    (∀ i, IsInteger key i →
      (IsWord i → ∃ found, byNumber job key = .ok found ∧
        ∀ b, found = some b ↔ b ∈ job.builds ∧ (b.number.toNat : Int) = i) ∧
      (¬IsWord i → byNumber job key = .error (.notANumber key))) ∧
    ((∀ i, ¬IsInteger key i) → byNumber job key = .error (.notANumber key)) := by
  refine ⟨fun i hkey => ⟨exists_byNumber_eq_ok hkey, fun hi => ?_⟩, fun hkey => ?_⟩
  · have hnone : int64? i = none := int64?_eq_none_iff.2 hi
    refine byNumber_eq_error_iff.2 ⟨rfl, ?_⟩
    rw [isInteger_iff.1 hkey, Option.bind_some, hnone]
  · have hnone : signed? (trim key).toList = none :=
      Option.eq_none_iff_forall_ne_some.2 fun i hi => hkey i (isInteger_iff.2 hi)
    exact byNumber_eq_error_iff.2 ⟨rfl, by rw [hnone, Option.bind_none]⟩

/-- A sign, zeros and white space do not count; a negative number is no build's, and a wide one is
refused. -/
theorem byNumber_classified_padded :
    let b := Build.ofTriggers "app" 7 []
    let wide := "-9223372036854775809"
    byNumber (.ofBuild b) "\u00a0+007\n" = .ok (some b) ∧
    byNumber (.ofBuild b) "-7" = .ok none ∧
    byNumber (.ofBuild b) wide = .error (.notANumber wide) ∧
    byNumber (.ofBuild b) "7a" = .error (.notANumber "7a") := by
  intro b wide
  have hclassified := byNumber_classified (.ofBuild b)
  have hpadded : IsInteger "\u00a0+007\n" 7 := isInteger_iff.2 (by decide)
  have hnegative : IsInteger "-7" (-7) := isInteger_iff.2 (by decide)
  have hwide : IsInteger wide (-9223372036854775809) := isInteger_iff.2 (by decide)
  have hother (i : Int) : ¬IsInteger "7a" i := by
    rw [isInteger_iff, show signed? (trim "7a").toList = none by decide]
    nofun
  refine ⟨?_, ?_, ((hclassified wide).1 _ hwide).2 (by simp [IsWord]),
    (hclassified "7a").2 hother⟩
  · obtain ⟨found, hfound, hbuild⟩ := ((hclassified _).1 _ hpadded).1 (by simp [IsWord])
    rw [hfound, (hbuild b).2 ⟨List.mem_singleton_self b, rfl⟩]
  · obtain ⟨found, hfound, hbuild⟩ := ((hclassified _).1 _ hnegative).1 (by simp [IsWord])
    have hnone : found = none := Option.eq_none_iff_forall_ne_some.2 fun a ha => by
      have hnumber := ((hbuild a).1 ha).2
      omega
    rw [hfound, hnone]

/-- The first integer beyond 64 bits is refused as if it were none. -/
theorem not_ok_byNumber_of_isInteger :
    let wide := "9223372036854775808"
    IsInteger wide 9223372036854775808 ∧
    ∀ job found, byNumber job wide ≠ .ok found := by
  intro wide
  refine ⟨isInteger_iff.2 (by decide), fun job found hfound => ?_⟩
  have hrefused : byNumber job wide = .error (.notANumber wide) :=
    byNumber_eq_error_iff.2 ⟨rfl, by decide⟩
  rw [hrefused] at hfound
  cases hfound

end Selector

end BuildPicker
