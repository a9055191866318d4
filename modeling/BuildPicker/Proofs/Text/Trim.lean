import BuildPicker.Text.Blank
import Mathlib.Data.List.TakeWhile

/-!
White space and trimming: what is left has no white space at its ends, so a second
trimming takes nothing away.
-/

namespace BuildPicker.Text

/-- No letter, digit or mark of ASCII is white space. -/
theorem toNat_of_isBlank {c : Char} (h : isBlank c) : c.toNat ≤ 32 ∨ 128 ≤ c.toNat := by
  simp only [isBlank, Bool.or_eq_true, Bool.and_eq_true, decide_eq_true_eq, beq_iff_eq,
    Char.le_def, UInt32.le_iff_toNat_le] at h
  obtain (((((((((⟨-, h⟩ | rfl) | rfl) | rfl) | rfl) | ⟨h, -⟩) | rfl) | rfl) | rfl) | rfl) | rfl := h
  case inl.inl.inl.inl.inl.inl.inl.inl.inl.inl =>
      exact .inl (Nat.le_trans h (by decide))
  case inl.inl.inl.inl.inl.inr =>
      exact .inr (Nat.le_trans (by decide) h)
  all_goals decide

theorem isBlank_eq_false_of_isDigit {c : Char} (h : c.isDigit) : isBlank c = false := by
  rw [Bool.eq_false_iff]
  intro hblank
  have hrange := toNat_of_isBlank hblank
  simp only [Char.isDigit, Bool.and_eq_true, decide_eq_true_eq, ge_iff_le,
    UInt32.le_iff_toNat_le] at h
  have hlow : 48 ≤ c.toNat := h.1
  have hhigh : c.toNat ≤ 57 := h.2
  omega

theorem not_mem_of_isBlank {ws : List Char} (hws : ∀ c ∈ ws, isBlank c) {c : Char}
    (hc : isBlank c = false) : c ∉ ws := by
  intro hmem
  rw [hws c hmem] at hc
  cases hc

theorem trimLeft_eq_self_iff {cs : List Char} :
    trimLeft cs = cs ↔ ∀ c ∈ cs.head?, isBlank c = false := by
  cases cs with
  | nil => simp [trimLeft]
  | cons c cs =>
      simp only [trimLeft, List.head?_cons, Option.mem_some_iff, forall_eq']
      constructor
      · intro h
        rw [Bool.eq_false_iff]
        intro hblank
        rw [List.dropWhile_cons_of_pos hblank] at h
        have hlength := (List.dropWhile_suffix (l := cs) isBlank).length_le
        rw [h, List.length_cons] at hlength
        omega
      · intro hblank
        exact List.dropWhile_cons_of_neg (by simp [hblank])

theorem trimLeft_trimLeft (cs : List Char) : trimLeft (trimLeft cs) = trimLeft cs := by
  refine trimLeft_eq_self_iff.2 fun c hc => ?_
  have h := List.head?_dropWhile_not isBlank cs
  rw [← trimLeft, hc] at h
  simpa using h

theorem trimRight_eq (cs : List Char) : trimRight cs = (trimLeft cs.reverse).reverse := rfl

theorem trimRight_trimRight (cs : List Char) : trimRight (trimRight cs) = trimRight cs := by
  rw [trimRight_eq, trimRight_eq, List.reverse_reverse, trimLeft_trimLeft]

/-- What is left after trimming on the right begins as before, if anything is left. -/
theorem trimRight_prefix (cs : List Char) : trimRight cs <+: cs := by
  rw [trimRight_eq, ← List.reverse_suffix, List.reverse_reverse]
  exact List.dropWhile_suffix _

theorem trimLeft_trimRight_trimLeft (cs : List Char) :
    trimLeft (trimRight (trimLeft cs)) = trimRight (trimLeft cs) := by
  refine trimLeft_eq_self_iff.2 fun c hc => ?_
  obtain ⟨tail, htail⟩ := trimRight_prefix (trimLeft cs)
  refine trimLeft_eq_self_iff.1 (trimLeft_trimLeft cs) c ?_
  rw [← htail, List.head?_append, hc, Option.some_or]
  rfl

theorem trimRight_append {cs ws : List Char} (hws : ∀ c ∈ ws, isBlank c) :
    trimRight (cs ++ ws) = trimRight cs := by
  have hreverse : ∀ c ∈ ws.reverse, isBlank c := by simpa using hws
  rw [trimRight_eq, trimRight_eq, List.reverse_append, trimLeft,
    List.dropWhile_append_of_pos hreverse, trimLeft]

/-- White space at the two ends is taken off first, and then what a text has there itself. -/
theorem trimRight_trimLeft_append {ws cs ws' : List Char} (hws : ∀ c ∈ ws, isBlank c)
    (hws' : ∀ c ∈ ws', isBlank c) :
    trimRight (trimLeft (ws ++ (cs ++ ws'))) = trimRight (trimLeft cs) := by
  have hleft : trimLeft (ws ++ (cs ++ ws')) = trimLeft (cs ++ ws') :=
    List.dropWhile_append_of_pos hws
  rw [hleft, trimLeft, List.dropWhile_append, ← trimLeft, ← trimLeft]
  split
  · next hempty =>
      have hcs : trimLeft cs = [] := List.isEmpty_iff.1 hempty
      have hnil : trimLeft ws' = [] := List.dropWhile_eq_nil_iff.2 hws'
      rw [hcs, hnil]
  · exact trimRight_append hws'

/-- White space at the two ends is taken off a text that has none there itself. -/
theorem trimRight_trimLeft_append_eq {ws cs ws' : List Char} (hws : ∀ c ∈ ws, isBlank c)
    (hws' : ∀ c ∈ ws', isBlank c) (hfirst : ∀ c ∈ cs.head?, isBlank c = false)
    (hlast : ∀ c ∈ cs.getLast?, isBlank c = false) :
    trimRight (trimLeft (ws ++ (cs ++ ws'))) = cs := by
  have hleft : trimLeft cs = cs := trimLeft_eq_self_iff.2 hfirst
  have hright : trimLeft cs.reverse = cs.reverse := by
    apply trimLeft_eq_self_iff.2
    rwa [List.head?_reverse]
  rw [trimRight_trimLeft_append hws hws', hleft, trimRight_eq, hright, List.reverse_reverse]

/-- A text is what trimming leaves of it, with white space before that and behind. -/
theorem exists_eq_append_trim (s : String) :
    ∃ ws ws', (∀ c ∈ ws, isBlank c) ∧ (∀ c ∈ ws', isBlank c) ∧
      s.toList = ws ++ ((trim s).toList ++ ws') := by
  let cs := trimLeft s.toList
  have hleft : s.toList.takeWhile isBlank ++ cs = s.toList := List.takeWhile_append_dropWhile
  have hright : trimRight cs ++ (cs.reverse.takeWhile isBlank).reverse = cs := by
    rw [trimRight, ← List.reverse_append, List.takeWhile_append_dropWhile, List.reverse_reverse]
  refine ⟨s.toList.takeWhile isBlank, (cs.reverse.takeWhile isBlank).reverse, ?_, ?_, ?_⟩
  · exact fun c hc => List.mem_takeWhile_imp hc
  · intro c hc
    exact List.mem_takeWhile_imp (List.mem_reverse.1 hc)
  · rw [trim, String.toList_ofList, hright, hleft]

/-- White space around a text makes no difference to what trimming leaves. -/
theorem trim_eq_of_append {s t : String} {ws ws' : List Char} (hws : ∀ c ∈ ws, isBlank c)
    (hws' : ∀ c ∈ ws', isBlank c) (hs : s.toList = ws ++ (t.toList ++ ws')) : trim s = trim t := by
  rw [trim, hs, trimRight_trimLeft_append hws hws', trim]

/-- Trimming takes away white space only. -/
theorem mem_trim_of_mem {s : String} {c : Char} (hc : c ∈ s.toList) (hblank : isBlank c = false) :
    c ∈ (trim s).toList := by
  rcases exists_eq_append_trim s with ⟨ws, ws', hws, hws', hs⟩
  rw [hs, List.mem_append, List.mem_append] at hc
  rcases hc with hc | hc | hc
  · exact absurd hc (not_mem_of_isBlank hws hblank)
  · exact hc
  · exact absurd hc (not_mem_of_isBlank hws' hblank)

/-- A text without white space is left as it is. -/
theorem trim_eq_self {s : String} (h : ∀ c ∈ s.toList, isBlank c = false) : trim s = s := by
  have htrim : trimRight (trimLeft ([] ++ (s.toList ++ []))) = s.toList :=
    trimRight_trimLeft_append_eq (by simp) (by simp)
      (fun c hc => h c (List.mem_of_mem_head? hc)) (fun c hc => h c (List.mem_of_mem_getLast? hc))
  rw [List.nil_append, List.append_nil] at htrim
  rw [trim, htrim, String.ofList_toList]

theorem trim_eq_empty_iff {s : String} : trim s = "" ↔ isBlankText s = true := by
  rw [isBlankText, List.all_eq_true]
  constructor
  · intro hempty c hc
    rcases exists_eq_append_trim s with ⟨ws, ws', hws, hws', hs⟩
    rw [hs, hempty, String.toList_empty, List.nil_append] at hc
    rcases List.mem_append.1 hc with hc | hc
    · exact hws c hc
    · exact hws' c hc
  · intro hblank
    have hs : s.toList = s.toList ++ ("".toList ++ []) := by simp
    exact trim_eq_of_append hblank (fun c hc => absurd hc List.not_mem_nil) hs

@[simp] theorem trim_trim (s : String) : trim (trim s) = trim s := by
  simp only [trim, String.toList_ofList, trimLeft_trimRight_trimLeft, trimRight_trimRight]

end BuildPicker.Text
