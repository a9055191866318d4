import BuildPicker.Text.Numeral
import Mathlib.Data.List.Basic

/-!
Numerals and the numbers that are read from them.

The digits that are written for a number are read as that number, and begin with a
zero only if the number is zero.
-/

namespace BuildPicker.Text

theorem natural?_eq_some_iff {ds : List Char} {n : Nat} :
    natural? ds = some n ↔
      ds ≠ [] ∧ (∀ c ∈ ds, c.isDigit) ∧ Nat.ofDigitChars 10 ds 0 = n := by
  simp [natural?, and_assoc]

theorem isDigit_of_mem_toDigits {n : Nat} {c : Char} (hc : c ∈ Nat.toDigits 10 n) : c.isDigit :=
  Nat.isDigit_of_mem_toDigits (by decide) (by decide) hc

theorem natural?_toDigits (n : Nat) : natural? (Nat.toDigits 10 n) = some n :=
  natural?_eq_some_iff.2
    ⟨Nat.toDigits_ne_nil, fun _ => isDigit_of_mem_toDigits, by simp⟩

theorem head?_toDigits_ne_zero {n : Nat} (hn : n ≠ 0) : (Nat.toDigits 10 n).head? ≠ some '0' := by
  induction n using Nat.strongRecOn with
  | ind n ih =>
      by_cases hlt : n < 10
      · have hdigit : ∀ m < 10, m ≠ 0 → m.digitChar ≠ '0' := by decide
        rw [Nat.toDigits_of_lt_base hlt, List.head?_cons, ne_eq, Option.some.injEq]
        exact hdigit n hlt hn
      · have hdiv : n / 10 ≠ 0 := by omega
        rw [Nat.toDigits_of_base_le (by decide) (by omega),
          List.head?_append_of_ne_nil _ Nat.toDigits_ne_nil]
        exact ih (n / 10) (by omega) hdiv

/-! ### Numbers of 32 bits -/

theorem uint32?_eq_some_iff {i : Int} {n : UInt32} : uint32? i = some n ↔ i = n.toNat := by
  have hlt := n.toNat_lt
  unfold uint32?
  split
  · next h =>
      have hi : i.toNat < 4294967296 := by omega
      have htoNat : (UInt32.ofNat i.toNat).toNat = i.toNat := UInt32.toNat_ofNat_of_lt' hi
      rw [Option.some.injEq, ← UInt32.toNat_inj, htoNat]
      omega
  · next h =>
      simp only [reduceCtorEq, false_iff]
      omega

@[simp] theorem toList_digits (n : UInt32) : (digits n).toList = Nat.toDigits 10 n.toNat := by
  rw [digits, numeralText, String.toList_ofList]
  rfl

end BuildPicker.Text
