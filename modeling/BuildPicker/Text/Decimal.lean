import BuildPicker.Text.Numeral

/-!
Decimal numbers with a point and an exponent, and whether a double can hold them.

Doubles are not needed as values here. All that matters is whether a number is
rounded to a finite one, which `doubleBound` decides: it is the least number that
is not.
-/

namespace BuildPicker.Text

/-- A number as it is written: the digits before and behind the point, and a power of ten. -/
structure Decimal where
  whole : List Char
  fraction : List Char
  exponent : Int

/-- The exponent of a number, if it has one. -/
def exponent? : List Char → Option Int
  | [] => some 0
  | c :: cs => if c == 'e' || c == 'E' then signed? cs else none

/-- Digits with at most one point among or around them, and at most one exponent. -/
def decimal? (cs : List Char) : Option Decimal := do
  let whole := cs.takeWhile Char.isDigit
  let rest := cs.dropWhile Char.isDigit
  let (fraction, rest) := match rest with
    | '.' :: rest => (rest.takeWhile Char.isDigit, rest.dropWhile Char.isDigit)
    | rest => ([], rest)
  guard (!whole.isEmpty || !fraction.isEmpty)
  return ⟨whole, fraction, ← exponent? rest⟩

/-- The least number that takes more than 64 bits. -/
def wordBound : Nat := Nat.pow 2 64

/-- Half a unit of the last place above the greatest double. -/
def doubleBound : Nat := Nat.pow 2 1024 - Nat.pow 2 970

/-- Whether `m · 10 ^ e` is less than `doubleBound`. Far from the bound no power is computed:
`10 ^ 309` is beyond it, and `m` divided by `10 ^ e` is less than one if `m` is less than
`8 ^ e`. -/
def isBelowBound (m : Nat) : Int → Bool
  | .ofNat e => m = 0 || (e ≤ 308 && m * Nat.pow 10 e < doubleBound)
  | .negSucc e => m.log2 < 3 * (e + 1) || m < doubleBound * Nat.pow 10 (e + 1)

/-- The multiple of a power of two with 53 binary digits that is nearest to a number; of two the
one with the even factor. -/
def nearestDouble (n : Nat) : Nat :=
  let unit := Nat.pow 2 (n.log2 + 1 - 53)
  let lower := n / unit
  let rest := 2 * (n % unit)
  if unit < rest || (rest = unit && lower % 2 = 1) then (lower + 1) * unit else lower * unit

namespace Decimal

/-- Whether the double nearest to the number is finite. -/
def isFinite (d : Decimal) : Bool :=
  isBelowBound (Nat.ofDigitChars 10 (d.whole ++ d.fraction) 0) (d.exponent - d.fraction.length)

/-- Takes digits as long as the number they make fits 64 bits, and gives it with the count of the
digits taken. -/
def takeDigits (m : Nat) : List Char → Nat × Nat
  | [] => (m, 0)
  | c :: cs =>
    let next := 10 * m + (c.toNat - '0'.toNat)
    if next < wordBound then
      let (m, count) := takeDigits next cs
      (m, count + 1)
    else (m, 0)

/-- The number by its digits that fit 64 bits, and a power of ten. -/
def cut (d : Decimal) : Nat × Int :=
  let (m, taken) := takeDigits 0 d.whole
  let (m, behind) := takeDigits m d.fraction
  (m, d.whole.length - taken - behind + d.exponent)

/-- Whether the product of the two doubles nearest to the digits that fit 64 bits and to the power
of ten is finite. -/
def isFiniteCut (d : Decimal) : Bool :=
  match d.cut with
  | (m, .ofNat e) =>
    m = 0 || (e ≤ 308 && nearestDouble m * nearestDouble (Nat.pow 10 e) < doubleBound)
  | (_, .negSucc _) => true

end Decimal

end BuildPicker.Text
