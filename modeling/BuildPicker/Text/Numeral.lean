/-!
Decimal numerals and the numbers they stand for.

A numeral is a run of ASCII digits with at most a sign before it; leading zeros
are allowed. `natural?` reads a run, `signed?` a run after an optional sign, and
the bounded readers below also ask that the number fits its width.
-/

namespace BuildPicker.Text

/-- The number written by a non-empty run of digits. -/
def natural? (cs : List Char) : Option Nat :=
  if cs.isEmpty || !cs.all Char.isDigit then none else some (Nat.ofDigitChars 10 cs 0)

/-- What a hexadecimal digit, in either case, counts. -/
def hexDigit? (c : Char) : Option Nat :=
  if c.isDigit then some (c.toNat - '0'.toNat)
  else if 'a' ≤ c && c ≤ 'f' then some (c.toNat - 'a'.toNat + 10)
  else if 'A' ≤ c && c ≤ 'F' then some (c.toNat - 'A'.toNat + 10)
  else none

/-- The number written by a non-empty run of digits in a base up to sixteen. -/
def radix? (base : Nat) (cs : List Char) : Option Nat :=
  if cs.isEmpty then none
  else cs.foldlM (fun n c => do
    let d ← hexDigit? c
    if d < base then some (base * n + d) else none) 0

/-- A run of digits after an optional sign. -/
def signed? : List Char → Option Int
  | '-' :: cs => (natural? cs).map (fun n => -(n : Int))
  | '+' :: cs => (natural? cs).map Int.ofNat
  | cs => (natural? cs).map Int.ofNat

/-- A run of digits after an optional plus sign. -/
def unsigned? : List Char → Option Nat
  | '+' :: cs => natural? cs
  | cs => natural? cs

/-- The signed integer of 64 bits that a number is, if it is one. -/
def int64? (i : Int) : Option Int64 :=
  if -9223372036854775808 ≤ i ∧ i ≤ 9223372036854775807 then some (Int64.ofInt i) else none

/-- The unsigned integer of 32 bits that a number is, if it is one. -/
def uint32? (i : Int) : Option UInt32 :=
  if 0 ≤ i ∧ i < 4294967296 then some (UInt32.ofNat i.toNat) else none

/-- The digits of an integer, after a minus sign when it is negative. -/
def numeral : Int → List Char
  | .ofNat n => Nat.toDigits 10 n
  | .negSucc n => '-' :: Nat.toDigits 10 (n + 1)

def numeralText (i : Int) : String :=
  String.ofList (numeral i)

/-- The numeral of a build number. -/
def digits (n : UInt32) : String :=
  numeralText n.toNat

end BuildPicker.Text
