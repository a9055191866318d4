import BuildPicker.Document.Basic

/-!
Reading JSON, by RFC 8259 and no more: no comments, no trailing commas, nothing
behind the value.

A number keeps its literal. A string in which half of a surrogate pair stands alone
is well formed, but has no text. Each form takes at least one character, so the
length of the text bounds the rounds.
-/

namespace BuildPicker.Json

open BuildPicker.Text

def isJsonSpace (c : Char) : Bool :=
  c == ' ' || c == '\t' || c == '\n' || c == '\r'

def skip (cs : List Char) : List Char :=
  cs.dropWhile isJsonSpace

/-! ### Strings -/

/-- The character of an escape of one letter. -/
def escape? : Char → Option Char
  | '"' => some '"'
  | '\\' => some '\\'
  | '/' => some '/'
  | 'b' => some '\x08'
  | 'f' => some '\x0c'
  | 'n' => some '\n'
  | 'r' => some '\r'
  | 't' => some '\t'
  | _ => none

/-- A character as it is written in a string. -/
inductive CodeUnit
  | char (c : Char)
  /-- One half of a surrogate pair. -/
  | half (n : Nat)

/-- The unit that a number of 16 bits is. -/
def CodeUnit.ofNat (n : Nat) : CodeUnit :=
  if 0xd800 ≤ n && n < 0xe000 then half n else char (Char.ofNat n)

/-- The units of a string from behind its opening quote, up to and with its closing one. -/
def readUnits? : List Char → Option (List CodeUnit × List Char)
  | '"' :: rest => some ([], rest)
  | '\\' :: 'u' :: a :: b :: c :: d :: rest => do
    let n ← radix? 16 [a, b, c, d]
    let (units, rest) ← readUnits? rest
    return (.ofNat n :: units, rest)
  | '\\' :: c :: rest => do
    let char ← escape? c
    let (units, rest) ← readUnits? rest
    return (.char char :: units, rest)
  | c :: rest =>
    if c.toNat < 0x20 || c == '\\' then none
    else do
      let (units, rest) ← readUnits? rest
      return (.char c :: units, rest)
  | [] => none

/-- The characters of a string, in which each half of a surrogate pair has to stand before or
behind its other half. -/
def joinHalves? : List CodeUnit → Option (List Char)
  | [] => some []
  | .char c :: rest => (joinHalves? rest).map (c :: ·)
  | .half high :: .half low :: rest =>
    if high < 0xdc00 && 0xdc00 ≤ low then
      (joinHalves? rest).map (Char.ofNat (0x10000 + (high - 0xd800) * 0x400 + (low - 0xdc00)) :: ·)
    else none
  | .half _ :: _ => none

/-- A string and the text behind it. -/
def readString? (cs : List Char) : Option (Document × List Char) := do
  let (units, rest) ← readUnits? cs
  match joinHalves? units with
  | some content => return (.quoted (String.ofList content), rest)
  | none => return (.garbled, rest)

/-! ### Numbers -/

/-- A run of digits, which may not be empty. -/
def readDigits? (cs : List Char) : Option (List Char × List Char) :=
  let run := cs.takeWhile Char.isDigit
  if run.isEmpty then none else some (run, cs.dropWhile Char.isDigit)

/-- Digits without a leading zero. -/
def readWhole? : List Char → Option (List Char × List Char)
  | '0' :: rest => some (['0'], rest)
  | cs => readDigits? cs

def readFraction? : List Char → Option (List Char × List Char)
  | '.' :: rest => do
    let (run, rest) ← readDigits? rest
    return ('.' :: run, rest)
  | cs => some ([], cs)

def readExponent? : List Char → Option (List Char × List Char)
  | c :: rest =>
    if c == 'e' || c == 'E' then do
      let (sign, rest) := match rest with
        | '+' :: rest => (['+'], rest)
        | '-' :: rest => (['-'], rest)
        | rest => ([], rest)
      let (run, rest) ← readDigits? rest
      return (c :: sign ++ run, rest)
    else some ([], c :: rest)
  | [] => some ([], [])

/-- The literal of a number. -/
def readNumber? (cs : List Char) : Option (List Char × List Char) := do
  let (sign, cs) := match cs with
    | '-' :: rest => (['-'], rest)
    | rest => ([], rest)
  let (whole, cs) ← readWhole? cs
  let (fraction, cs) ← readFraction? cs
  let (exponent, cs) ← readExponent? cs
  return (sign ++ whole ++ fraction ++ exponent, cs)

/-! ### Values -/

mutual

/-- A value at the beginning of a text. -/
def readValue? : Nat → List Char → Option (Document × List Char)
  | 0, _ => none
  | n + 1, cs =>
    match skip cs with
    | 'n' :: 'u' :: 'l' :: 'l' :: rest => some (.bare "null", rest)
    | 't' :: 'r' :: 'u' :: 'e' :: rest => some (.bare "true", rest)
    | 'f' :: 'a' :: 'l' :: 's' :: 'e' :: rest => some (.bare "false", rest)
    | '"' :: rest => readString? rest
    | '[' :: rest =>
      match skip rest with
      | ']' :: rest => some (.sequence [], rest)
      | rest => do
        let (items, rest) ← readItems? n rest
        return (.sequence items, rest)
    | '{' :: rest =>
      match skip rest with
      | '}' :: rest => some (.mapping [], rest)
      | rest => do
        let (members, rest) ← readMembers? n rest
        return (.mapping members, rest)
    | cs => do
      let (literal, rest) ← readNumber? cs
      return (.bare (String.ofList literal), rest)

/-- The items of an array and its closing bracket. -/
def readItems? : Nat → List Char → Option (List Document × List Char)
  | 0, _ => none
  | n + 1, cs => do
    let (item, rest) ← readValue? n cs
    match skip rest with
    | ',' :: rest =>
      let (items, rest) ← readItems? n rest
      return (item :: items, rest)
    | ']' :: rest => return ([item], rest)
    | _ => none

/-- The members of an object and its closing brace. -/
def readMembers? : Nat → List Char → Option (List (Document × Document) × List Char)
  | 0, _ => none
  | n + 1, cs =>
    match skip cs with
    | '"' :: rest => do
      let (key, rest) ← readString? rest
      match skip rest with
      | ':' :: rest =>
        let (value, rest) ← readValue? n rest
        match skip rest with
        | ',' :: rest =>
          let (members, rest) ← readMembers? n rest
          return ((key, value) :: members, rest)
        | '}' :: rest => return ([(key, value)], rest)
        | _ => none
      | _ => none
    | _ => none

end

/-- The document that a whole text is. -/
def read? (s : String) : Option Document := do
  let (d, rest) ← readValue? (s.toList.length + 1) s.toList
  if (skip rest).isEmpty then some d else none

end BuildPicker.Json
