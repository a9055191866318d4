import BuildPicker.Text.Blank
import BuildPicker.Text.Numeral
import BuildPicker.Expr.Basic
import BuildPicker.Expr.Fault

/-!
Reading an expression from its text.

A form is tried at the text left. It is either found, or absent, in which case
another form may be tried at the same place, or it was begun and cannot be
finished, which is a fault of the whole text. An expression is committed to by
its opening parenthesis, a list by its bracket, and the value of an argument by
the white space after its key.

`readValueAt n` reads a value in which expressions and lists may still nest `n`
levels deep, and is defined by recursion on `n`. The loops over arguments and
items run on a count of rounds; the length of the text left is always enough,
since each round takes a character.
-/

namespace BuildPicker

open BuildPicker.Text

/-- The outcome of trying a form at a place. -/
inductive Attempt (α : Type)
  | found (value : α) (rest : List Char)
  | absent
  | broken (fault : Fault)

namespace Attempt

def map {α β : Type} (f : α → β) : Attempt α → Attempt β
  | found a rest => found (f a) rest
  | absent => absent
  | broken fault => broken fault

end Attempt

namespace Expr

def skipSpace (cs : List Char) : List Char :=
  cs.dropWhile isSpace

/-! ### Names -/

def beginsName (c : Char) : Bool :=
  c.isAlpha || c == '_'

def continuesName (c : Char) : Bool :=
  c.isAlphanum || c == '_' || c == '-'

/-- A letter or an underscore, then letters, digits, underscores and hyphens. -/
def isName : List Char → Bool
  | [] => false
  | c :: cs => beginsName c && cs.all continuesName

/-- The longest name at the beginning of a text. -/
def readName? : List Char → Option (String × List Char)
  | [] => none
  | c :: cs =>
    if beginsName c then
      some (String.ofList (c :: cs.takeWhile continuesName), cs.dropWhile continuesName)
    else none

/-! ### Values without parts -/

def unescape? : Char → Option Char
  | '"' => some '"'
  | '\\' => some '\\'
  | 'n' => some '\n'
  | 'r' => some '\r'
  | 't' => some '\t'
  | _ => none

/-- A string from behind its opening quote, up to and with its closing one. -/
def readString? : List Char → Option (List Char × List Char)
  | [] => none
  | '"' :: rest => some ([], rest)
  | ['\\'] => none
  | '\\' :: c :: rest =>
    match unescape? c, readString? rest with
    | some d, some (body, rest) => some (d :: body, rest)
    | _, _ => none
  | c :: rest =>
    match readString? rest with
    | some (body, rest) => some (c :: body, rest)
    | none => none

/-- A whole run of digits, if its number fits 64 bits. -/
def readInteger? (cs : List Char) : Option (Int64 × List Char) :=
  let (sign, run) : Int × List Char := match cs with
    | '-' :: rest => (-1, rest)
    | rest => (1, rest)
  match natural? (run.takeWhile Char.isDigit) with
  | none => none
  | some n => (int64? (sign * n)).map (·, run.dropWhile Char.isDigit)

/-- A literal, a string or an integer. -/
def readScalar? : List Char → Option (Value × List Char)
  | 't' :: 'r' :: 'u' :: 'e' :: rest => some (.boolean true, rest)
  | 'f' :: 'a' :: 'l' :: 's' :: 'e' :: rest => some (.boolean false, rest)
  | 'n' :: 'i' :: 'l' :: rest => some (.nil, rest)
  | '"' :: rest => (readString? rest).map fun (body, rest) => (.string (String.ofList body), rest)
  | cs => (readInteger? cs).map fun (i, rest) => (.integer i, rest)

/-! ### Arguments, expressions and lists -/

/-- How a value is read at a place. -/
abbrev ValueReader := List Char → Attempt Value

/-- One argument. It is absent unless a colon, a key and white space are there. -/
def readArgument (value : ValueReader) (cs : List Char) : Attempt (String × Value) :=
  match skipSpace cs with
  | ':' :: afterColon =>
    match readName? afterColon with
    | none => .absent
    | some (key, afterKey) =>
      let start := skipSpace afterKey
      if start.length = afterKey.length then .absent
      else match value start with
        | .found v rest => .found (key, v) rest
        | .broken fault => .broken (fault.inside "value" start)
        | .absent => .broken (.unexpected
            [⟨start, .char '['⟩, ⟨start, .construct "Alt"⟩, ⟨start, .construct "value"⟩])
  | _ => .absent

/-- Arguments as long as there are any; the text left begins where the first absent one would. -/
def readArguments (value : ValueReader) : Nat → List Char → Attempt (List (String × Value))
  | 0, cs => .found [] cs
  | rounds + 1, cs =>
    match readArgument value cs with
    | .found arg rest => (readArguments value rounds rest).map (arg :: ·)
    | .absent => .found [] cs
    | .broken fault => .broken fault

/-- The white space behind an item, with at most one comma in it. -/
def skipSeparator (cs : List Char) : List Char :=
  match skipSpace cs with
  | ',' :: rest => skipSpace rest
  | rest => rest

/-- Items as long as there are any. -/
def readItems (value : ValueReader) : Nat → List Char → Attempt (List Value)
  | 0, cs => .found [] cs
  | rounds + 1, cs =>
    match value cs with
    | .found item rest => (readItems value rounds (skipSeparator rest)).map (item :: ·)
    | .absent => .found [] cs
    | .broken fault => .broken fault

/-- A closing character after white space, behind which `a` is complete. -/
def close {α : Type} (closing : Char) (name : String) (a : α) (cs : List Char) : Attempt α :=
  let start := skipSpace cs
  match start with
  | c :: rest =>
    if c = closing then .found a rest
    else .broken (.unexpected [⟨start, .char closing⟩, ⟨start, .construct name⟩])
  | [] => .broken (.unexpected [⟨start, .char closing⟩, ⟨start, .construct name⟩])

/-- An expression; `value?` reads the values inside, unless no further level may be opened. -/
def readExprWith (value? : Option ValueReader) : List Char → Attempt Expr
  | '(' :: cs =>
    match value? with
    | none => .broken .tooDeep
    | some value =>
      let start := skipSpace cs
      match readName? start with
      | none => .broken (.unexpected
          [⟨start, .construct "Tag"⟩, ⟨start, .construct "Alt"⟩,
            ⟨start, .construct "expression tag"⟩])
      | some (tag, rest) =>
        match readArguments value rest.length rest with
        | .found args rest => close ')' "closing parenthesis" (.node tag args) rest
        | .absent => .absent
        | .broken fault => .broken fault
  | _ => .absent

/-- A list; `value?` reads its items, unless no further level may be opened. -/
def readListWith (value? : Option ValueReader) : List Char → Attempt (List Value)
  | '[' :: cs =>
    match value? with
    | none => .broken .tooDeep
    | some value =>
      match readItems value cs.length (skipSpace cs) with
      | .found items rest => close ']' "closing bracket" items rest
      | .absent => .absent
      | .broken fault => .broken fault
  | _ => .absent

def readValueWith (value? : Option ValueReader) (cs : List Char) : Attempt Value :=
  match readScalar? cs with
  | some (v, rest) => .found v rest
  | none =>
    match readExprWith value? cs with
    | .found e rest => .found (.expr e) rest
    | .broken fault => .broken fault
    | .absent => (readListWith value? cs).map .list

/-- A value in which expressions and lists may nest `n` levels deep. -/
def readValueAt : Nat → ValueReader
  | 0 => readValueWith none
  | n + 1 => readValueWith (some (readValueAt n))

/-- An expression at the beginning of a text. -/
def read : List Char → Attempt Expr :=
  readExprWith (some (readValueAt (maxNesting - 1)))

/-- The expression that a whole text is, white space around it allowed. -/
def ofChars (cs : List Char) : Except Fault Expr :=
  let start := skipSpace cs
  match read start with
  | .found e rest =>
    let rest := skipSpace rest
    if rest.isEmpty then .ok e else .error (.unexpected [⟨rest, .construct "Eof"⟩])
  | .absent => .error (.unexpected [⟨start, .char '('⟩])
  | .broken fault => .error fault

def ofText (s : String) : Except Fault Expr :=
  ofChars s.toList

end Expr

end BuildPicker
