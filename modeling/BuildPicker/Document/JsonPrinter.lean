import BuildPicker.Document.Basic

/-!
Writing JSON over several lines, with two spaces for each level.

An empty array or object stays on one line. In strings the quote, the backslash
and the control characters below the space are escaped, those with a letter of
their own by it. What cannot be read is written as null.
-/

namespace BuildPicker.Json

def hexLetter (n : Nat) : Char :=
  if n < 10 then Char.ofNat ('0'.toNat + n) else Char.ofNat ('a'.toNat + (n - 10))

/-- How one character stands between quotes. -/
def escaped : Char → List Char
  | '"' => ['\\', '"']
  | '\\' => ['\\', '\\']
  | '\n' => ['\\', 'n']
  | '\r' => ['\\', 'r']
  | '\t' => ['\\', 't']
  | '\x08' => ['\\', 'b']
  | '\x0c' => ['\\', 'f']
  | c =>
    if c.toNat < 0x20 then
      ['\\', 'u', '0', '0', hexLetter (c.toNat / 16), hexLetter (c.toNat % 16)]
    else [c]

def quotedChars (s : String) : List Char :=
  '"' :: s.toList.flatMap escaped ++ ['"']

/-- A new line at a level. -/
def newLine (level : Nat) : List Char :=
  '\n' :: List.replicate (2 * level) ' '

mutual

def prettyChars (level : Nat) : Document → List Char
  | .scalar s true => quotedChars s
  | .scalar s false => s.toList
  | .sequence [] => ['[', ']']
  | .sequence (item :: items) =>
    '[' :: itemChars (level + 1) (item :: items) ++ newLine level ++ [']']
  | .mapping [] => ['{', '}']
  | .mapping (entry :: entries) =>
    '{' :: memberChars (level + 1) (entry :: entries) ++ newLine level ++ ['}']
  | .garbled => ['n', 'u', 'l', 'l']

def itemChars (level : Nat) : List Document → List Char
  | [] => []
  | [item] => newLine level ++ prettyChars level item
  | item :: items => newLine level ++ prettyChars level item ++ ',' :: itemChars level items

def memberChars (level : Nat) : List (Document × Document) → List Char
  | [] => []
  | [(key, value)] =>
    newLine level ++ prettyChars level key ++ ':' :: ' ' :: prettyChars level value
  | (key, value) :: entries =>
    newLine level ++ prettyChars level key ++ ':' :: ' ' :: prettyChars level value ++
      ',' :: memberChars level entries

end

def pretty (d : Document) : String :=
  String.ofList (prettyChars 0 d)

end BuildPicker.Json
