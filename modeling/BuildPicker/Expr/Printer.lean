import BuildPicker.Expr.Basic
import BuildPicker.Text.Numeral

/-!
The canonical text of an expression.

Parts are separated by one space and a list by one space between its items. Five
characters of a string are escaped: the quote, the backslash, line feed,
carriage return and tab. Everything else is written as it is.
-/

namespace BuildPicker

open BuildPicker.Text

namespace Expr

/-- How one character stands between quotes. -/
def escaped : Char → List Char
  | '"' => ['\\', '"']
  | '\\' => ['\\', '\\']
  | '\n' => ['\\', 'n']
  | '\r' => ['\\', 'r']
  | '\t' => ['\\', 't']
  | c => [c]

def quoted (s : String) : List Char :=
  '"' :: s.toList.flatMap escaped ++ ['"']

end Expr

mutual

def Value.chars : Value → List Char
  | .nil => ['n', 'i', 'l']
  | .boolean true => ['t', 'r', 'u', 'e']
  | .boolean false => ['f', 'a', 'l', 's', 'e']
  | .integer i => numeral i.toInt
  | .string s => Expr.quoted s
  | .expr e => e.chars
  | .list items => '[' :: Expr.itemChars items ++ [']']

def Expr.chars : Expr → List Char
  | .node tag args => '(' :: tag.toList ++ Expr.argChars args ++ [')']

/-- The items of a list, a space between two of them. -/
def Expr.itemChars : List Value → List Char
  | [] => []
  | [v] => v.chars
  | v :: vs => v.chars ++ ' ' :: Expr.itemChars vs

/-- Each argument after a space: the key after a colon, a space, the value. -/
def Expr.argChars : List (String × Value) → List Char
  | [] => []
  | (key, v) :: args => ' ' :: ':' :: key.toList ++ ' ' :: v.chars ++ Expr.argChars args

end

def Value.text (v : Value) : String :=
  String.ofList v.chars

def Expr.text (e : Expr) : String :=
  String.ofList e.chars

end BuildPicker
