import BuildPicker.Text.Blank
import BuildPicker.Text.Numeral
import BuildPicker.Expr.Basic

/-!
Why a text is not an expression.

A fault is either that expressions and lists nest too deeply, or a trace: the
place where reading stopped, and around it the constructs that were being read,
innermost first. A place is given by the text that is left from there on, so it
means something only together with the text it was cut from; `Fault.message`
takes that text and shows for each mark its line and column.
-/

namespace BuildPicker

open BuildPicker.Text

/-- What the reader looked for at a place. -/
inductive Expectation
  | char (c : Char)
  | construct (name : String)
  deriving DecidableEq

/-- A place, as the text left there, and what was looked for. -/
structure Mark where
  rest : List Char
  expectation : Expectation
  deriving DecidableEq

inductive Fault
  | tooDeep
  | unexpected (trace : List Mark)
  deriving DecidableEq

namespace Fault

/-- The fault, seen from the construct around it that begins at `rest`. -/
def inside (name : String) (rest : List Char) : Fault → Fault
  | tooDeep => tooDeep
  | unexpected trace => unexpected (trace ++ [⟨rest, .construct name⟩])

end Fault

/-- What a text holds before a place and from there on. -/
structure Place where
  before : List Char
  after : List Char

namespace Place

/-- The place in `text` where `rest` is left. -/
def ofRest (text rest : List Char) : Place :=
  let before := text.take (text.length - rest.length)
  ⟨before, text.drop before.length⟩

/-- Lines are counted from one. -/
def line (p : Place) : Nat :=
  1 + p.before.count '\n'

/-- What stands before the place in its own line. -/
def lineStart (p : Place) : List Char :=
  (p.before.reverse.takeWhile (· != '\n')).reverse

/-- Columns are counted from one, in bytes. -/
def column (p : Place) : Nat :=
  1 + (String.ofList p.lineStart).utf8ByteSize

/-- The whole line without the white space at its end. -/
def lineText (p : Place) : String :=
  String.ofList (trimRight (p.lineStart ++ p.after.takeWhile (· != '\n')))

/-- A caret below the column. -/
def caret (p : Place) : String :=
  String.ofList (List.replicate (p.column - 1) ' ' ++ ['^'])

end Place

namespace Fault

/-- The passage of a message that shows one mark; `i` counts the marks from zero. -/
def passage (text : List Char) (i : Nat) (mark : Mark) : String :=
  let place := Place.ofRest text mark.rest
  let index := numeralText i
  let line := numeralText place.line
  let shown := place.lineText ++ "\n" ++ place.caret ++ "\n"
  match mark.expectation with
  | .construct name => index ++ ": at line " ++ line ++ ", in " ++ name ++ ":\n" ++ shown ++ "\n"
  | .char c =>
    if text.isEmpty then
      index ++ ": expected '" ++ c.toString ++ "', got empty input\n\n"
    else
      let found := match place.after with
        | [] => "got end of input"
        | d :: _ => "found " ++ d.toString
      index ++ ": at line " ++ line ++ ":\n" ++ shown ++ "expected '" ++ c.toString ++ "', " ++
        found ++ "\n\n"

def message (text : String) : Fault → String
  | tooDeep => "nesting too deep: at most " ++ numeralText maxNesting ++ " levels are allowed"
  | unexpected trace =>
    String.join (trace.mapIdx fun i mark => passage text.toList i mark)

end Fault

end BuildPicker
