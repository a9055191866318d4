import BuildPicker.Table

/-!
Templates: texts with references to variables, `$NAME` or `${NAME}`.

A template falls into pieces from left to right: a reference wherever one can
begin, a plain character elsewhere. This does not depend on what the variables
hold. Expansion puts the value of each bound variable in the place of its
references and does not look into the value; a reference to an unbound variable
stays as it is.
-/

namespace BuildPicker

/-- A reference to a variable; in braces its name may hold all but a closing brace. -/
structure Reference where
  braced : Bool
  name : List Char
  deriving DecidableEq

namespace Reference

/-- The text of the reference. -/
def source (r : Reference) : List Char :=
  if r.braced then '$' :: '{' :: r.name ++ ['}'] else '$' :: r.name

/-- The characters of a name outside braces: ASCII letters, digits and the underscore. -/
def isNameChar (c : Char) : Bool :=
  c.isAlphanum || c == '_'

/-- The reference that a text begins with. -/
def read? : List Char → Option Reference
  | '$' :: '{' :: cs =>
    let name := cs.takeWhile (· != '}')
    if name.isEmpty || name.length = cs.length then none else some ⟨true, name⟩
  | '$' :: cs =>
    let name := cs.takeWhile isNameChar
    if name.isEmpty then none else some ⟨false, name⟩
  | _ => none

end Reference

inductive Piece
  | plain (c : Char)
  | reference (r : Reference)
  deriving DecidableEq

def Piece.source : Piece → List Char
  | plain c => [c]
  | reference r => r.source

/-- The pieces of a text, of which the first `skip` characters belong to a piece already taken. -/
def piecesFrom : (skip : Nat) → List Char → List Piece
  | _, [] => []
  | skip + 1, _ :: cs => piecesFrom skip cs
  | 0, c :: cs =>
    match Reference.read? (c :: cs) with
    | some r => .reference r :: piecesFrom (r.source.length - 1) cs
    | none => .plain c :: piecesFrom 0 cs

def pieces (template : List Char) : List Piece :=
  piecesFrom 0 template

/-- What variables hold. -/
abbrev Variables := Table String

namespace Variables

/-- The text that a piece expands to. -/
def expandPiece (vars : Variables) : Piece → List Char
  | .plain c => [c]
  | .reference r => ((vars.get? (String.ofList r.name)).map String.toList).getD r.source

def expand (vars : Variables) (template : String) : String :=
  String.ofList ((pieces template.toList).flatMap vars.expandPiece)

end Variables

/-- An expanded template that still begins with a reference counts as not given. -/
def isUnresolved (expanded : String) : Bool :=
  expanded.toList.head? = some '$'

end BuildPicker
