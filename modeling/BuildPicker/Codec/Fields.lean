import BuildPicker.Text.Blank
import BuildPicker.Expr.Reader
import BuildPicker.Codec.Error

/-!
Reading the fields of an expression.

The form of a node gives its tag, the other tags that are read alike, and its
fields. The keys of an expression are checked from left to right before any
field is read. A field that holds nil counts as absent.
-/

namespace BuildPicker

open BuildPicker.Text

structure Form where
  tag : String
  aliases : List String
  fields : List String

def Form.answersTo (form : Form) (tag : String) : Bool :=
  form.tag = tag || form.aliases.contains tag

namespace Expr

/-- The expression that a text is, unless the text is blank. -/
def ofSource (s : String) : Except DecodeError Expr :=
  if isBlankText s then .error .blank
  else match ofText s with
    | .ok e => .ok e
    | .error fault => .error (.malformed s fault)

/-- Each key is a field of the form, and comes once; `seen` are the keys before these. -/
def checkKeys (tag : String) (fields seen : List String) : List String → Except DecodeError Unit
  | [] => .ok ()
  | key :: rest =>
    if !fields.contains key then .error (.unknownField tag key)
    else if seen.contains key then .error (.repeatedField tag key)
    else checkKeys tag fields (key :: seen) rest

def checkFields (e : Expr) (form : Form) : Except DecodeError Unit :=
  checkKeys e.tag form.fields [] e.keys

/-- The value of a field that is there and not nil. -/
def field? (e : Expr) (key : String) : Option Value :=
  match e.get? key with
  | some .nil => none
  | v? => v?

def field (e : Expr) (key : String) : Except DecodeError Value :=
  match e.field? key with
  | some v => .ok v
  | none => .error (.missingField e.tag key)

def refuse {α : Type} (e : Expr) (key : String) (required : Requirement) (found : Value) :
    Except DecodeError α :=
  .error (.invalidField e.tag key required found.kindName)

def textField (e : Expr) (key : String) : Except DecodeError String := do
  match ← e.field key with
  | .string s => .ok s
  | v => e.refuse key .text v

/-- An integer counts as its numeral. -/
def textOrIntegerField (e : Expr) (key : String) : Except DecodeError String := do
  match ← e.field key with
  | .string s => .ok s
  | .integer i => .ok (numeralText i.toInt)
  | v => e.refuse key .textOrInteger v

def booleanFieldOr (e : Expr) (key : String) (absent : Bool) : Except DecodeError Bool :=
  match e.field? key with
  | none => .ok absent
  | some (.boolean b) => .ok b
  | some v => e.refuse key .boolean v

def exprField (e : Expr) (key : String) : Except DecodeError Expr := do
  match ← e.field key with
  | .expr nested => .ok nested
  | v => e.refuse key .expression v

/-- The items of a list, all of which have to be expressions. -/
def allExprs (e : Expr) (key : String) : List Value → Except DecodeError (List Expr)
  | [] => .ok []
  | .expr nested :: rest => do return nested :: (← e.allExprs key rest)
  | v :: _ => e.refuse key .expressions v

/-- A list of expressions; an absent one is empty. -/
def exprsField (e : Expr) (key : String) : Except DecodeError (List Expr) :=
  match e.field? key with
  | none => .ok []
  | some (.list items) => e.allExprs key items
  | some v => e.refuse key .list v

/-- A string that names one of several choices. -/
def choiceFieldOr {α : Type} (e : Expr) (key : String) (absent : α) (ofName? : String → Option α) :
    Except DecodeError α :=
  match e.field? key with
  | none => .ok absent
  | some (.string s) =>
    match ofName? s with
    | some a => .ok a
    | none => .error (.unknownValue e.tag key s)
  | some v => e.refuse key .text v

end Expr

/-- Decodes the members of a list from left to right. -/
def decodeAll {α : Type} (decode : Expr → Except DecodeError α) :
    List Expr → Except DecodeError (List α)
  | [] => .ok []
  | e :: rest => do
    let a ← decode e
    let as ← decodeAll decode rest
    return a :: as

end BuildPicker
