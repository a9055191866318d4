import BuildPicker.Table
import BuildPicker.Text.Numeral

/-!
Documents: what texts in JSON and in YAML have in common.

A scalar keeps its text and whether it was quoted. What a bare scalar means
depends on the format and on what is wanted of it: in YAML `12` is as good a text
as it is a number, in JSON it is a number only. The readers below answer for one
wanted kind each. A key is a document as well, but only a scalar names an entry.
-/

namespace BuildPicker

open BuildPicker.Text

inductive Format
  | json
  | yaml
  deriving DecidableEq

inductive Document
  | scalar (text : String) (quoted : Bool)
  | sequence (items : List Document)
  | mapping (entries : List (Document × Document))
  /-- A string that can be passed over but not read: half of a surrogate pair stands alone in it. -/
  | garbled

namespace Document

def quoted (s : String) : Document := scalar s true

def bare (s : String) : Document := scalar s false

def null : Document := bare "null"

def number (n : UInt32) : Document := bare (digits n)

/-- A mapping whose keys are names. -/
def ofFields (fields : List (String × Document)) : Document :=
  mapping (fields.map fun (name, d) => (quoted name, d))

/-! ### What a bare scalar means in YAML -/

/-- Whether digits stand behind a leading zero, which makes them a text. -/
def hasLeadingZero : List Char → Bool
  | '0' :: d :: ds => (d :: ds).all Char.isDigit
  | _ => false

/-- An integer without a sign, also in base sixteen, eight or two. -/
def yamlInteger? : List Char → Option Nat
  | '0' :: 'x' :: ds => radix? 16 ds
  | '0' :: 'o' :: ds => radix? 8 ds
  | '0' :: 'b' :: ds => radix? 2 ds
  | cs => if hasLeadingZero cs then none else natural? cs

/-- An integer with or without a plus sign. -/
def yamlUnsigned? (s : String) : Option Nat :=
  match s.toList with
  | '+' :: cs => yamlInteger? cs
  | cs => yamlInteger? cs

def yamlNulls : List String := ["", "~", "null", "Null", "NULL"]

def yamlTrue : List String := ["true", "True", "TRUE"]

def yamlFalse : List String := ["false", "False", "FALSE"]

/-! ### Readers -/

/-- The scalar that stands for no value. -/
def isNull (format : Format) : Document → Bool
  | scalar s false => match format with
    | .json => s = "null"
    | .yaml => yamlNulls.contains s
  | _ => false

/-- In YAML a text need not be quoted, whatever else it looks like. -/
def text? (format : Format) : Document → Option String
  | scalar s quoted => if quoted || format = .yaml then some s else none
  | _ => none

def boolean? (format : Format) : Document → Option Bool
  | scalar s false =>
    let (yes, no) := match format with
      | .json => (["true"], ["false"])
      | .yaml => (yamlTrue, yamlFalse)
    if yes.contains s then some true else if no.contains s then some false else none
  | _ => none

/-- A number of 32 bits. -/
def number? (format : Format) : Document → Option UInt32
  | scalar s false =>
    let n? := match format with
      | .json => natural? s.toList
      | .yaml => yamlUnsigned? s
    n?.bind fun n => uint32? n
  | _ => none

/-- In YAML a collection of nothing may be left out behind its key. -/
def isLeftOut (format : Format) : Document → Bool
  | scalar s false => format = .yaml && s.isEmpty
  | _ => false

def items? (format : Format) (d : Document) : Option (List Document) :=
  if d.isLeftOut format then some []
  else match d with
    | sequence items => some items
    | _ => none

/-- The name that a key is. -/
def name? : Document → Option String
  | scalar s _ => some s
  | _ => none

/-- The entries of a mapping, each with its name. -/
def entries? (format : Format) (d : Document) : Option (List (String × Document)) :=
  if d.isLeftOut format then some []
  else match d with
    | mapping entries => entries.mapM fun (key, v) => key.name?.map (·, v)
    | _ => none

/-- Entries of which none of the given names comes twice. -/
def unrepeated (names : List String) (entries : List (String × Document)) : Bool :=
  names.all fun name => entries.countP (·.1 = name) ≤ 1

/-- The entries of a record. In JSON it may also be given by its values in order. -/
def fields? (format : Format) (names : List String) (d : Document) :
    Option (List (String × Document)) := do
  let entries ← match format, d with
    | .json, sequence items => if items.length ≤ names.length then some (names.zip items) else none
    | _, _ => d.entries? format
  guard (unrepeated names entries)
  return entries

/-- A list of values, each read alike. -/
def list? {α : Type} (format : Format) (read? : Document → Option α) (d : Document) :
    Option (List α) := do
  (← d.items? format).mapM read?

/-- A table of values; of two with one name the later stays. -/
def table? {α : Type} (format : Format) (read? : Document → Option α) (d : Document) :
    Option (Table α) := do
  return .ofList (← (← d.entries? format).mapM fun (name, v) => return (name, ← read? v))

/-- A value that may be null. -/
def nullable? {α : Type} (format : Format) (read? : Document → Option α) (d : Document) :
    Option (Option α) :=
  if d.isNull format then some none else some <$> read? d

end Document

/-- A field that has to be there. -/
def required? {α : Type} (entries : List (String × Document)) (name : String)
    (read? : Document → Option α) : Option α :=
  (entries.lookup name).bind read?

/-- A field that may be left out. -/
def defaulted? {α : Type} (entries : List (String × Document)) (name : String)
    (read? : Document → Option α) (absent : α) : Option α :=
  match entries.lookup name with
  | none => some absent
  | some d => read? d

end BuildPicker
