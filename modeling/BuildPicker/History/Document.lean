import BuildPicker.Document.Plain
import BuildPicker.History.Snapshot

/-!
Builds and snapshots as documents.

A build is written with its job, number and result; the rest only if there is
something to write. Reading leaves unknown fields aside and refuses a field that
comes twice.
-/

namespace BuildPicker

namespace Outcome

def toDocument (o : Outcome) : Document := .quoted o.name

/-- In JSON an outcome may also be the only key of an object that holds null. -/
def ofDocument? (format : Format) : Document → Option Outcome
  | .mapping [(name, value)] =>
    if format = .json && value.isNull format then name.name?.bind ofName? else none
  | d => (d.text? format).bind ofName?

end Outcome

namespace Cause

def toDocument : Cause → Document
  | triggered r => .ofFields
      [("kind", .quoted "upstream"), ("job", .quoted r.job), ("number", .number r.number)]
  | user id => .ofFields
      [("kind", .quoted "user"), ("user_id", (id.map .quoted).getD .null)]
  | timer => .ofFields [("kind", .quoted "timer")]
  | other description => .ofFields
      [("kind", .quoted "other"), ("description", .quoted description)]

/-- The fields that go with a kind of cause. -/
def fieldsOf? : String → Option (List String)
  | "upstream" => some ["job", "number"]
  | "user" => some ["user_id"]
  | "timer" => some []
  | "other" => some ["description"]
  | _ => none

/-- The name of a field by its key, which in YAML may be the place of the field instead. Other
numbers name no field. -/
def fieldName? (format : Format) (names : List String) (key : Document) : Option String :=
  match key.plain? format with
  | some (.text name) => some name
  | some (.unsigned n) => some (names.getD n "")
  | _ => none

def ofFields? (format : Format) (kind : String) (fields : List (String × Document)) :
    Option Cause :=
  let text? : Document → Option String := fun d => (d.plain? format).bind Plain.text?
  match kind with
  | "upstream" => do
    let job ← required? fields "job" text?
    let number ← required? fields "number" fun d => (d.plain? format).bind Plain.number?
    return triggered ⟨job, number⟩
  | "user" => user <$> defaulted? fields "user_id" (Document.nullable? format text?) none
  | "timer" => some timer
  | "other" => other <$> required? fields "description" text?
  | _ => none

/-- How many collections may stand in one another in a cause, with the six around it counted off
from those of a whole text. -/
def levels : Format → Nat
  | .json => 127 - 6
  | .yaml => 128 - 6

/-- A cause is a mapping with its kind under a key, or a sequence that begins with it. The kind
has to be known before the other fields mean anything, so all fields are read as what they look
like, also those that are then left aside. A kind without fields does not ask for their names. -/
def ofDocument? (format : Format) (d : Document) : Option Cause := do
  guard (d.isReadable format (levels format))
  match d with
  | .mapping entries =>
    let (kinds, others) := entries.partition fun e => e.1.plain? format = some (.text "kind")
    let [(_, kind)] := kinds | none
    let kind ← kind.text? format
    let names ← fieldsOf? kind
    let fields ←
      if names.isEmpty then pure []
      else others.mapM fun (key, d) => (fieldName? format names key).map (·, d)
    guard (Document.unrepeated names fields)
    ofFields? format kind fields
  | .sequence (first :: items) =>
    let kind ← first.text? format
    let names ← fieldsOf? kind
    guard (items.length ≤ names.length)
    ofFields? format kind (names.zip items)
  | _ => none

end Cause

namespace Build

def fieldNames : List String :=
  ["job", "number", "display_name", "result", "causes", "upstream_builds"]

/-- An entry, unless there is nothing to write. -/
def entryUnless (nothing : Bool) (name : String) (d : Document) : List (String × Document) :=
  if nothing then [] else [(name, d)]

/-- What is written of a build. -/
def fields (b : Build) : List (String × Document) :=
  [("job", .quoted b.job), ("number", .number b.number)] ++
  (b.givenName.map fun name => ("display_name", .quoted name)).toList ++
  [("result", (b.outcome.map Outcome.toDocument).getD .null)] ++
  entryUnless b.causes.isEmpty "causes" (.sequence (b.causes.map Cause.toDocument)) ++
  entryUnless b.dependencies.isEmpty "upstream_builds"
    (.ofFields (b.dependencies.entries.map fun (job, number) => (job, .number number)))

def toDocument (b : Build) : Document :=
  .ofFields b.fields

def ofDocument? (format : Format) (d : Document) : Option Build := do
  let entries ← d.fields? format fieldNames
  return {
    job := ← defaulted? entries "job" (Document.text? format) ""
    number := ← required? entries "number" (Document.number? format)
    givenName := ← defaulted? entries "display_name"
      (Document.nullable? format (Document.text? format)) none
    outcome := ← defaulted? entries "result"
      (Document.nullable? format (Outcome.ofDocument? format)) none
    causes := ← defaulted? entries "causes"
      (Document.list? format (Cause.ofDocument? format)) []
    dependencies := ← defaulted? entries "upstream_builds"
      (Document.table? format (Document.number? format)) .empty }

end Build

namespace JobSnapshot

def fieldNames : List String := ["name", "root", "permalinks", "builds"]

/-- What is written of a job. -/
def fields (s : JobSnapshot) : List (String × Document) :=
  [("name", .quoted s.name)] ++
  (s.root.map fun root => ("root", .quoted root)).toList ++
  Build.entryUnless s.permalinks.isEmpty "permalinks"
    (.ofFields (s.permalinks.entries.map fun (name, number) => (name, .number number))) ++
  [("builds", .sequence (s.builds.map Build.toDocument))]

def toDocument (s : JobSnapshot) : Document :=
  .ofFields s.fields

def ofDocument? (format : Format) (d : Document) : Option JobSnapshot := do
  let entries ← d.fields? format fieldNames
  return {
    name := ← required? entries "name" (Document.text? format)
    root := ← defaulted? entries "root" (Document.nullable? format (Document.text? format)) none
    permalinks := ← defaulted? entries "permalinks"
      (Document.table? format (Document.number? format)) .empty
    builds := ← defaulted? entries "builds"
      (Document.list? format (Build.ofDocument? format)) [] }

end JobSnapshot

namespace Snapshot

def toDocument (s : Snapshot) : Document :=
  .ofFields [("jobs", .sequence (s.jobs.map JobSnapshot.toDocument))]

def ofDocument? (format : Format) (d : Document) : Option Snapshot := do
  let entries ← d.fields? format ["jobs"]
  return ⟨← defaulted? entries "jobs" (Document.list? format (JobSnapshot.ofDocument? format)) []⟩

end Snapshot

end BuildPicker
