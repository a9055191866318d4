import BuildPicker.Document.JsonReader
import BuildPicker.Document.YamlReader
import BuildPicker.History.Document
import BuildPicker.Loading.Files

/-!
Loading histories.
-/

namespace BuildPicker

/-- The snapshot that a text gives. -/
def Snapshot.ofText (format : Format) (s : String) : Except LoadError Snapshot :=
  let document? := match format with
    | .json => Json.read? s
    | .yaml => Yaml.read? s
  match document?.bind (Snapshot.ofDocument? format) with
  | some snapshot => .ok snapshot
  | none => .error (.malformed .history format)

namespace History

def ofText (format : Format) (s : String) : Except LoadError History := do
  match ofSnapshot (← Snapshot.ofText format s) with
  | .ok h => return h
  | .error e => .error (.duplicate e)

/-- Loads a file in the format that its extension gives. -/
def load {m : Type → Type} [Monad m] (files : Files m) (path : String) :
    m (Except LoadError History) :=
  files.load .history path (ofText (formatOf path))

end History

end BuildPicker
