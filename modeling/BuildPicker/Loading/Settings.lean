import BuildPicker.Settings
import BuildPicker.Document.YamlReader
import BuildPicker.Loading.Files

/-!
Loading settings.

The file is named on the command line or in the environment, or is the one of the
working directory. Without a file the defaults hold.
-/

namespace BuildPicker

namespace Settings

def fieldNames : List String := ["global_upstream_strategy", "verbose"]

/-- Unlike elsewhere, unknown fields are refused. -/
def ofDocument? (d : Document) : Option Settings := do
  let entries ← d.fields? .yaml fieldNames
  guard (entries.all fun e => fieldNames.contains e.1)
  return {
    triggerOrder := ← defaulted? entries "global_upstream_strategy"
      (fun d => (d.text? .yaml).bind TriggerOrder.ofName?) default.triggerOrder
    verbose := ← defaulted? entries "verbose" (Document.boolean? .yaml) default.verbose }

def ofText (s : String) : Except LoadError Settings :=
  match (Yaml.read? s).bind ofDocument? with
  | some settings => .ok settings
  | none => .error (.malformed .settings .yaml)

/-- The environment variable that names the file. -/
def environmentVariable : String := "RUN_SELECTOR_CONFIG"

/-- The file of the working directory. -/
def defaultPath : String := "run-selector.yaml"

/-- The file to load, given the value of the environment variable. -/
def findPath {m : Type → Type} [Monad m] (files : Files m) (environment : Option String) :
    m (Option String) := do
  match environment with
  | some path => return some path
  | none => return if ← files.has defaultPath then some defaultPath else none

def load {m : Type → Type} [Monad m] (files : Files m) (path : Option String) :
    m (Except LoadError Settings) :=
  match path with
  | none => return .ok default
  | some path => files.load .settings path ofText

end Settings

end BuildPicker
