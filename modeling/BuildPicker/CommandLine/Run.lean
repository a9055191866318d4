import BuildPicker.CommandLine.Arguments
import BuildPicker.Document.JsonPrinter
import BuildPicker.Loading.History
import BuildPicker.Loading.Settings
import BuildPicker.Selection.Request

/-!
What the command line does: load settings and a history, execute one request, and
print the build.
-/

namespace BuildPicker.CommandLine

/-- How a run ends. -/
inductive Ending
  | selected (b : Build)
  | noMatch (cause : SelectionError)
  | failed (chain : List String)

namespace Ending

def status : Ending → UInt32
  | selected _ => 0
  | noMatch _ => 2
  | failed _ => 1

/-- What goes to the standard output: the build, in JSON. -/
def output : Ending → String
  | selected b => Json.pretty b.toDocument ++ "\n"
  | _ => ""

def errorOutput : Ending → String
  | selected _ => ""
  | noMatch cause => cause.message ++ "\n"
  | failed chain => "Error: " ++ ": ".intercalate chain ++ "\n"

def ofResult : Except SelectionError Build → Ending
  | .ok b => selected b
  | .error e => if e.isRetryable then noMatch e else failed [e.message]

end Ending

/-- The end of a run, with the lines written on the way. -/
structure RunReport where
  ending : Ending
  console : List String

namespace Arguments

def request (a : Arguments) : Except SelectionError Request :=
  let plain : Request := ⟨some a.job, none, none, none⟩
  plain.withExpressions a.selector a.filter

/-- Executes the request of the arguments. -/
def execute (a : Arguments) (settings : Settings) (history : History) : RunReport :=
  match a.request with
  | .error e => ⟨.failed ["Invalid selector or filter expression", e.message], []⟩
  | .ok request =>
    let ctx := { Context.fresh history with
      origin := a.origin
      vars := a.vars
      settings := settings
      verbose := a.verbose || settings.verbose }
    let ⟨response, log⟩ := request.execute ctx
    ⟨.ofResult response.result, log.shown response.context.verbose⟩

/-- Settings are loaded before the history, and both before the expressions are read. -/
def run {m : Type → Type} [Monad m] (a : Arguments) (files : Files m)
    (environment : Option String) : m RunReport := do
  let path ← match a.config with
    | some path => pure (some path)
    | none => Settings.findPath files environment
  match ← Settings.load files path with
  | .error e => return ⟨.failed e.chain, []⟩
  | .ok settings =>
    match ← History.load files a.history with
    | .error e => return ⟨.failed e.chain, []⟩
    | .ok history => return a.execute settings history

end Arguments

end BuildPicker.CommandLine
