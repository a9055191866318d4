import BuildPicker.Selection.Candidate

/-!
Requests: the entry point for callers.

A request names a job and may give a selector, a filter and a verbosity; what it
leaves out has a default. It is executed on a context, which keeps the filter
and the verbosity of the request afterwards.
-/

namespace BuildPicker

open BuildPicker.Text

structure Request where
  job : Option String
  selector : Option Selector
  filter : Option Filter
  verbose : Option Bool

namespace Request

/-- Reads an expression unless it is absent or blank. -/
def decodeGiven {α : Type} (decode : String → Except DecodeError α) (given : Option String)
    (otherwise : Option α) : Except SelectionError (Option α) :=
  match given.bind nonBlank? with
  | none => .ok otherwise
  | some expression =>
    match decode expression with
    | .ok a => .ok (some a)
    | .error e => .error (.undecodable e)

/-- The request with a selector and a filter given as expressions, the selector read first. -/
def withExpressions (r : Request) (selector filter : Option String) :
    Except SelectionError Request := do
  let selector ← decodeGiven Selector.decode selector r.selector
  let filter ← decodeGiven Filter.decode filter r.filter
  return { r with selector, filter }

/-- The job named by the request, without white space around its name. -/
def findJob (r : Request) (history : History) : Except SelectionError Job :=
  match (r.job.map trim).filter (! ·.isEmpty) with
  | none => .error .missingJobName
  | some name =>
    match history.job? name with
    | none => .error (.jobNotFound name)
    | some job => .ok job

/-- The selector of the request, or the default with a notice. -/
def chosenSelector (r : Request) : Logged Selector :=
  match r.selector with
  | some s => return s
  | none => do
    notice ("No selector is specified. Using the default: " ++ Selector.default.label)
    return .default

/-- The filter of the request, or the default with a notice. -/
def chosenFilter (r : Request) : Logged Filter :=
  match r.filter with
  | some f => return f
  | none => do
    notice ("No filter is specified. Using the default: " ++ Filter.acceptAll.label)
    return .acceptAll

end Request

/-- What a request ends in, with the context that it leaves. -/
structure Response where
  result : Except SelectionError Build
  context : Context

namespace Request

def execute (r : Request) (ctx : Context) : Logged Response := do
  match r.findJob ctx.history with
  | .error e => return ⟨.error e, ctx⟩
  | .ok job =>
    let selector ← r.chosenSelector
    let filter ← r.chosenFilter
    let choice ← selector.select job
      { ctx with filter := filter, verbose := r.verbose.getD ctx.verbose }
    let result := match choice.result with
      | .error e => .error e
      | .ok none => .error (.noBuildFound job.name selector.label filter.label)
      | .ok (some b) => .ok b
    return ⟨result, choice.context⟩

end Request

/-- Selects a build of a job on a fresh context. -/
def selectBuild (history : History) (job : String) (selector : Option Selector)
    (filter : Option Filter) (vars : Variables) (verbose : Bool) :
    Except SelectionError Build :=
  let request : Request := ⟨some job, selector, filter, none⟩
  let ctx := { Context.fresh history with vars, verbose }
  (request.execute ctx).value.result

end BuildPicker
