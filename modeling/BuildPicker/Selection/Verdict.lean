import BuildPicker.Codec.Filter
import BuildPicker.Template
import BuildPicker.History.Build
import BuildPicker.Selection.Log
import BuildPicker.Selection.Context

/-!
Whether a filter accepts a build.

The filters within a filter are judged from left to right, and no further than
needed. A parameterized filter is read from its expanded parameter; one that
cannot be read accepts nothing, and reading may lead from parameter to parameter
only so often.
-/

namespace BuildPicker

open BuildPicker.Text

/-- Written where no further parameter may be followed. -/
def noticeTooManyLevels : Logged Unit :=
  notice ("Parameters nested more than " ++ numeralText maxLevels ++ " levels deep, giving up")

def detailUnresolved (expanded : String) : Logged Unit :=
  detail ("Unresolved variable " ++ expanded)

namespace Filter

/-- The verdict of a filter that is read from a parameter; `nested` judges by the filter read. -/
def judgeParameter (vars : Variables) (nested : Filter → Logged Bool) (parameter : String) :
    Logged Bool := do
  let label := (parameterized parameter).label
  let expression := vars.expand parameter
  detail (label ++ ": Expanded filter: " ++ expression)
  if isBlankText expression then
    detail (label ++ ": No filter is specified")
    return true
  else if isUnresolved expression then
    detailUnresolved expression
    return false
  else match decode expression with
    | .ok f => nested f
    | .error e =>
      report ("Failed to resolve filter: " ++ expression) e.message []
      return false

mutual

/-- The verdict on a build; `nested` judges by the filters that are read from parameters. -/
def judgeWith (vars : Variables) (nested : Filter → Logged Bool) (b : Build) :
    Filter → Logged Bool
  | acceptAll => return true
  | displayName template => do
    let expected := vars.expand template
    if isUnresolved expected then
      detailUnresolved expected
      return false
    else return expected = b.displayName
  | and filters => judgeAll vars nested b (and filters).label filters
  | or filters => judgeAny vars nested b (or filters).label filters
  | not f => do
    let accepted ← judgeWith vars nested b f
    detail (b.fullName ++ ": result of " ++ f.label ++ " is reverted: " ++ toString accepted ++
      " -> " ++ toString (!accepted))
    return !accepted
  | parameterized parameter => judgeParameter vars nested parameter

/-- Whether all filters accept, asked up to the first that does not. -/
def judgeAll (vars : Variables) (nested : Filter → Logged Bool) (b : Build) (label : String) :
    List Filter → Logged Bool
  | [] => return true
  | f :: rest => do
    if ← judgeWith vars nested b f then judgeAll vars nested b label rest
    else
      detail (b.fullName ++ ": declined by the filter " ++ f.label ++ " (in " ++ label ++ ")")
      return false

/-- Whether some filter accepts, asked up to the first that does. -/
def judgeAny (vars : Variables) (nested : Filter → Logged Bool) (b : Build) (label : String) :
    List Filter → Logged Bool
  | [] => return false
  | f :: rest => do
    if ← judgeWith vars nested b f then
      detail (b.fullName ++ ": accepted by the filter " ++ f.label ++ " (in " ++ label ++ ")")
      return true
    else judgeAny vars nested b label rest

end

/-- The verdict on a build where `levels` parameters may still be followed. -/
def judge (vars : Variables) : (levels : Nat) → Build → Filter → Logged Bool
  | 0, b, f => judgeWith vars (fun _ => do noticeTooManyLevels; return false) b f
  | levels + 1, b, f => judgeWith vars (judge vars levels b) b f

end Filter

/-- The verdict of the filter in force. -/
def Context.judge (ctx : Context) (b : Build) : Logged Bool :=
  Filter.judge ctx.vars ctx.levels b ctx.filter

end BuildPicker
