import BuildPicker.Selector
import BuildPicker.Codec.Filter

/-!
Selectors as expressions.

A build number may also be given as an integer, and the entry of a fallback may
leave out its filter. The templates of the three selectors for a single build
are trimmed both ways.
-/

namespace BuildPicker

open BuildPicker.Text

namespace Selector

inductive Kind
  | buildNumber
  | displayName
  | permalink
  | status
  | triggering
  | fallback
  | parameterized
  deriving DecidableEq

namespace Kind

def all : List Kind :=
  [buildNumber, displayName, permalink, status, triggering, fallback, parameterized]

def form : Kind → Form
  | buildNumber => ⟨"build-number", ["buildNumber"], ["number"]⟩
  | displayName => ⟨"display-name", ["displayName"], ["name"]⟩
  | permalink => ⟨"permalink", [], ["id"]⟩
  | status => ⟨"status", ["lastWithStatus"], ["build-status"]⟩
  | triggering =>
    ⟨"triggering", ["upstream"], ["allow-upstream-dependencies", "upstream-strategy"]⟩
  | fallback => ⟨"fallback", [], ["entries"]⟩
  | parameterized => ⟨"parameterized", ["parameterizedSelector"], ["parameter"]⟩

def ofTag? (tag : String) : Option Kind :=
  all.find? fun kind => kind.form.answersTo tag

end Kind

/-- The form of one entry of a fallback. -/
def entryForm : Form := ⟨"entry", [], ["selector", "filter"]⟩

mutual

def toExpr : Selector → Expr
  | buildNumber template =>
    .node Kind.buildNumber.form.tag [("number", .string (trim template))]
  | displayName template =>
    .node Kind.displayName.form.tag [("name", .string (trim template))]
  | permalink template =>
    .node Kind.permalink.form.tag [("id", .string (trim template))]
  | status s => .node Kind.status.form.tag [("build-status", .string s.name)]
  | triggering dependencies strategy =>
    .node Kind.triggering.form.tag
      [("allow-upstream-dependencies", .boolean dependencies),
        ("upstream-strategy", .string strategy.name)]
  | fallback entries => .node Kind.fallback.form.tag [("entries", .list (toValues entries))]
  | parameterized parameter =>
    .node Kind.parameterized.form.tag [("parameter", .string parameter)]

def toValues : List (Selector × Filter) → List Value
  | [] => []
  | (s, f) :: entries =>
    .expr (.node entryForm.tag [("selector", .expr s.toExpr), ("filter", .expr f.toExpr)]) ::
      toValues entries

end

/-- An entry of a fallback; `selector` and `filter` read what it holds. -/
def entryOfExprWith (selector : Expr → Except DecodeError Selector)
    (filter : Expr → Except DecodeError Filter) (e : Expr) :
    Except DecodeError (Selector × Filter) := do
  if entryForm.answersTo e.tag then
    e.checkFields entryForm
    let s ← selector (← e.exprField "selector")
    match e.field? "filter" with
    | none => return (s, .acceptAll)
    | some _ => return (s, ← filter (← e.exprField "filter"))
  else .error (.unknownTag .entry e.tag)

/-- The selector that an expression stands for; `entry` reads the entries of a fallback. -/
def ofExprWith (entry : Expr → Except DecodeError (Selector × Filter)) (e : Expr) :
    Except DecodeError Selector := do
  match Kind.ofTag? e.tag with
  | none => .error (.unknownTag .selector e.tag)
  | some kind =>
    e.checkFields kind.form
    match kind with
    | .buildNumber => return ofBuildNumber (← e.textOrIntegerField "number")
    | .displayName => return ofDisplayName (← e.textField "name")
    | .permalink => return ofPermalink (← e.textField "id")
    | .status => return status (← e.choiceFieldOr "build-status" .stable Status.ofName?)
    | .triggering =>
      let dependencies ← e.booleanFieldOr "allow-upstream-dependencies" false
      let strategy ← e.choiceFieldOr "upstream-strategy" .globalSetting Strategy.ofName?
      return triggering dependencies strategy
    | .fallback => return fallback (← decodeAll entry (← e.exprsField "entries"))
    | .parameterized => return parameterized (← e.textField "parameter")

/-- Reads a selector in which expressions nest at most `n` levels deep. -/
def ofExprAt : (n : Nat) → Expr → Except DecodeError Selector
  | 0, e => .error (.tooDeep e.tag)
  | 1, e => ofExprWith (fun entry => .error (.tooDeep entry.tag)) e
  | n + 2, e => ofExprWith (entryOfExprWith (ofExprAt n) (Filter.ofExprAt n)) e

def ofExpr (e : Expr) : Except DecodeError Selector :=
  ofExprAt maxNesting e

def decode (s : String) : Except DecodeError Selector := do
  ofExpr (← Expr.ofSource s)

def encode (s : Selector) : String :=
  s.toExpr.text

end Selector

end BuildPicker
