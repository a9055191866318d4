import BuildPicker.Filter
import BuildPicker.Expr.Printer
import BuildPicker.Codec.Fields

/-!
Filters as expressions.

Writing uses the tag of a form and gives every field; reading also takes the
aliases. The display name is trimmed both ways.
-/

namespace BuildPicker

open BuildPicker.Text

namespace Filter

inductive Kind
  | acceptAll
  | displayName
  | and
  | or
  | not
  | parameterized
  deriving DecidableEq

namespace Kind

def all : List Kind := [acceptAll, displayName, and, or, not, parameterized]

def form : Kind → Form
  | acceptAll => ⟨"accept-all", ["acceptAll", "no-filter", "noFilter"], []⟩
  | displayName => ⟨"display-name", ["displayName"], ["name"]⟩
  | and => ⟨"and", ["andFilter"], ["filters"]⟩
  | or => ⟨"or", ["orFilter"], ["filters"]⟩
  | not => ⟨"not", ["notFilter"], ["filter"]⟩
  | parameterized => ⟨"parameterized", ["parameterizedFilter"], ["parameter"]⟩

def ofTag? (tag : String) : Option Kind :=
  all.find? fun kind => kind.form.answersTo tag

end Kind

mutual

def toExpr : Filter → Expr
  | acceptAll => .node Kind.acceptAll.form.tag []
  | displayName template =>
    .node Kind.displayName.form.tag [("name", .string (trim template))]
  | and filters => .node Kind.and.form.tag [("filters", .list (toValues filters))]
  | or filters => .node Kind.or.form.tag [("filters", .list (toValues filters))]
  | not filter => .node Kind.not.form.tag [("filter", .expr filter.toExpr)]
  | parameterized parameter =>
    .node Kind.parameterized.form.tag [("parameter", .string parameter)]

def toValues : List Filter → List Value
  | [] => []
  | f :: fs => .expr f.toExpr :: toValues fs

end

/-- The filter that an expression stands for; `nested` reads the filters inside. -/
def ofExprWith (nested : Expr → Except DecodeError Filter) (e : Expr) :
    Except DecodeError Filter := do
  match Kind.ofTag? e.tag with
  | none => .error (.unknownTag .filter e.tag)
  | some kind =>
    e.checkFields kind.form
    match kind with
    | .acceptAll => return acceptAll
    | .displayName => return ofDisplayName (← e.textField "name")
    | .and => return and (← decodeAll nested (← e.exprsField "filters"))
    | .or => return or (← decodeAll nested (← e.exprsField "filters"))
    | .not => return not (← nested (← e.exprField "filter"))
    | .parameterized => return parameterized (← e.textField "parameter")

/-- Reads a filter in which expressions nest at most `n` levels deep. -/
def ofExprAt : (n : Nat) → Expr → Except DecodeError Filter
  | 0, e => .error (.tooDeep e.tag)
  | n + 1, e => ofExprWith (ofExprAt n) e

def ofExpr (e : Expr) : Except DecodeError Filter :=
  ofExprAt maxNesting e

def decode (s : String) : Except DecodeError Filter := do
  ofExpr (← Expr.ofSource s)

def encode (f : Filter) : String :=
  f.toExpr.text

end Filter

end BuildPicker
