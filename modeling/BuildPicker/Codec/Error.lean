import BuildPicker.Expr.Fault

/-!
Why a text does not describe a selector or a filter.
-/

namespace BuildPicker

open BuildPicker.Text

/-- What an expression is read as. -/
inductive NodeKind
  | selector
  | filter
  | entry
  deriving DecidableEq

def NodeKind.label : NodeKind → String
  | selector => "selector"
  | filter => "filter"
  | entry => "fallback entry"

/-- What a field has to hold. -/
inductive Requirement
  | text
  | textOrInteger
  | boolean
  | expression
  | list
  | expressions
  deriving DecidableEq

def Requirement.label : Requirement → String
  | text => "a string"
  | textOrInteger => "a string or integer"
  | boolean => "a boolean"
  | expression => "an expression"
  | list => "a list"
  | expressions => "a list of expressions"

inductive DecodeError
  | blank
  | malformed (source : String) (fault : Fault)
  | tooDeep (tag : String)
  | unknownTag (node : NodeKind) (tag : String)
  | unknownField (tag field : String)
  | repeatedField (tag field : String)
  | missingField (tag field : String)
  | invalidField (tag field : String) (required : Requirement) (found : String)
  | unknownValue (tag field value : String)
  deriving DecidableEq

namespace DecodeError

/-- A fixed name for the sort of error. -/
def code : DecodeError → String
  | blank => "BLANK"
  | malformed _ _ => "SYNTAX"
  | tooDeep _ => "SYNTAX"
  | unknownTag _ _ => "UNKNOWN_TAG"
  | unknownField _ _ => "UNKNOWN_FIELD"
  | repeatedField _ _ => "DUPLICATE_FIELD"
  | missingField _ _ => "MISSING_FIELD"
  | invalidField _ _ _ _ => "INVALID_FIELD"
  | unknownValue _ _ _ => "INVALID_ENUM_VALUE"

def message : DecodeError → String
  | blank => "expression is empty"
  | malformed source fault => "syntax error: " ++ fault.message source
  | tooDeep tag =>
    "syntax error: (" ++ tag ++ ") is nested deeper than " ++ numeralText maxNesting ++ " levels"
  | unknownTag node tag => "unknown " ++ node.label ++ " tag '" ++ tag ++ "'"
  | unknownField tag field => "(" ++ tag ++ ") has no field ':" ++ field ++ "'"
  | repeatedField tag field => "(" ++ tag ++ ") repeats field ':" ++ field ++ "'"
  | missingField tag field => "(" ++ tag ++ ") requires field ':" ++ field ++ "'"
  | invalidField tag field required found =>
    "(" ++ tag ++ ") field ':" ++ field ++ "' must be " ++ required.label ++ ", found " ++ found
  | unknownValue tag field value =>
    "(" ++ tag ++ ") field ':" ++ field ++ "' has unknown value '" ++ value ++ "'"

end DecodeError

end BuildPicker
