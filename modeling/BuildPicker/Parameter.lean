import BuildPicker.Codec.Selector
import BuildPicker.Template

/-!
Parameters of a job whose values are selectors or filters.

A value travels as an expression text and is bound to a variable, from which
parameterized selectors and filters read it. A value for a selector has to be
readable when it is made. A value for a filter need not be: one that cannot be
read makes the filter reject all builds.
-/

namespace BuildPicker

/-- A value under the name of its parameter. -/
structure ParameterValue where
  name : String
  value : String
  deriving DecidableEq

def ParameterValue.bind (p : ParameterValue) (vars : Variables) : Variables :=
  vars.insert p.name p.value

structure SelectorParameter where
  name : String
  description : Option String
  default : Selector

namespace SelectorParameter

def defaultValue (p : SelectorParameter) : ParameterValue :=
  ⟨p.name, p.default.encode⟩

def createValue (p : SelectorParameter) (raw : String) : Except DecodeError ParameterValue :=
  match Selector.decode raw with
  | .ok _ => .ok ⟨p.name, raw⟩
  | .error e => .error e

end SelectorParameter

structure FilterParameter where
  name : String
  description : Option String
  default : Filter

namespace FilterParameter

def defaultValue (p : FilterParameter) : ParameterValue :=
  ⟨p.name, p.default.encode⟩

def createValue (p : FilterParameter) (raw : String) : ParameterValue :=
  ⟨p.name, raw⟩

end FilterParameter

end BuildPicker
