/-!
Expressions: a tag with keyed arguments, as `(tag :key value)`.

This is the untyped form in which selectors and filters are written down. Tags
and keys are arbitrary strings here; which of them can be written and read back
is the business of the printer and the reader.
-/

namespace BuildPicker

mutual

/-- What stands after a key, or as an item of a list. -/
inductive Value
  | nil
  | boolean (flag : Bool)
  | integer (number : Int64)
  | string (text : String)
  | expr (nested : Expr)
  | list (items : List Value)

/-- A tag with its arguments in the order in which they are written. -/
inductive Expr
  | node (tag : String) (args : List (String × Value))

end

/-- How many expressions and lists may be open at once in a written expression. -/
def maxNesting : Nat := 64

namespace Value

/-- What the value is called when it stands where another kind is required. -/
def kindName : Value → String
  | nil => "nil"
  | boolean _ => "boolean"
  | integer _ => "integer"
  | string _ => "string"
  | expr _ => "expression"
  | list _ => "list"

end Value

namespace Expr

def tag : Expr → String
  | node tag _ => tag

def args : Expr → List (String × Value)
  | node _ args => args

@[simp] theorem tag_node (t : String) (as : List (String × Value)) : (node t as).tag = t := rfl

@[simp] theorem args_node (t : String) (as : List (String × Value)) : (node t as).args = as := rfl

def keys (e : Expr) : List String :=
  e.args.map Prod.fst

/-- The value of the first argument with this key. -/
def get? (e : Expr) (key : String) : Option Value :=
  e.args.lookup key

end Expr

/-! ### Equality -/

mutual

def Value.decEq : (a b : Value) → Decidable (a = b)
  | .nil, .nil => isTrue rfl
  | .boolean a, .boolean b => decidable_of_iff (a = b) (by simp)
  | .integer a, .integer b => decidable_of_iff (a = b) (by simp)
  | .string a, .string b => decidable_of_iff (a = b) (by simp)
  | .expr a, .expr b => @decidable_of_iff _ (a = b) (by simp) (Expr.decEq a b)
  | .list a, .list b => @decidable_of_iff _ (a = b) (by simp) (decEqItems a b)
  | .nil, .boolean _ | .nil, .integer _ | .nil, .string _ | .nil, .expr _ | .nil, .list _
  | .boolean _, .nil | .boolean _, .integer _ | .boolean _, .string _ | .boolean _, .expr _
  | .boolean _, .list _
  | .integer _, .nil | .integer _, .boolean _ | .integer _, .string _ | .integer _, .expr _
  | .integer _, .list _
  | .string _, .nil | .string _, .boolean _ | .string _, .integer _ | .string _, .expr _
  | .string _, .list _
  | .expr _, .nil | .expr _, .boolean _ | .expr _, .integer _ | .expr _, .string _
  | .expr _, .list _
  | .list _, .nil | .list _, .boolean _ | .list _, .integer _ | .list _, .string _
  | .list _, .expr _ => isFalse (by simp)

def Expr.decEq : (a b : Expr) → Decidable (a = b)
  | .node s as, .node t bs =>
    @decidable_of_iff _ (s = t ∧ as = bs) (by simp)
      (@instDecidableAnd _ _ _ (decEqArgs as bs))

def decEqItems : (as bs : List Value) → Decidable (as = bs)
  | [], [] => isTrue rfl
  | [], _ :: _ | _ :: _, [] => isFalse (by simp)
  | a :: as, b :: bs =>
    @decidable_of_iff _ (a = b ∧ as = bs) (by simp)
      (@instDecidableAnd _ _ (Value.decEq a b) (decEqItems as bs))

def decEqArgs : (as bs : List (String × Value)) → Decidable (as = bs)
  | [], [] => isTrue rfl
  | [], _ :: _ | _ :: _, [] => isFalse (by simp)
  | (k, a) :: as, (l, b) :: bs =>
    @decidable_of_iff _ ((k = l ∧ a = b) ∧ as = bs) (by simp)
      (@instDecidableAnd _ _ (@instDecidableAnd _ _ _ (Value.decEq a b)) (decEqArgs as bs))

end

instance : DecidableEq Value := Value.decEq

instance : DecidableEq Expr := Expr.decEq

end BuildPicker
