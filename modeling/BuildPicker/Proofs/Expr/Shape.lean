import BuildPicker.Expr.Reader

/-!
The shape of an expression: how deeply it nests, and which names occur in it.

`Expr.nesting` counts levels the way the reader does. The outermost expression is
the first level, and each expression or list inside opens one more. Tags and keys
are arbitrary strings in a tree; `Expr.IsWellNamed` says that all of them can be
written down.
-/

namespace BuildPicker

open BuildPicker.Expr

/-- Induction over values, with one case for an expression and its arguments. -/
@[elab_as_elim]
theorem Value.induction {P : Value → Prop} (nil : P .nil)
    (boolean : ∀ b, P (.boolean b)) (integer : ∀ i, P (.integer i))
    (string : ∀ s, P (.string s))
    (expr : ∀ tag args, (∀ arg ∈ args, P arg.2) → P (.expr (.node tag args)))
    (list : ∀ items, (∀ v ∈ items, P v) → P (.list items)) (v : Value) : P v :=
  @Value.rec P (fun e => P (.expr e)) (fun items => ∀ v ∈ items, P v)
    (fun args => ∀ arg ∈ args, P arg.2) (fun arg => P arg.2)
    nil boolean integer string (fun _ h => h) list expr
    (by simp) (fun _ _ hv hvs => List.forall_mem_cons.2 ⟨hv, hvs⟩)
    (by simp) (fun _ _ harg hargs => List.forall_mem_cons.2 ⟨harg, hargs⟩)
    (fun _ _ h => h) v

/-! ### Nesting -/

mutual

/-- How many levels of expressions and lists a value opens. -/
def Value.nesting : Value → Nat
  | .nil | .boolean _ | .integer _ | .string _ => 0
  | .expr e => e.nesting
  | .list items => itemsNesting items + 1

/-- How many levels of expressions and lists are open at the deepest place. -/
def Expr.nesting : Expr → Nat
  | .node _ args => argsNesting args + 1

def itemsNesting : List Value → Nat
  | [] => 0
  | v :: items => max v.nesting (itemsNesting items)

def argsNesting : List (String × Value) → Nat
  | [] => 0
  | (_, v) :: args => max v.nesting (argsNesting args)

end

theorem itemsNesting_le_iff {items : List Value} {n : Nat} :
    itemsNesting items ≤ n ↔ ∀ v ∈ items, v.nesting ≤ n := by
  induction items with
  | nil => simp [itemsNesting]
  | cons v items ih => rw [itemsNesting, Nat.max_le, List.forall_mem_cons, ih]

theorem argsNesting_le_iff {args : List (String × Value)} {n : Nat} :
    argsNesting args ≤ n ↔ ∀ arg ∈ args, arg.2.nesting ≤ n := by
  induction args with
  | nil => simp [argsNesting]
  | cons arg args ih => rw [argsNesting, Nat.max_le, List.forall_mem_cons, ih]

/-! ### Names -/

mutual

/-- The tags and keys of a value, in the order in which they are written. -/
def Value.names : Value → List String
  | .nil | .boolean _ | .integer _ | .string _ => []
  | .expr e => e.names
  | .list items => itemNames items

/-- The tags and keys of an expression, in the order in which they are written. -/
def Expr.names : Expr → List String
  | .node tag args => tag :: argNames args

def itemNames : List Value → List String
  | [] => []
  | v :: items => v.names ++ itemNames items

def argNames : List (String × Value) → List String
  | [] => []
  | (key, v) :: args => key :: (v.names ++ argNames args)

end

def Value.IsWellNamed (v : Value) : Prop := ∀ name ∈ v.names, isName name.toList

/-- Every tag and every key is a name. -/
def Expr.IsWellNamed (e : Expr) : Prop := ∀ name ∈ e.names, isName name.toList

instance (e : Expr) : Decidable e.IsWellNamed :=
  inferInstanceAs (Decidable (∀ name ∈ e.names, isName name.toList))

theorem Value.isWellNamed_boolean (b : Bool) : (Value.boolean b).IsWellNamed := by
  simp [IsWellNamed, names]

theorem Value.isWellNamed_string (s : String) : (Value.string s).IsWellNamed := by
  simp [IsWellNamed, names]

theorem Value.isWellNamed_list_iff {items : List Value} :
    (Value.list items).IsWellNamed ↔ ∀ v ∈ items, v.IsWellNamed := by
  induction items with
  | nil => simp [IsWellNamed, names, itemNames]
  | cons v items ih =>
      simp only [IsWellNamed, names, itemNames] at ih ⊢
      rw [List.forall_mem_append, List.forall_mem_cons, ih]

theorem Expr.isWellNamed_node_iff {tag : String} {args : List (String × Value)} :
    (Expr.node tag args).IsWellNamed ↔
      isName tag.toList ∧ ∀ arg ∈ args, isName arg.1.toList ∧ arg.2.IsWellNamed := by
  have hargs : (∀ name ∈ argNames args, isName name.toList) ↔
      ∀ arg ∈ args, isName arg.1.toList ∧ arg.2.IsWellNamed := by
    induction args with
    | nil => simp [argNames]
    | cons arg args ih =>
        simp only [argNames, List.forall_mem_cons, List.forall_mem_append, ih,
          Value.IsWellNamed, and_assoc]
  simp only [IsWellNamed, names, List.forall_mem_cons, hargs]

end BuildPicker
