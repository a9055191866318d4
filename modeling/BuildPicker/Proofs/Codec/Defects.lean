import BuildPicker.Proofs.Codec.Schema

/-!
The decoders report the first defect of a tree.

A decoder stops at the first thing that is wrong, while `Expr.defects` goes on.
`Reports` relates the two, and binding results appends lists of defects; so each
accessor of a field is compared with its line of the table once, and a decoder is
put together from these comparisons.
-/

namespace BuildPicker

open BuildPicker.Text

/-- A result is an error just if there are defects, and is then the first of them. -/
def Reports {α : Type} (x : Except DecodeError α) (defects : List DecodeError) : Prop :=
  match x with
  | .ok _ => defects = []
  | .error d => defects.head? = some d

namespace Reports

variable {α β : Type} {x : Except DecodeError α} {ds ds' : List DecodeError}

theorem ok (a : α) : Reports (.ok a) [] := rfl

theorem error (d : DecodeError) (ds : List DecodeError) :
    Reports (.error d : Except DecodeError α) (d :: ds) := rfl

theorem bind {f : α → Except DecodeError β} (hx : Reports x ds)
    (hf : ∀ a, x = .ok a → Reports (f a) ds') : Reports (x >>= f) (ds ++ ds') := by
  cases x with
  | ok a =>
      obtain rfl : ds = [] := hx
      exact hf a rfl
  | error d =>
      obtain ⟨ds, rfl⟩ := List.head?_eq_some_iff.1 hx
      exact error d _

/-- What is made of a result in the end has no defects of its own. -/
theorem map (hx : Reports x ds) (f : α → β) : Reports (x >>= fun a => .ok (f a)) ds := by
  simpa using hx.bind fun a _ => ok (f a)

theorem bind_map {g : α → Except DecodeError β} {γ : Type} (h : Reports (x >>= g) ds)
    (f : β → γ) : Reports (x >>= fun a => g a >>= fun b => .ok (f b)) ds := by
  rw [← bind_assoc]
  exact h.map f

theorem eq_error_iff (h : Reports x ds) {d : DecodeError} :
    x = .error d ↔ ds.head? = some d := by
  cases x with
  | ok a =>
      obtain rfl : ds = [] := h
      simp
  | error d' =>
      have hhead : ds.head? = some d' := h
      simp [hhead]

theorem exists_eq_ok_iff (h : Reports x ds) : (∃ a, x = .ok a) ↔ ds = [] := by
  cases x with
  | ok a =>
      obtain rfl : ds = [] := h
      simp
  | error d =>
      obtain ⟨ds, rfl⟩ := List.head?_eq_some_iff.1 h
      simp

end Reports

/-! ### Lists -/

theorem reports_decodeAll {α : Type} {kind : NodeKind} {decode : Expr → Except DecodeError α}
    {es : List Expr} (h : ∀ e ∈ es, Reports (decode e) (e.defects kind)) :
    Reports (decodeAll decode es) (es.flatMap fun e => e.defects kind) := by
  induction es with
  | nil => exact .ok []
  | cons e es ih =>
      obtain ⟨he, hes⟩ := List.forall_mem_cons.1 h
      exact he.bind fun a _ => (ih hes).map (a :: ·)

namespace Expr

/-! ### Accessors -/

theorem reports_checkFields {e : Expr} {form : Form} {fields : List FieldSchema}
    (hkeys : fields.map FieldSchema.key = form.fields) :
    Reports (e.checkFields form) (keyDefects e.tag (fields.map FieldSchema.key) [] e.keys) := by
  have hchecked (seen keys : List String) : Reports (checkKeys e.tag form.fields seen keys)
      (keyDefects e.tag form.fields seen keys) := by
    induction keys generalizing seen with
    | nil => exact .ok ()
    | cons key keys ih =>
        by_cases hfield : key ∈ form.fields
        · by_cases hseen : key ∈ seen
          · simpa [checkKeys, keyDefects, hfield, hseen] using Reports.error _ _
          · simpa [checkKeys, keyDefects, hfield, hseen] using ih (key :: seen)
        · simpa [checkKeys, keyDefects, hfield] using Reports.error _ _
  rw [hkeys]
  exact hchecked [] e.keys

variable (e : Expr) (key : String)

theorem reports_textField :
    Reports (e.textField key) (fieldDefects e.tag ⟨key, .text, none⟩ e.args) := by
  rw [fieldDefects_args, textField, field]
  cases hv : e.field? key with
  | none => rfl
  | some v =>
      cases v with
      | nil => exact absurd rfl (ne_nil_of_field? hv)
      | boolean | integer | string | expr | list => rfl

theorem reports_textOrIntegerField :
    Reports (e.textOrIntegerField key) (fieldDefects e.tag ⟨key, .textOrInteger, none⟩ e.args) := by
  rw [fieldDefects_args, textOrIntegerField, field]
  cases hv : e.field? key with
  | none => rfl
  | some v =>
      cases v with
      | nil => exact absurd rfl (ne_nil_of_field? hv)
      | boolean | integer | string | expr | list => rfl

theorem reports_booleanFieldOr (absent : Bool) (default : Value) :
    Reports (e.booleanFieldOr key absent)
      (fieldDefects e.tag ⟨key, .boolean, some default⟩ e.args) := by
  rw [fieldDefects_args, booleanFieldOr]
  cases hv : e.field? key with
  | none => rfl
  | some v =>
      cases v with
      | nil => exact absurd rfl (ne_nil_of_field? hv)
      | boolean | integer | string | expr | list => rfl

theorem reports_choiceFieldOr {α : Type} (absent : α) (ofName? : String → Option α)
    (default : Value) :
    Reports (e.choiceFieldOr key absent ofName?)
      (fieldDefects e.tag ⟨key, .choice fun s => (ofName? s).isSome, some default⟩ e.args) := by
  rw [fieldDefects_args, choiceFieldOr]
  cases hv : e.field? key with
  | none => rfl
  | some v =>
      cases v with
      | nil => exact absurd rfl (ne_nil_of_field? hv)
      | string s => 
          cases hs : ofName? s <;> simp [FieldSchema.ownDefects, Value.innerDefects, hs, Reports]
      | boolean | integer | expr | list => rfl

/-- A field that may be left out is looked up this way only if it is there. -/
theorem reports_exprField_bind {α : Type} {kind : NodeKind} {decode : Expr → Except DecodeError α}
    {default? : Option Value} (hdefault : e.field? key = none → default? = none)
    (h : ∀ inner, e.field? key = some (.expr inner) → Reports (decode inner) (inner.defects kind)) :
    Reports (e.exprField key >>= decode)
      (fieldDefects e.tag ⟨key, .node kind, default?⟩ e.args) := by
  rw [fieldDefects_args, exprField, field]
  cases hv : e.field? key with
  | none =>
      obtain rfl := hdefault hv
      rfl
  | some v =>
      cases v with
      | nil => exact absurd rfl (ne_nil_of_field? hv)
      | expr inner => exact h inner hv
      | boolean | integer | string | list => rfl

theorem reports_allExprs (items : List Value) :
    Reports (e.allExprs key items) (items.flatMap fun item => item.itemDefects e.tag key) := by
  induction items with
  | nil => exact .ok []
  | cons item items ih =>
      cases item with
      | expr inner => exact ih.map (inner :: ·)
      | nil | boolean | integer | string | list => rfl

theorem reports_exprsField_bind {α : Type} {kind : NodeKind}
    {decode : Expr → Except DecodeError α} (default : Value)
    (h : ∀ items, e.field? key = some (.list items) → ∀ inner, .expr inner ∈ items →
      Reports (decode inner) (inner.defects kind)) :
    Reports (e.exprsField key >>= decodeAll decode)
      (fieldDefects e.tag ⟨key, .nodes kind, some default⟩ e.args) := by
  rw [fieldDefects_args, exprsField]
  cases hv : e.field? key with
  | none => rfl
  | some v =>
      cases v with
      | nil => exact absurd rfl (ne_nil_of_field? hv)
      | list items =>
          refine (reports_allExprs e key items).bind fun es hes => ?_
          obtain rfl := allExprs_eq_ok_iff.1 hes
          rw [Option.getD_some, Value.innerDefects, itemsDefects_eq_flatMap, List.flatMap_map]
          exact reports_decodeAll fun inner hinner => h _ hv inner (List.mem_map_of_mem hinner)
      | boolean | integer | string | expr => rfl

end Expr

/-! ### Decoders -/

theorem Filter.reports_ofExprAt {n : Nat} {e : Expr} (h : e.depth ≤ n) :
    Reports (ofExprAt n e) (e.defects .filter) := by
  induction n generalizing e with
  | zero => exact absurd h (Nat.not_le_of_lt e.depth_pos)
  | succ n ih =>
      rw [ofExprAt, ofExprWith]
      cases hkind : Kind.ofTag? e.tag with
      | none =>
          rw [Expr.defects_of_unknownTag (by simp [NodeKind.schema?, hkind])]
          exact .error _ _
      | some kind =>
          have hinner {inner : Expr} (hdepth : inner.depth < e.depth) :
              Reports (ofExprAt n inner) (inner.defects .filter) :=
            ih (Nat.le_of_lt_succ (Nat.lt_of_lt_of_le hdepth h))
          have hlist := e.reports_exprsField_bind "filters" (.list [])
            fun items hitems inner hmem => hinner (Expr.depth_lt_of_mem_list hitems hmem)
          rw [Expr.defects_of_schema (Kind.schema?_eq hkind)]
          refine (Expr.reports_checkFields kind.keys_schema).bind fun _ _ => ?_
          cases kind with
          | acceptAll => exact .ok acceptAll
          | displayName =>
              rw [Kind.schema, List.flatMap_singleton]
              exact (e.reports_textField "name").map ofDisplayName
          | and =>
              rw [Kind.schema, List.flatMap_singleton]
              exact hlist.bind_map Filter.and
          | or =>
              rw [Kind.schema, List.flatMap_singleton]
              exact hlist.bind_map Filter.or
          | not =>
              rw [Kind.schema, List.flatMap_singleton]
              exact (e.reports_exprField_bind "filter" (fun _ => rfl) fun inner hfield =>
                hinner (Expr.depth_lt_of_field? hfield)).bind_map Filter.not
          | parameterized =>
              rw [Kind.schema, List.flatMap_singleton]
              exact (e.reports_textField "parameter").map Filter.parameterized

namespace Selector

theorem reports_entryOfExprWith {selector : Expr → Except DecodeError Selector}
    {filter : Expr → Except DecodeError Filter} {e : Expr}
    (hselector : ∀ inner, inner.depth < e.depth →
      Reports (selector inner) (inner.defects .selector))
    (hfilter : ∀ inner, inner.depth < e.depth → Reports (filter inner) (inner.defects .filter)) :
    Reports (entryOfExprWith selector filter e) (e.defects .entry) := by
  rw [entryOfExprWith]
  by_cases htag : entryForm.answersTo e.tag
  · rw [if_pos htag, Expr.defects_of_schema (schema?_entry_eq htag)]
    refine (Expr.reports_checkFields rfl).bind fun _ _ => ?_
    rw [entrySchema, List.flatMap_cons, List.flatMap_singleton, ← bind_assoc]
    refine Reports.bind (e.reports_exprField_bind "selector" (fun _ => rfl) fun inner hfield =>
      hselector inner (Expr.depth_lt_of_field? hfield)) fun s _ => ?_
    split
    · next hnone =>
        rw [Expr.fieldDefects_args, hnone]
        exact .ok _
    · next v hsome =>
        exact (e.reports_exprField_bind "filter" (by simp [hsome]) fun inner hfield =>
          hfilter inner (Expr.depth_lt_of_field? hfield)).bind_map (s, ·)
  · rw [if_neg htag, Expr.defects_of_unknownTag (by simp [NodeKind.schema?, htag])]
    exact .error _ _

theorem reports_ofExprWith {entry : Expr → Except DecodeError (Selector × Filter)} {e : Expr}
    (h : ∀ inner, inner.depth < e.depth → Reports (entry inner) (inner.defects .entry)) :
    Reports (ofExprWith entry e) (e.defects .selector) := by
  rw [ofExprWith]
  cases hkind : Kind.ofTag? e.tag with
  | none =>
      rw [Expr.defects_of_unknownTag (by simp [NodeKind.schema?, hkind])]
      exact .error _ _
  | some kind =>
      rw [Expr.defects_of_schema (Kind.schema?_eq hkind)]
      refine (Expr.reports_checkFields kind.keys_schema).bind fun _ _ => ?_
      cases kind with
      | buildNumber =>
          rw [Kind.schema, List.flatMap_singleton]
          exact (e.reports_textOrIntegerField "number").map ofBuildNumber
      | displayName =>
          rw [Kind.schema, List.flatMap_singleton]
          exact (e.reports_textField "name").map ofDisplayName
      | permalink =>
          rw [Kind.schema, List.flatMap_singleton]
          exact (e.reports_textField "id").map ofPermalink
      | status =>
          rw [Kind.schema, List.flatMap_singleton]
          exact (e.reports_choiceFieldOr "build-status" _ _ _).map Selector.status
      | triggering =>
          rw [Kind.schema, List.flatMap_cons, List.flatMap_singleton]
          refine (e.reports_booleanFieldOr "allow-upstream-dependencies" _ _).bind
            fun dependencies _ => ?_
          exact (e.reports_choiceFieldOr "upstream-strategy" _ _ _).map (triggering dependencies)
      | fallback =>
          rw [Kind.schema, List.flatMap_singleton]
          exact (e.reports_exprsField_bind "entries" _ fun items hitems inner hmem =>
            h inner (Expr.depth_lt_of_mem_list hitems hmem)).bind_map fallback
      | parameterized =>
          rw [Kind.schema, List.flatMap_singleton]
          exact (e.reports_textField "parameter").map Selector.parameterized

theorem reports_ofExprAt {n : Nat} {e : Expr} (h : e.depth ≤ n) :
    Reports (ofExprAt n e) (e.defects .selector) := by
  induction n using Nat.twoStepInduction generalizing e with
  | zero => exact absurd h (Nat.not_le_of_lt e.depth_pos)
  | one =>
      refine reports_ofExprWith fun inner hdepth => ?_
      -- The last level has no room for an entry.
      have := inner.depth_pos
      omega
  | more n ih _ =>
      refine reports_ofExprWith fun entry hentry => ?_
      refine reports_entryOfExprWith (fun inner hinner => ih ?_) fun inner hinner =>
        Filter.reports_ofExprAt ?_
      all_goals omega

end Selector

/-! ### The schema decides -/

/-- A decoder goes by the schema on an expression: it accepts just what conforms, as what the
expression stands for, and refuses everything else with its first defect. -/
structure GoesBySchema {α : Type} (decode : Expr → Except DecodeError α)
    (StandsFor : Expr → α → Prop) (kind : NodeKind) (e : Expr) : Prop where
  accepts_iff : (∃ a, decode e = .ok a) ↔ e.Conforms kind
  eq_ok_iff : ∀ a, decode e = .ok a ↔ StandsFor e a
  eq_error_iff : ∀ d, decode e = .error d ↔ (e.defects kind).head? = some d

/-- Selectors and filters are decoded by the schema wherever expressions do not nest too deeply.
Lists are not counted, so this covers all trees that the reader accepts. -/
theorem ofExpr_goesBySchema {e : Expr} (h : e.depth ≤ maxNesting) :
    GoesBySchema Selector.ofExpr Selector.StandsFor .selector e ∧
      GoesBySchema Filter.ofExpr Filter.StandsFor .filter e := by
  have hselector : Reports (Selector.ofExpr e) (e.defects .selector) :=
    Selector.reports_ofExprAt h
  have hfilter : Reports (Filter.ofExpr e) (e.defects .filter) := Filter.reports_ofExprAt h
  constructor
  · exact
      { accepts_iff := hselector.exists_eq_ok_iff.trans Expr.conforms_iff.symm
        eq_ok_iff := fun _ => Selector.ofExpr_eq_ok_iff_standsFor h
        eq_error_iff := fun _ => hselector.eq_error_iff }
  · exact
      { accepts_iff := hfilter.exists_eq_ok_iff.trans Expr.conforms_iff.symm
        eq_ok_iff := fun _ => Filter.ofExpr_eq_ok_iff_standsFor h
        eq_error_iff := fun _ => hfilter.eq_error_iff }

/-- The selector of an entry comes before its filter, whichever is written first, and the types
of all items of a list before the first item. -/
theorem ofExpr_goesBySchema_first :
    let entry := Expr.node "entry" [("filter", .expr (.node "any" [])),
      ("selector", .expr (.node "status" [("build-status", .integer 1)]))]
    let fallback := Expr.node "fallback" [("entries", .list [.expr entry])]
    let conjunction := Expr.node "and" [("filters", .list [.expr (.node "not" []), .nil])]
    (fallback.depth ≤ maxNesting ∧ Selector.ofExpr fallback =
        .error (.invalidField "status" "build-status" .text "integer")) ∧
      conjunction.depth ≤ maxNesting ∧ Filter.ofExpr conjunction =
        .error (.invalidField "and" "filters" .expressions "nil") := by
  intro entry fallback conjunction
  have hfallback : fallback.depth ≤ maxNesting := by decide
  have hconjunction : conjunction.depth ≤ maxNesting := by decide
  exact ⟨⟨hfallback, ((ofExpr_goesBySchema hfallback).1.eq_error_iff _).2 (by decide)⟩,
    hconjunction, ((ofExpr_goesBySchema hconjunction).2.eq_error_iff _).2 (by decide)⟩

end BuildPicker
