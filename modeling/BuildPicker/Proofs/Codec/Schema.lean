import BuildPicker.Proofs.Codec.Meaning

/-!
The schema of selectors and filters, and what is wrong with a tree that does not have it.

A node has the fields of its tag's table, in the order of the table. `Conforms`
says that every node of a tree is as the tables want it, and `Expr.defects` lists
what is not, in the order in which it comes up: the tag, the keys from left to
right, then one field after the other, each with the nodes that it holds.
-/

namespace BuildPicker

open BuildPicker.Text

/-! ### Tables -/

/-- What a field holds, the kind of the nodes in it included. -/
inductive Content
  | text
  | textOrInteger
  | boolean
  | choice (isName : String → Bool)
  | node (kind : NodeKind)
  | nodes (kind : NodeKind)

/-- What a field with this content has to hold, as errors call it. -/
def Content.requirement : Content → Requirement
  | text | choice _ => .text
  | textOrInteger => .textOrInteger
  | boolean => .boolean
  | node _ => .expression
  | nodes _ => .list

structure FieldSchema where
  key : String
  content : Content
  /-- What counts if the field is left out; a field without this is required. -/
  default? : Option Value

namespace Filter.Kind

def schema : Filter.Kind → List FieldSchema
  | acceptAll => []
  | displayName => [⟨"name", .text, none⟩]
  | and | or => [⟨"filters", .nodes .filter, some (.list [])⟩]
  | not => [⟨"filter", .node .filter, none⟩]
  | parameterized => [⟨"parameter", .text, none⟩]

theorem keys_schema (kind : Filter.Kind) :
    kind.schema.map FieldSchema.key = kind.form.fields := by
  cases kind <;> rfl

end Filter.Kind

namespace Selector

def Kind.schema : Selector.Kind → List FieldSchema
  | buildNumber => [⟨"number", .textOrInteger, none⟩]
  | displayName => [⟨"name", .text, none⟩]
  | permalink => [⟨"id", .text, none⟩]
  | status =>
    [⟨"build-status", .choice fun s => (Status.ofName? s).isSome,
      some (.string Status.stable.name)⟩]
  | triggering =>
    [⟨"allow-upstream-dependencies", .boolean, some (.boolean false)⟩,
      ⟨"upstream-strategy", .choice fun s => (Strategy.ofName? s).isSome,
        some (.string Strategy.globalSetting.name)⟩]
  | fallback => [⟨"entries", .nodes .entry, some (.list [])⟩]
  | parameterized => [⟨"parameter", .text, none⟩]

theorem Kind.keys_schema (kind : Selector.Kind) :
    kind.schema.map FieldSchema.key = kind.form.fields := by
  cases kind <;> rfl

def entrySchema : List FieldSchema :=
  [⟨"selector", .node .selector, none⟩,
    ⟨"filter", .node .filter, some (.expr Filter.acceptAll.toExpr)⟩]

end Selector

/-- The fields of a node of this kind with this tag, if there is such a node. -/
def NodeKind.schema? : NodeKind → String → Option (List FieldSchema)
  | selector, tag => (Selector.Kind.ofTag? tag).map Selector.Kind.schema
  | filter, tag => (Filter.Kind.ofTag? tag).map Filter.Kind.schema
  | entry, tag => if Selector.entryForm.answersTo tag then some Selector.entrySchema else none

theorem Filter.Kind.schema?_eq {tag : String} {kind : Filter.Kind} (h : ofTag? tag = some kind) :
    NodeKind.filter.schema? tag = some kind.schema := by
  rw [NodeKind.schema?, h, Option.map_some]

theorem Selector.Kind.schema?_eq {tag : String} {kind : Selector.Kind}
    (h : ofTag? tag = some kind) : NodeKind.selector.schema? tag = some kind.schema := by
  rw [NodeKind.schema?, h, Option.map_some]

theorem Selector.schema?_entry_eq {tag : String} (h : entryForm.answersTo tag) :
    NodeKind.entry.schema? tag = some entrySchema :=
  if_pos h

/-! ### Trees that have the schema -/

/-- A value has the content, where `C` says of the nodes inside that they are of their kind. -/
inductive Content.Admits (C : NodeKind → Expr → Prop) : Content → Value → Prop
  | text (s : String) : Admits C .text (.string s)
  | string (s : String) : Admits C .textOrInteger (.string s)
  | integer (i : Int64) : Admits C .textOrInteger (.integer i)
  | boolean (b : Bool) : Admits C .boolean (.boolean b)
  | choice {isName : String → Bool} {s : String} : isName s → Admits C (.choice isName) (.string s)
  | node {kind : NodeKind} {e : Expr} : C kind e → Admits C (.node kind) (.expr e)
  | nodes {kind : NodeKind} {items : List Value} : (∀ item ∈ items, Admits C (.node kind) item) →
      Admits C (.nodes kind) (.list items)

/-- An expression is a node of the kind, and so is every node that is reached from it. -/
inductive Expr.Conforms : NodeKind → Expr → Prop
  | intro {kind : NodeKind} {e : Expr} {fields : List FieldSchema}
      (tag : kind.schema? e.tag = some fields)
      (known : ∀ key ∈ e.keys, key ∈ fields.map FieldSchema.key)
      (distinct : e.keys.Nodup)
      (required : ∀ field ∈ fields, field.default? = none → e.field? field.key ≠ none)
      (typed : ∀ field ∈ fields, ∀ v, e.field? field.key = some v →
        field.content.Admits Conforms v) :
      Conforms kind e

/-! ### Defects -/

/-- What is wrong with the keys, from left to right; `seen` are the keys before these. -/
def keyDefects (tag : String) (fields seen : List String) : List String → List DecodeError
  | [] => []
  | key :: rest =>
    (if key ∈ fields then [] else [.unknownField tag key]) ++
      (if key ∈ seen then [.repeatedField tag key] else []) ++
        keyDefects tag fields (key :: seen) rest

/-- What is wrong with an item of a list of nodes itself. -/
def Value.itemDefects (tag key : String) : Value → List DecodeError
  | .expr _ => []
  | v => [.invalidField tag key .expressions v.kindName]

/-- What is wrong with the value of a field itself: its presence, its type, and for a list the
types of its items. -/
def FieldSchema.ownDefects (field : FieldSchema) (tag : String) (v : Value) : List DecodeError :=
  match field.content, v with
  | _, .nil => if field.default?.isSome then [] else [.missingField tag field.key]
  | .text, .string _ | .textOrInteger, .string _ | .textOrInteger, .integer _
  | .boolean, .boolean _ | .node _, .expr _ => []
  | .choice isName, .string s => if isName s then [] else [.unknownValue tag field.key s]
  | .nodes _, .list items => items.flatMap fun item => item.itemDefects tag field.key
  | content, v => [.invalidField tag field.key content.requirement v.kindName]

mutual

/-- What is wrong with the nodes that a field holds. -/
def Value.innerDefects (content : Content) : Value → List DecodeError
  | .nil | .boolean _ | .integer _ | .string _ => []
  | .expr e =>
    match content with
    | .node kind => e.defects kind
    | _ => []
  | .list items =>
    match content with
    | .nodes kind => itemsDefects kind items
    | _ => []

/-- What is wrong with an expression as a node of the kind. -/
def Expr.defects (kind : NodeKind) : Expr → List DecodeError
  | .node tag args =>
    match kind.schema? tag with
    | none => [.unknownTag kind tag]
    | some fields =>
      keyDefects tag (fields.map FieldSchema.key) [] (args.map Prod.fst) ++
        fields.flatMap fun field => fieldDefects tag field args

def itemsDefects (kind : NodeKind) : List Value → List DecodeError
  | [] => []
  | item :: items => item.innerDefects (.node kind) ++ itemsDefects kind items

/-- What is wrong with a field and the nodes that it holds. -/
def fieldDefects (tag : String) (field : FieldSchema) : List (String × Value) → List DecodeError
  | [] => field.ownDefects tag .nil
  | (key, v) :: args =>
    if key = field.key then field.ownDefects tag v ++ v.innerDefects field.content
    else fieldDefects tag field args

end

theorem keyDefects_eq_nil_iff {tag : String} {fields seen keys : List String} :
    keyDefects tag fields seen keys = [] ↔
      (∀ key ∈ keys, key ∈ fields ∧ key ∉ seen) ∧ keys.Nodup := by
  rw [← @Expr.checkKeys_eq_ok_iff tag]
  induction keys generalizing seen with
  | nil => simp [keyDefects, Expr.checkKeys]
  | cons key keys ih =>
      by_cases hfield : key ∈ fields
      · by_cases hseen : key ∈ seen
        · simp [keyDefects, Expr.checkKeys, hfield, hseen]
        · simp [keyDefects, Expr.checkKeys, hfield, hseen, ih]
      · simp [keyDefects, Expr.checkKeys, hfield]

namespace Expr

theorem ne_nil_of_field? {e : Expr} {key : String} {v : Value} (h : e.field? key = some v) :
    v ≠ .nil := by
  rintro rfl
  unfold field? at h
  split at h <;> simp_all

/-- Nil and the absence of a field are the same. -/
theorem fieldDefects_args (e : Expr) (field : FieldSchema) :
    fieldDefects e.tag field e.args =
      field.ownDefects e.tag ((e.field? field.key).getD .nil) ++
        ((e.field? field.key).getD .nil).innerDefects field.content := by
  have hlookup (args : List (String × Value)) :
      fieldDefects e.tag field args =
        field.ownDefects e.tag ((args.lookup field.key).getD .nil) ++
          ((args.lookup field.key).getD .nil).innerDefects field.content := by
    induction args with
    | nil => simp [fieldDefects, Value.innerDefects]
    | cons arg args ih =>
        rw [fieldDefects, List.lookup_cons]
        by_cases hkey : arg.1 = field.key
        · rw [if_pos hkey, beq_iff_eq.2 hkey.symm]
          rfl
        · rw [if_neg hkey, beq_eq_false_iff_ne.2 (Ne.symm hkey), ih]
  rw [hlookup, field?, get?]
  split <;> simp_all

theorem defects_of_unknownTag {kind : NodeKind} {e : Expr} (h : kind.schema? e.tag = none) :
    e.defects kind = [.unknownTag kind e.tag] := by
  obtain ⟨tag, args⟩ := e
  rw [defects, show kind.schema? tag = none from h]
  rfl

theorem defects_of_schema {kind : NodeKind} {e : Expr} {fields : List FieldSchema}
    (h : kind.schema? e.tag = some fields) :
    e.defects kind = keyDefects e.tag (fields.map FieldSchema.key) [] e.keys ++
      fields.flatMap fun field => fieldDefects e.tag field e.args := by
  obtain ⟨tag, args⟩ := e
  rw [defects, show kind.schema? tag = some fields from h]
  rfl

end Expr

/-! ### No defects -/

theorem itemsDefects_eq_flatMap (kind : NodeKind) (items : List Value) :
    itemsDefects kind items = items.flatMap fun item => item.innerDefects (.node kind) := by
  induction items with
  | nil => rfl
  | cons item items ih => rw [itemsDefects, ih, List.flatMap_cons]

theorem Expr.conforms_iff_of_args {kind : NodeKind} {e : Expr}
    (hargs : ∀ arg ∈ e.args, arg.2 ≠ .nil → ∀ (tag : String) (field : FieldSchema),
      field.ownDefects tag arg.2 ++ arg.2.innerDefects field.content = [] ↔
        field.content.Admits Conforms arg.2) :
    e.Conforms kind ↔ e.defects kind = [] := by
  have hfield (field : FieldSchema) : fieldDefects e.tag field e.args = [] ↔
      (field.default? = none → e.field? field.key ≠ none) ∧
        ∀ v, e.field? field.key = some v → field.content.Admits Conforms v := by
    rw [fieldDefects_args]
    cases hv : e.field? field.key with
    | none =>
        cases hdefault : field.default? <;>
          simp [FieldSchema.ownDefects, Value.innerDefects, hdefault]
    | some v => simpa using hargs _ (mem_args_of_field? hv) (ne_nil_of_field? hv) e.tag field
  cases hschema : kind.schema? e.tag with
  | none =>
      rw [defects_of_unknownTag hschema]
      refine iff_of_false ?_ (by simp)
      rintro ⟨htag, -, -, -, -⟩
      simp [hschema] at htag
  | some fields =>
      rw [defects_of_schema hschema, List.append_eq_nil_iff, keyDefects_eq_nil_iff,
        List.flatMap_eq_nil_iff]
      simp only [hfield, List.not_mem_nil, not_false_eq_true, and_true]
      constructor
      · rintro ⟨htag, hknown, hdistinct, hrequired, htyped⟩
        obtain rfl : fields = _ := Option.some.inj (hschema.symm.trans htag)
        exact ⟨⟨hknown, hdistinct⟩, fun field hmem => ⟨hrequired field hmem, htyped field hmem⟩⟩
      · rintro ⟨⟨hknown, hdistinct⟩, hfields⟩
        exact ⟨hschema, hknown, hdistinct, fun field hmem => (hfields field hmem).1,
          fun field hmem => (hfields field hmem).2⟩

theorem Value.itemDefects_eq_nil_iff {kind : NodeKind} {item : Value} {tag key : String}
    (h : item ≠ .nil → ((FieldSchema.mk key (.node kind) none).ownDefects tag item ++
      item.innerDefects (.node kind) = [] ↔ (Content.node kind).Admits Expr.Conforms item)) :
    item.itemDefects tag key = [] ∧ item.innerDefects (.node kind) = [] ↔
      (Content.node kind).Admits Expr.Conforms item := by
  cases item with
  | expr e => simpa [itemDefects, FieldSchema.ownDefects] using h nofun
  | nil | boolean | integer | string | list => exact iff_of_false (by simp [itemDefects]) nofun

theorem Value.listDefects_eq_nil_iff {kind : NodeKind} {items : List Value} {tag key : String}
    {default? : Option Value}
    (h : ∀ item ∈ items, item.itemDefects tag key = [] ∧ item.innerDefects (.node kind) = [] ↔
      (Content.node kind).Admits Expr.Conforms item) :
    (FieldSchema.mk key (.nodes kind) default?).ownDefects tag (.list items) ++
      (Value.list items).innerDefects (.nodes kind) = [] ↔
        (Content.nodes kind).Admits Expr.Conforms (.list items) := by
  simp only [FieldSchema.ownDefects, innerDefects, itemsDefects_eq_flatMap,
    List.append_eq_nil_iff, List.flatMap_eq_nil_iff, ← forall₂_and]
  constructor
  · exact fun hdefects => .nodes fun item hmem => (h item hmem).1 (hdefects item hmem)
  · intro hadmits item hmem
    cases hadmits with
    | nodes hitems => exact (h item hmem).2 (hitems item hmem)

theorem Value.defects_eq_nil_iff {v : Value} (hv : v ≠ .nil) (tag : String)
    (field : FieldSchema) :
    field.ownDefects tag v ++ v.innerDefects field.content = [] ↔
      field.content.Admits Expr.Conforms v := by
  obtain ⟨key, content, default?⟩ := field
  -- A value of another type than the content wants is a defect of its own.
  induction v using Value.induction generalizing tag key content default? with
  | nil => exact absurd rfl hv
  | boolean b =>
      cases content with
      | boolean => exact iff_of_true rfl (.boolean b)
      | text | textOrInteger | choice | node | nodes =>
          exact iff_of_false (by simp [FieldSchema.ownDefects]) nofun
  | integer i =>
      cases content with
      | textOrInteger => exact iff_of_true rfl (.integer i)
      | text | boolean | choice | node | nodes =>
          exact iff_of_false (by simp [FieldSchema.ownDefects]) nofun
  | string s =>
      cases content with
      | text => exact iff_of_true rfl (.text s)
      | textOrInteger => exact iff_of_true rfl (.string s)
      | choice isName =>
          by_cases hs : isName s
          · exact iff_of_true (by simp [FieldSchema.ownDefects, innerDefects, hs]) (.choice hs)
          · refine iff_of_false (by simp [FieldSchema.ownDefects, hs]) ?_
            intro h
            cases h with
            | choice hname => exact hs hname
      | boolean | node | nodes => exact iff_of_false (by simp [FieldSchema.ownDefects]) nofun
  | expr innerTag args ih =>
      cases content with
      | node kind =>
          have hinner : (Expr.node innerTag args).Conforms kind ↔ _ :=
            Expr.conforms_iff_of_args fun arg harg harg' tag field =>
              ih arg harg harg' tag field.key field.content field.default?
          refine hinner.symm.trans ⟨.node, fun h => ?_⟩
          cases h with
          | node hconforms => exact hconforms
      | text | textOrInteger | boolean | choice | nodes =>
          exact iff_of_false (by simp [FieldSchema.ownDefects]) nofun
  | list items ih =>
      cases content with
      | nodes kind =>
          refine listDefects_eq_nil_iff fun item hmem => itemDefects_eq_nil_iff fun hitem => ?_
          exact ih item hmem hitem tag key (.node kind) none
      | text | textOrInteger | boolean | choice | node =>
          exact iff_of_false (by simp [FieldSchema.ownDefects]) nofun

theorem Expr.conforms_iff {kind : NodeKind} {e : Expr} :
    e.Conforms kind ↔ e.defects kind = [] :=
  conforms_iff_of_args fun _ _ hv => Value.defects_eq_nil_iff hv

end BuildPicker
