import BuildPicker.Codec.Fields
import BuildPicker.Proofs.Expr.Shape
import Mathlib.Data.List.Forall2

/-!
When the fields of an expression are accepted, and what they are read as.

For each accessor one equivalence says when it succeeds, in terms of the value
that `field?` finds. The decoders of filters and selectors are put together from
accessors by binds, so these equivalences and `Except.bind_eq_ok_iff` open them.
-/

namespace BuildPicker

open BuildPicker.Text

@[simp] theorem Except.ok_bind {ε α β : Type} (a : α) (f : α → Except ε β) :
    (Except.ok a >>= f) = f a := rfl

theorem Except.bind_eq_ok_iff {ε α β : Type} {x : Except ε α} {f : α → Except ε β} {b : β} :
    (x >>= f) = .ok b ↔ ∃ a, x = .ok a ∧ f a = .ok b := by
  cases x with
  | error => simp [bind, Except.bind]
  | ok a => simp [bind, Except.bind]

/-! ### Forms -/

/-- All tags under which a node of the form is read. -/
def Form.tags (form : Form) : List String :=
  form.tag :: form.aliases

theorem Form.answersTo_iff {form : Form} {tag : String} :
    form.answersTo tag ↔ tag ∈ form.tags := by
  simp [answersTo, tags, @eq_comm _ tag]

@[simp] theorem Form.answersTo_tag (form : Form) : form.answersTo form.tag := by
  simp [answersTo]

/-- In a table of forms without a common tag, looking up a tag finds the form that answers to it. -/
theorem Form.find?_eq_some_iff {Kind : Type} {all : List Kind} {form : Kind → Form}
    {kind : Kind} {tag : String} (hall : ∀ kind, kind ∈ all)
    (hdisjoint : ∀ a ∈ all, ∀ b ∈ all, ∀ t ∈ (form a).tags, t ∈ (form b).tags → a = b) :
    (all.find? fun kind => (form kind).answersTo tag) = some kind ↔
      (form kind).answersTo tag := by
  have hsound {other : Kind} (hfind : (all.find? fun kind => (form kind).answersTo tag) =
      some other) : (form other).answersTo tag := by
    simpa using List.find?_some hfind
  refine ⟨hsound, fun hkind => ?_⟩
  cases hfind : all.find? fun kind => (form kind).answersTo tag with
  | none => exact absurd hkind (List.find?_eq_none.1 hfind kind (hall kind))
  | some other =>
      rw [hdisjoint other (hall other) kind (hall kind) tag (answersTo_iff.1 (hsound hfind))
        (answersTo_iff.1 hkind)]

/-- The tag and the fields of the form are names. -/
def Form.IsWellNamed (form : Form) : Prop :=
  ∀ name ∈ form.tag :: form.fields, Expr.isName name.toList

instance (form : Form) : Decidable form.IsWellNamed :=
  inferInstanceAs (Decidable (∀ name ∈ form.tag :: form.fields, Expr.isName name.toList))

namespace Expr

/-! ### Keys -/

theorem checkKeys_eq_ok_iff {tag : String} {fields seen keys : List String} :
    checkKeys tag fields seen keys = .ok () ↔
      (∀ key ∈ keys, key ∈ fields ∧ key ∉ seen) ∧ keys.Nodup := by
  induction keys generalizing seen with
  | nil => simp [checkKeys]
  | cons key keys ih =>
      rw [checkKeys, List.forall_mem_cons, List.nodup_cons]
      by_cases hfield : key ∈ fields
      · by_cases hseen : key ∈ seen
        · simp [hfield, hseen]
        · rw [if_neg (by simp [hfield]), if_neg (by simp [hseen]), ih]
          simp only [List.mem_cons, not_or]
          grind
      · simp [hfield]

/-- An expression has the form of a node: its tag, and some of its fields, none of them twice. -/
structure Fits (e : Expr) (form : Form) : Prop where
  tag : form.answersTo e.tag
  known : ∀ key ∈ e.keys, key ∈ form.fields
  distinct : e.keys.Nodup

theorem fits_iff {e : Expr} {form : Form} :
    e.Fits form ↔ form.answersTo e.tag ∧ e.checkFields form = .ok () := by
  rw [checkFields, checkKeys_eq_ok_iff]
  constructor
  · intro h
    exact ⟨h.tag, fun key hkey => ⟨h.known key hkey, List.not_mem_nil⟩, h.distinct⟩
  · rintro ⟨htag, hknown, hdistinct⟩
    exact ⟨htag, fun key hkey => (hknown key hkey).1, hdistinct⟩

theorem Fits.checkFields_eq {e : Expr} {form : Form} (h : e.Fits form) :
    e.checkFields form = .ok () :=
  (fits_iff.1 h).2

/-- A node with exactly the fields of its form. -/
theorem fits_node {form : Form} {args : List (String × Value)}
    (hkeys : args.map Prod.fst = form.fields) (hdistinct : form.fields.Nodup) :
    (node form.tag args).Fits form where
  tag := form.answersTo_tag
  known := by simp [keys, hkeys]
  distinct := by simpa [keys, hkeys] using hdistinct

theorem isWellNamed_node_of_form {form : Form} {args : List (String × Value)}
    (hform : form.IsWellNamed) (hkeys : args.map Prod.fst = form.fields)
    (hvalues : ∀ arg ∈ args, arg.2.IsWellNamed) : (node form.tag args).IsWellNamed := by
  obtain ⟨htag, hfields⟩ := List.forall_mem_cons.1 hform
  refine isWellNamed_node_iff.2 ⟨htag, fun arg harg => ⟨hfields _ ?_, hvalues arg harg⟩⟩
  rw [← hkeys]
  exact List.mem_map_of_mem harg

theorem lookup_eq_some_iff_of_nodup {args : List (String × Value)} {key : String} {v : Value}
    (hkeys : (args.map Prod.fst).Nodup) : args.lookup key = some v ↔ (key, v) ∈ args := by
  induction args with
  | nil => simp
  | cons arg args ih =>
      rw [List.map_cons, List.nodup_cons, List.mem_map] at hkeys
      rw [List.lookup_cons, List.mem_cons]
      by_cases hkey : key = arg.1
      · subst hkey
        have habsent : (arg.1, v) ∉ args := fun hmem => hkeys.1 ⟨_, hmem, rfl⟩
        simp [habsent, Prod.ext_iff, eq_comm]
      · rw [beq_eq_false_iff_ne.2 hkey, ← ih hkeys.2]
        simp [Prod.ext_iff, hkey]

/-! ### Values of fields -/

/-- What holds of nil holds of all arguments as soon as it holds of the fields that are there. -/
theorem Fits.forall_args_iff {e : Expr} {form : Form} {P : Value → Prop} (h : e.Fits form)
    (hnil : P .nil) :
    (∀ arg ∈ e.args, P arg.2) ↔
      ∀ key ∈ form.fields, ∀ v, e.field? key = some v → P v := by
  constructor
  · intro hargs key _ v hv
    have hget : e.get? key = some v := by
      unfold field? at hv
      split at hv <;> simp_all
    exact hargs _ ((lookup_eq_some_iff_of_nodup h.distinct).1 hget)
  · rintro hfields ⟨key, v⟩ harg
    have hget : e.get? key = some v := (lookup_eq_some_iff_of_nodup h.distinct).2 harg
    have hkey : key ∈ form.fields := h.known key (List.mem_map_of_mem harg)
    -- A field that holds nil counts as absent, though it is among the arguments.
    cases v with
    | nil => exact hnil
    | boolean | integer | string | expr | list =>
        exact hfields key hkey _ (by simp [field?, hget])

theorem field_eq_ok_iff {e : Expr} {key : String} {v : Value} :
    e.field key = .ok v ↔ e.field? key = some v := by
  unfold field
  split <;> simp_all

theorem textField_eq_ok_iff {e : Expr} {key s : String} :
    e.textField key = .ok s ↔ e.field? key = some (.string s) := by
  rw [textField, Except.bind_eq_ok_iff]
  simp only [field_eq_ok_iff]
  constructor
  · rintro ⟨v, hv, hs⟩
    -- Every branch but the one for a string refuses.
    split at hs <;> simp_all [refuse]
  · intro h
    exact ⟨_, h, rfl⟩

/-- A field holds the string `s`, or an integer with `s` as its numeral. -/
def HasTextOrInteger (e : Expr) (key s : String) : Prop :=
  e.field? key = some (.string s) ∨
    ∃ i, e.field? key = some (.integer i) ∧ s = numeralText i.toInt

theorem textOrIntegerField_eq_ok_iff {e : Expr} {key s : String} :
    e.textOrIntegerField key = .ok s ↔ e.HasTextOrInteger key s := by
  rw [textOrIntegerField, Except.bind_eq_ok_iff]
  simp only [field_eq_ok_iff, HasTextOrInteger]
  constructor
  · rintro ⟨v, hv, hs⟩
    split at hs <;> simp_all [refuse]
  · rintro (h | ⟨i, h, rfl⟩) <;> exact ⟨_, h, rfl⟩

/-- A field holds the boolean `b`, or is left out and `b` is what then counts. -/
def HasBoolean (e : Expr) (key : String) (absent b : Bool) : Prop :=
  e.field? key = none ∧ b = absent ∨ e.field? key = some (.boolean b)

theorem booleanFieldOr_eq_ok_iff {e : Expr} {key : String} {absent b : Bool} :
    e.booleanFieldOr key absent = .ok b ↔ e.HasBoolean key absent b := by
  unfold booleanFieldOr HasBoolean
  split
  · next hv => simp [hv, eq_comm]
  · next hv => simp [hv]
  · next v hne hv =>
      rw [hv]
      have hv' : v ≠ .boolean b := fun h => hne b h
      simp [refuse, hv']

theorem exprField_eq_ok_iff {e nested : Expr} {key : String} :
    e.exprField key = .ok nested ↔ e.field? key = some (.expr nested) := by
  rw [exprField, Except.bind_eq_ok_iff]
  simp only [field_eq_ok_iff]
  constructor
  · rintro ⟨v, hv, hs⟩
    split at hs <;> simp_all [refuse]
  · intro h
    exact ⟨_, h, rfl⟩

/-- A field holds a name of `a`, or is left out and `a` is what then counts. -/
def HasChoice {α : Type} (e : Expr) (key : String) (absent : α) (ofName? : String → Option α)
    (a : α) : Prop :=
  e.field? key = none ∧ a = absent ∨ ∃ s, e.field? key = some (.string s) ∧ ofName? s = some a

theorem choiceFieldOr_eq_ok_iff {α : Type} {e : Expr} {key : String} {absent a : α}
    {ofName? : String → Option α} :
    e.choiceFieldOr key absent ofName? = .ok a ↔ e.HasChoice key absent ofName? a := by
  unfold choiceFieldOr HasChoice
  split
  · next hv => simp [hv, eq_comm]
  · next s hv =>
      simp only [hv]
      split <;> simp_all
  · next v hne hv =>
      rw [hv]
      simp only [refuse]
      have hv' : ∀ s, v ≠ .string s := fun s h => hne s h
      simp [hv']

theorem allExprs_eq_ok_iff {e : Expr} {key : String} {items : List Value} {es : List Expr} :
    e.allExprs key items = .ok es ↔ items = es.map .expr := by
  induction items generalizing es with
  | nil => cases es <;> simp [allExprs]
  | cons v items ih =>
      cases v with
      | expr nested =>
          rw [allExprs, Except.bind_eq_ok_iff]
          cases es <;> simp_all [pure, Except.pure, and_comm]
      | nil | boolean | integer | string | list => cases es <;> simp [allExprs, refuse]

/-- A list field holds the expressions `es`, or is left out and there are none. -/
def HasList (e : Expr) (key : String) (es : List Expr) : Prop :=
  e.field? key = none ∧ es = [] ∨ e.field? key = some (.list (es.map .expr))

theorem exprsField_eq_ok_iff {e : Expr} {key : String} {es : List Expr} :
    e.exprsField key = .ok es ↔ e.HasList key es := by
  unfold exprsField HasList
  split
  · next hv => simp [hv, eq_comm]
  · next items hv => simp [hv, allExprs_eq_ok_iff]
  · next v hne hv =>
      have hv' : ∀ items, v ≠ .list items := fun items h => hne items h
      simp [hv, refuse, hv']

end Expr

/-! ### Lists of decoded parts -/

theorem decodeAll_eq_ok_iff {α : Type} {decode : Expr → Except DecodeError α}
    {es : List Expr} {as : List α} :
    decodeAll decode es = .ok as ↔ List.Forall₂ (fun e a => decode e = .ok a) es as := by
  induction es generalizing as with
  | nil => cases as <;> simp [decodeAll]
  | cons e es ih =>
      simp only [decodeAll, Except.bind_eq_ok_iff, ih]
      constructor
      · rintro ⟨a, ha, as, has, ⟨rfl⟩⟩
        exact .cons ha has
      · rintro ⟨⟩
        exact ⟨_, ‹_›, _, ‹_›, rfl⟩

section

variable {α β : Type} {R : α → β → Prop} {as : List α} {bs : List β}

theorem forall_mem_iff_of_forall₂ {P : α → Prop} {Q : β → Prop} (h : List.Forall₂ R as bs)
    (hR : ∀ a b, R a b → (P a ↔ Q b)) : (∀ a ∈ as, P a) ↔ ∀ b ∈ bs, Q b := by
  induction h with
  | nil => simp
  | cons hab _ ih => rw [List.forall_mem_cons, List.forall_mem_cons, hR _ _ hab, ih]

theorem forall_mem_of_forall₂ {Q : β → Prop} (h : List.Forall₂ R as bs)
    (hR : ∀ a b, R a b → Q b) : ∀ b ∈ bs, Q b :=
  (forall_mem_iff_of_forall₂ (P := fun _ => True) h fun a b hab =>
    iff_of_true trivial (hR a b hab)).1 fun _ _ => trivial

end

end BuildPicker
