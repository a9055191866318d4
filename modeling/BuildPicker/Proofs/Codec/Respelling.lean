import BuildPicker.Proofs.Codec.Schema
import Mathlib.Data.List.Nodup
import Mathlib.Logic.Relation

/-!
The many spellings of one selector or filter.

The arguments of a node may stand in any order, its tag may be any of its form,
and a field that is left out may be written as nil or as its default. None of this
changes what a tree stands for: a node is read through the values of its fields
alone, and `FieldSchema.Alike` says which of these values mean the same.
-/

namespace BuildPicker

open BuildPicker.Text

/-- The form of a node of this kind with this tag, if there is such a node. -/
def NodeKind.form? : NodeKind → String → Option Form
  | selector, tag => (Selector.Kind.ofTag? tag).map Selector.Kind.form
  | filter, tag => (Filter.Kind.ofTag? tag).map Filter.Kind.form
  | entry, tag => if Selector.entryForm.answersTo tag then some Selector.entryForm else none

/-- One change in how a node of the kind is written, in itself or in a node inside. -/
inductive Expr.Respelled : NodeKind → Expr → Expr → Prop
  | permute {kind : NodeKind} {tag : String} {args args' : List (String × Value)} :
      args.Perm args' → Respelled kind (.node tag args) (.node tag args')
  | retag {kind : NodeKind} {form : Form} {tag tag' : String} (args : List (String × Value)) :
      kind.form? tag = some form → form.answersTo tag' →
      Respelled kind (.node tag args) (.node tag' args)
  | dropNil {kind : NodeKind} {tag : String} (before after : List (String × Value))
      (key : String) :
      Respelled kind (.node tag (before ++ (key, .nil) :: after)) (.node tag (before ++ after))
  | addNil {kind : NodeKind} {tag : String} {fields : List FieldSchema} {field : FieldSchema}
      (before after : List (String × Value)) :
      kind.schema? tag = some fields → field ∈ fields → field.default?.isSome →
      field.key ∉ (before ++ after).map Prod.fst →
      Respelled kind (.node tag (before ++ after))
        (.node tag (before ++ (field.key, .nil) :: after))
  | addDefault {kind : NodeKind} {tag : String} {fields : List FieldSchema} {field : FieldSchema}
      {v : Value} (before after : List (String × Value)) :
      kind.schema? tag = some fields → field ∈ fields → field.default? = some v →
      field.key ∉ (before ++ after).map Prod.fst →
      Respelled kind (.node tag (before ++ after)) (.node tag (before ++ (field.key, v) :: after))
  /-- An integer where text is allowed as well, which only the number of a build is. -/
  | number {kind : NodeKind} {tag : String} {fields : List FieldSchema} {field : FieldSchema}
      (before after : List (String × Value)) (i : Int64) :
      kind.schema? tag = some fields → field ∈ fields → field.content = .textOrInteger →
      Respelled kind (.node tag (before ++ (field.key, .integer i) :: after))
        (.node tag (before ++ (field.key, .string (numeralText i.toInt)) :: after))
  | node {kind inside : NodeKind} {tag : String} {fields : List FieldSchema} {field : FieldSchema}
      {e e' : Expr} (before after : List (String × Value)) :
      kind.schema? tag = some fields → field ∈ fields → field.content = .node inside →
      Respelled inside e e' →
      Respelled kind (.node tag (before ++ (field.key, .expr e) :: after))
        (.node tag (before ++ (field.key, .expr e') :: after))
  | item {kind inside : NodeKind} {tag : String} {fields : List FieldSchema} {field : FieldSchema}
      {e e' : Expr} (before after : List (String × Value)) (items items' : List Value) :
      kind.schema? tag = some fields → field ∈ fields → field.content = .nodes inside →
      Respelled inside e e' →
      Respelled kind
        (.node tag (before ++ (field.key, .list (items ++ .expr e :: items')) :: after))
        (.node tag (before ++ (field.key, .list (items ++ .expr e' :: items')) :: after))

/-! ### Tables -/

namespace NodeKind

theorem keys_eq_of_form? {kind : NodeKind} {tag : String} {form : Form}
    {fields : List FieldSchema} (hform : kind.form? tag = some form)
    (hschema : kind.schema? tag = some fields) : fields.map FieldSchema.key = form.fields := by
  cases kind with
  | selector =>
      obtain ⟨k, hk, rfl⟩ := Option.map_eq_some_iff.1 hform
      rw [schema?, hk] at hschema
      obtain rfl := Option.some.inj hschema
      exact k.keys_schema
  | filter =>
      obtain ⟨k, hk, rfl⟩ := Option.map_eq_some_iff.1 hform
      rw [schema?, hk] at hschema
      obtain rfl := Option.some.inj hschema
      exact k.keys_schema
  | entry =>
      rw [form?, Option.ite_none_right_eq_some] at hform
      rw [schema?, if_pos hform.1] at hschema
      obtain rfl := Option.some.inj hschema
      obtain rfl := Option.some.inj hform.2
      rfl

/-- The fields of a table have different keys, and nil is not a default. -/
theorem schema?_distinct {kind : NodeKind} {tag : String} {fields : List FieldSchema}
    (h : kind.schema? tag = some fields) :
    (fields.map FieldSchema.key).Nodup ∧ ∀ field ∈ fields, field.default? ≠ some .nil := by
  cases kind with
  | selector =>
      obtain ⟨k, -, rfl⟩ := Option.map_eq_some_iff.1 h
      cases k <;> exact ⟨by decide, by simp [Selector.Kind.schema]⟩
  | filter =>
      obtain ⟨k, -, rfl⟩ := Option.map_eq_some_iff.1 h
      cases k <;> exact ⟨by decide, by simp [Filter.Kind.schema]⟩
  | entry =>
      rw [schema?, Option.ite_none_right_eq_some] at h
      obtain rfl := Option.some.inj h.2
      exact ⟨by decide, by simp [Selector.entrySchema]⟩

end NodeKind

/-! ### Arguments -/

namespace Expr

variable {tag key key' : String} {v : Value} {before after : List (String × Value)}

theorem field?_insert_of_ne (h : key' ≠ key) :
    (node tag (before ++ (key, v) :: after)).field? key' =
      (node tag (before ++ after)).field? key' := by
  have hget : (node tag (before ++ (key, v) :: after)).get? key' =
      (node tag (before ++ after)).get? key' := by
    simp [get?, List.lookup_append, List.lookup_cons, beq_eq_false_iff_ne.2 h]
  rw [field?, field?, hget]

theorem field?_eq_none_of_notMem {e : Expr} (h : key ∉ e.keys) : e.field? key = none := by
  cases hv : e.field? key with
  | none => rfl
  | some v => exact absurd (List.mem_map_of_mem (mem_args_of_field? hv)) h

theorem get?_insert_self (h : key ∉ (before ++ after).map Prod.fst) :
    (node tag (before ++ (key, v) :: after)).get? key = some v := by
  refine List.lookup_eq_some_iff.2 ⟨before, after, rfl, fun arg harg => bne_iff_ne.2 ?_⟩
  rintro rfl
  exact h (List.mem_map_of_mem (List.mem_append_left after harg))

theorem field?_insert_self (h : key ∉ (before ++ after).map Prod.fst) (hv : v ≠ .nil) :
    (node tag (before ++ (key, v) :: after)).field? key = some v := by
  rw [field?, get?_insert_self h]
  cases v with
  | nil => exact absurd rfl hv
  | boolean | integer | string | expr | list => rfl

/-- An argument that is nil might as well not be there. -/
theorem field?_insert_nil (h : key ∉ (before ++ after).map Prod.fst) :
    (node tag (before ++ (key, .nil) :: after)).field? key' =
      (node tag (before ++ after)).field? key' := by
  by_cases hkey : key' = key
  · subst hkey
    rw [field?_eq_none_of_notMem (e := node tag (before ++ after)) h, field?, get?_insert_self h]
  · exact field?_insert_of_ne hkey

theorem fits_insert_iff {form : Form} :
    (node tag (before ++ (key, v) :: after)).Fits form ↔
      (node tag (before ++ after)).Fits form ∧ key ∈ form.fields ∧
        key ∉ (before ++ after).map Prod.fst := by
  have hperm : ((before ++ (key, v) :: after).map Prod.fst).Perm
      (key :: (before ++ after).map Prod.fst) := List.perm_middle.map Prod.fst
  constructor
  · rintro ⟨htag, hknown, hdistinct⟩
    obtain ⟨hkey, hdistinct⟩ := List.nodup_cons.1 (hperm.nodup_iff.1 hdistinct)
    have hfield := hknown key (hperm.mem_iff.2 List.mem_cons_self)
    refine ⟨⟨htag, fun k hk => ?_, hdistinct⟩, hfield, hkey⟩
    exact hknown k (hperm.mem_iff.2 (List.mem_cons_of_mem _ hk))
  · rintro ⟨⟨htag, hknown, hdistinct⟩, hfield, hkey⟩
    refine ⟨htag, fun k hk => ?_, hperm.nodup_iff.2 (List.nodup_cons.2 ⟨hkey, hdistinct⟩)⟩
    rcases List.mem_cons.1 (hperm.mem_iff.1 hk) with rfl | hk
    · exact hfield
    · exact hknown k hk

theorem Fits.permute {form : Form} {args args' : List (String × Value)}
    (h : (node tag args).Fits form) (hperm : args.Perm args') : (node tag args').Fits form where
  tag := h.tag
  known := fun key hkey => h.known key ((hperm.map Prod.fst).mem_iff.2 hkey)
  distinct := (hperm.map Prod.fst).nodup_iff.1 h.distinct

theorem field?_permute {args args' : List (String × Value)} (hperm : args.Perm args')
    (h : (args.map Prod.fst).Nodup) : (node tag args').field? key = (node tag args).field? key := by
  have hget : (node tag args').get? key = (node tag args).get? key := by
    refine Option.ext fun v => ?_
    exact (lookup_eq_some_iff_of_nodup ((hperm.map Prod.fst).nodup_iff.1 h)).trans
      (hperm.mem_iff.symm.trans (lookup_eq_some_iff_of_nodup h).symm)
  rw [field?, field?, hget]

end Expr

/-! ### Fields -/

/-- As a node of the kind, the second expression stands for whatever the first does. -/
def NodeKind.StandsAlike (kind : NodeKind) (e e' : Expr) : Prop :=
  match kind with
  | selector => ∀ s, Selector.StandsFor e s → Selector.StandsFor e' s
  | filter => ∀ f, Filter.StandsFor e f → Filter.StandsFor e' f
  | entry => ∀ entry, Selector.EntryStandsFor e entry → Selector.EntryStandsFor e' entry

theorem NodeKind.StandsAlike.refl (kind : NodeKind) (e : Expr) : kind.StandsAlike e e := by
  cases kind with
  | selector | filter | entry => exact fun _ h => h

/-- Two values that a field may have in turn, where `none` stands for its absence. -/
inductive FieldSchema.Alike (field : FieldSchema) : Option Value → Option Value → Prop
  | same (v? : Option Value) : Alike field v? v?
  | default {v : Value} : field.default? = some v → Alike field none (some v)
  | number (i : Int64) : field.content = .textOrInteger →
      Alike field (some (.integer i)) (some (.string (numeralText i.toInt)))
  | node {kind : NodeKind} {e e' : Expr} : field.content = .node kind → kind.StandsAlike e e' →
      Alike field (some (.expr e)) (some (.expr e'))
  | item {kind : NodeKind} {e e' : Expr} (items items' : List Value) :
      field.content = .nodes kind → kind.StandsAlike e e' →
      Alike field (some (.list (items ++ .expr e :: items')))
        (some (.list (items ++ .expr e' :: items')))

namespace FieldSchema.Alike

variable {field : FieldSchema} {v? : Option Value}

theorem none_or_default (h : field.Alike none v?) : v? = none ∨ v? = field.default? := by
  cases h with
  | same => exact .inl rfl
  | default hdefault => exact .inr hdefault.symm

theorem string_eq {s : String} (h : field.Alike (some (.string s)) v?) :
    v? = some (.string s) := by
  cases h
  rfl

theorem integer_or_numeral {i : Int64} (h : field.Alike (some (.integer i)) v?) :
    v? = some (.integer i) ∨ v? = some (.string (numeralText i.toInt)) := by
  cases h with
  | same => exact .inl rfl
  | number => exact .inr rfl

theorem boolean_eq {b : Bool} (h : field.Alike (some (.boolean b)) v?) :
    v? = some (.boolean b) := by
  cases h
  rfl

theorem exists_expr {kind : NodeKind} {e : Expr} (h : field.Alike (some (.expr e)) v?)
    (hcontent : field.content = .node kind) :
    ∃ e', v? = some (.expr e') ∧ kind.StandsAlike e e' := by
  cases h with
  | same => exact ⟨e, rfl, .refl kind e⟩
  | node hcontent' halike =>
      obtain rfl := Content.node.inj (hcontent.symm.trans hcontent')
      exact ⟨_, rfl, halike⟩

theorem forall₂_replace {α β : Type} {R : α → β → Prop} {a a' : α} {before after : List α}
    {bs : List β} (h : List.Forall₂ R (before ++ a :: after) bs) (himp : ∀ b, R a b → R a' b) :
    List.Forall₂ R (before ++ a' :: after) bs := by
  induction before generalizing bs with
  | nil =>
      cases h with
      | cons hb hbs => exact .cons (himp _ hb) hbs
  | cons x before ih =>
      cases h with
      | cons hb hbs => exact .cons hb (ih hbs)

theorem exists_list {kind : NodeKind} {α : Type} {R : Expr → α → Prop} {es : List Expr}
    {as : List α} (h : field.Alike (some (.list (es.map .expr))) v?)
    (hcontent : field.content = .nodes kind)
    (hR : ∀ e e', kind.StandsAlike e e' → ∀ a, R e a → R e' a) (has : List.Forall₂ R es as) :
    ∃ es', v? = some (.list (es'.map .expr)) ∧ List.Forall₂ R es' as := by
  generalize hes : es.map Value.expr = items at h
  cases h with
  | same => exact ⟨es, by rw [hes], has⟩
  | item items items' hcontent' halike =>
      obtain rfl := Content.nodes.inj (hcontent.symm.trans hcontent')
      obtain ⟨before, rest, rfl, rfl, hrest⟩ := List.map_eq_append_iff.1 hes
      obtain ⟨inner, after, rfl, hinner, rfl⟩ := List.map_eq_cons_iff.1 hrest
      obtain rfl := Value.expr.inj hinner
      exact ⟨before ++ _ :: after, by simp, forall₂_replace has (hR _ _ halike)⟩

end FieldSchema.Alike

/-- The second expression has the form as well, and its fields mean what those of the first do. -/
structure Expr.ReadsAlike (e : Expr) (form : Form) (fields : List FieldSchema) (e' : Expr) :
    Prop where
  fits : e'.Fits form
  alike : ∀ field ∈ fields, field.Alike (e.field? field.key) (e'.field? field.key)

namespace Expr.ReadsAlike

variable {e e' : Expr} {form : Form} {fields : List FieldSchema} {field : FieldSchema}

theorem string (h : e.ReadsAlike form fields e') (hfield : field ∈ fields) {s : String}
    (hs : e.field? field.key = some (.string s)) : e'.field? field.key = some (.string s) := by
  have halike := h.alike field hfield
  rw [hs] at halike
  exact halike.string_eq

theorem hasTextOrInteger (h : e.ReadsAlike form fields e') (hfield : field ∈ fields) {s : String}
    (hs : e.HasTextOrInteger field.key s) : e'.HasTextOrInteger field.key s := by
  rcases hs with hs | ⟨i, hi, rfl⟩
  · exact .inl (h.string hfield hs)
  · have halike := h.alike field hfield
    rw [hi] at halike
    exact halike.integer_or_numeral.elim (fun hi' => .inr ⟨i, hi', rfl⟩) .inl

theorem hasBoolean (h : e.ReadsAlike form fields e') (hfield : field ∈ fields) {absent b : Bool}
    (hdefault : field.default? = some (.boolean absent))
    (hb : e.HasBoolean field.key absent b) : e'.HasBoolean field.key absent b := by
  have halike := h.alike field hfield
  rcases hb with ⟨hnone, rfl⟩ | hb
  · rw [hnone] at halike
    exact halike.none_or_default.imp (⟨·, rfl⟩) fun hv => hv.trans hdefault
  · rw [hb] at halike
    exact .inr halike.boolean_eq

theorem hasChoice (h : e.ReadsAlike form fields e') (hfield : field ∈ fields) {α : Type}
    {absent a : α} {ofName? : String → Option α} {name : String}
    (hdefault : field.default? = some (.string name)) (hname : ofName? name = some absent)
    (ha : e.HasChoice field.key absent ofName? a) : e'.HasChoice field.key absent ofName? a := by
  rcases ha with ⟨hnone, rfl⟩ | ⟨s, hs, ha⟩
  · have halike := h.alike field hfield
    rw [hnone] at halike
    exact halike.none_or_default.imp (⟨·, rfl⟩) fun hv => ⟨name, hv.trans hdefault, hname⟩
  · exact .inr ⟨s, h.string hfield hs, ha⟩

theorem exists_expr (h : e.ReadsAlike form fields e') (hfield : field ∈ fields) {kind : NodeKind}
    {inner : Expr} (hcontent : field.content = .node kind)
    (hinner : e.field? field.key = some (.expr inner)) :
    ∃ inner', e'.field? field.key = some (.expr inner') ∧ kind.StandsAlike inner inner' := by
  have halike := h.alike field hfield
  rw [hinner] at halike
  exact halike.exists_expr hcontent

theorem exists_hasList (h : e.ReadsAlike form fields e') (hfield : field ∈ fields)
    {kind : NodeKind} {α : Type} {R : Expr → α → Prop} {es : List Expr} {as : List α}
    (hcontent : field.content = .nodes kind) (hdefault : field.default? = some (.list []))
    (hR : ∀ inner inner', kind.StandsAlike inner inner' → ∀ a, R inner a → R inner' a)
    (hes : e.HasList field.key es) (has : List.Forall₂ R es as) :
    ∃ es', e'.HasList field.key es' ∧ List.Forall₂ R es' as := by
  have halike := h.alike field hfield
  rcases hes with ⟨hnone, rfl⟩ | hes
  · rw [hnone] at halike
    exact ⟨[], halike.none_or_default.imp (⟨·, rfl⟩) fun hv => hv.trans hdefault, has⟩
  · rw [hes] at halike
    obtain ⟨es', hes', has'⟩ := halike.exists_list hcontent hR has
    exact ⟨es', .inr hes', has'⟩

end Expr.ReadsAlike

/-! ### Nodes -/

theorem Filter.standsAlike_of_readsAlike {e e' : Expr}
    (h : ∀ form fields, NodeKind.filter.form? e.tag = some form →
      NodeKind.filter.schema? e.tag = some fields → e.Fits form → e.ReadsAlike form fields e') :
    NodeKind.filter.StandsAlike e e' := by
  intro f hf
  have hread {kind : Kind} (hfits : e.Fits kind.form) : e.ReadsAlike kind.form kind.schema e' := by
    have hkind : Kind.ofTag? e.tag = some kind := Kind.ofTag?_eq_some_iff.2 hfits.tag
    exact h _ _ (by rw [NodeKind.form?, hkind, Option.map_some]) (Kind.schema?_eq hkind) hfits
  rw [standsFor_iff] at hf ⊢
  cases hf with
  | acceptAll hfits => exact .acceptAll (hread hfits).fits
  | displayName hfits hname =>
      exact .displayName (hread hfits).fits ((hread hfits).string List.mem_cons_self hname)
  | and hfits hes hfs =>
      obtain ⟨es', hes', hfs'⟩ := (hread hfits).exists_hasList List.mem_cons_self rfl rfl
        (fun _ _ halike => halike) hes hfs
      exact .and (hread hfits).fits hes' hfs'
  | or hfits hes hfs =>
      obtain ⟨es', hes', hfs'⟩ := (hread hfits).exists_hasList List.mem_cons_self rfl rfl
        (fun _ _ halike => halike) hes hfs
      exact .or (hread hfits).fits hes' hfs'
  | not hfits hnested hf =>
      obtain ⟨nested, hnested', halike⟩ :=
        (hread hfits).exists_expr List.mem_cons_self rfl hnested
      exact .not (hread hfits).fits hnested' (halike _ hf)
  | parameterized hfits hparameter =>
      exact .parameterized (hread hfits).fits
        ((hread hfits).string List.mem_cons_self hparameter)

namespace Selector

theorem entryStandsAlike_of_readsAlike {e e' : Expr}
    (h : e.Fits entryForm → e.ReadsAlike entryForm entrySchema e') :
    NodeKind.entry.StandsAlike e e' := by
  intro entry hentry
  have hselector {inner : Expr} (hfits : e.Fits entryForm)
      (hinner : e.field? "selector" = some (.expr inner)) :
      ∃ inner', e'.field? "selector" = some (.expr inner') ∧
        NodeKind.selector.StandsAlike inner inner' :=
    (h hfits).exists_expr List.mem_cons_self rfl hinner
  have hfilter : entrySchema[1] ∈ entrySchema := List.getElem_mem _
  cases hentry with
  | plain hfits hinner hs hnone =>
      obtain ⟨inner', hinner', halike⟩ := hselector hfits hinner
      have hnarrowing := (h hfits).alike _ hfilter
      rw [show e.field? entrySchema[1].key = none from hnone] at hnarrowing
      rcases hnarrowing.none_or_default with hnone' | hdefault
      · exact .plain (h hfits).fits hinner' (halike _ hs) hnone'
      · refine .filtered (h hfits).fits hinner' (halike _ hs) hdefault ?_
        exact Filter.standsFor_iff.2 (.acceptAll (Expr.fits_node rfl (by decide)))
  | filtered hfits hinner hs hnarrowing hf =>
      obtain ⟨inner', hinner', halike⟩ := hselector hfits hinner
      obtain ⟨narrowing', hnarrowing', halike'⟩ := (h hfits).exists_expr hfilter rfl hnarrowing
      exact .filtered (h hfits).fits hinner' (halike _ hs) hnarrowing' (halike' _ hf)

theorem standsAlike_of_readsAlike {e e' : Expr}
    (h : ∀ form fields, NodeKind.selector.form? e.tag = some form →
      NodeKind.selector.schema? e.tag = some fields → e.Fits form → e.ReadsAlike form fields e') :
    NodeKind.selector.StandsAlike e e' := by
  intro s hs
  have hread {kind : Kind} (hfits : e.Fits kind.form) : e.ReadsAlike kind.form kind.schema e' := by
    have hkind : Kind.ofTag? e.tag = some kind := Kind.ofTag?_eq_some_iff.2 hfits.tag
    exact h _ _ (by rw [NodeKind.form?, hkind, Option.map_some]) (Kind.schema?_eq hkind) hfits
  rw [standsFor_iff] at hs ⊢
  cases hs with
  | buildNumber hfits hnumber =>
      exact .buildNumber (hread hfits).fits
        ((hread hfits).hasTextOrInteger List.mem_cons_self hnumber)
  | displayName hfits hname =>
      exact .displayName (hread hfits).fits ((hread hfits).string List.mem_cons_self hname)
  | permalink hfits hid =>
      exact .permalink (hread hfits).fits ((hread hfits).string List.mem_cons_self hid)
  | status hfits hstatus =>
      exact .status (hread hfits).fits
        ((hread hfits).hasChoice List.mem_cons_self rfl (Status.ofName?_name _) hstatus)
  | triggering hfits hdependencies hstrategy =>
      have hread := hread hfits
      exact .triggering hread.fits (hread.hasBoolean List.mem_cons_self rfl hdependencies)
        (hread.hasChoice (List.mem_cons_of_mem _ List.mem_cons_self) rfl
          (Strategy.ofName?_name _) hstrategy)
  | fallback hfits hes hentries =>
      obtain ⟨es', hes', hentries'⟩ := (hread hfits).exists_hasList List.mem_cons_self rfl rfl
        (fun _ _ halike => halike) hes hentries
      exact .fallback (hread hfits).fits hes' hentries'
  | parameterized hfits hparameter =>
      exact .parameterized (hread hfits).fits
        ((hread hfits).string List.mem_cons_self hparameter)

end Selector

/-- A node that is read alike stands for the same. -/
theorem NodeKind.standsAlike_of_readsAlike {kind : NodeKind} {e e' : Expr}
    (h : ∀ form fields, kind.form? e.tag = some form → kind.schema? e.tag = some fields →
      e.Fits form → e.ReadsAlike form fields e') : kind.StandsAlike e e' := by
  cases kind with
  | selector => exact Selector.standsAlike_of_readsAlike h
  | filter => exact Filter.standsAlike_of_readsAlike h
  | entry =>
      exact Selector.entryStandsAlike_of_readsAlike fun hfits =>
        h _ _ (if_pos hfits.tag) (Selector.schema?_entry_eq hfits.tag) hfits

/-! ### Respelling -/

namespace Expr

/-- It is enough to look at the one field that differs. -/
theorem ReadsAlike.of_field {e e' : Expr} {form : Form} {fields : List FieldSchema}
    {field : FieldSchema} (hdistinct : (fields.map FieldSchema.key).Nodup) (hfield : field ∈ fields)
    (hfits : e'.Fits form) (hself : field.Alike (e.field? field.key) (e'.field? field.key))
    (hother : ∀ key, key ≠ field.key → e'.field? key = e.field? key) :
    e.ReadsAlike form fields e' := by
  refine ⟨hfits, fun other hmem => ?_⟩
  by_cases hkey : other.key = field.key
  · rw [List.inj_on_of_nodup_map hdistinct hmem hfield hkey]
    exact hself
  · rw [hother other.key hkey]
    exact .same _

/-- A field of a node holds another value of the same meaning. -/
theorem standsAlike_of_alike {kind : NodeKind} {tag : String} {fields : List FieldSchema}
    {field : FieldSchema} {v v' : Value} {before after : List (String × Value)}
    (hschema : kind.schema? tag = some fields) (hfield : field ∈ fields)
    (h : field.Alike (some v) (some v')) (hv : v ≠ .nil) (hv' : v' ≠ .nil) :
    kind.StandsAlike (.node tag (before ++ (field.key, v) :: after))
      (.node tag (before ++ (field.key, v') :: after)) := by
  refine NodeKind.standsAlike_of_readsAlike fun form fields' _ hschema' hfits => ?_
  obtain rfl := Option.some.inj (hschema.symm.trans hschema')
  obtain ⟨hrest, hknown, hkey⟩ := fits_insert_iff.1 hfits
  refine .of_field ((NodeKind.schema?_distinct hschema).1) hfield
    (fits_insert_iff.2 ⟨hrest, hknown, hkey⟩) ?_ fun key hne => ?_
  · rw [field?_insert_self hkey hv, field?_insert_self hkey hv']
    exact h
  · rw [field?_insert_of_ne hne, field?_insert_of_ne hne]

theorem Respelled.standsAlike {kind : NodeKind} {e e' : Expr} (h : Respelled kind e e') :
    kind.StandsAlike e e' := by
  induction h with
  | permute hperm =>
      refine NodeKind.standsAlike_of_readsAlike fun form fields _ _ hfits => ?_
      refine ⟨hfits.permute hperm, fun field _ => ?_⟩
      rw [field?_permute hperm hfits.distinct]
      exact .same _
  | retag args hform htag =>
      refine NodeKind.standsAlike_of_readsAlike fun form' fields hform' _ hfits => ?_
      obtain rfl := Option.some.inj (hform.symm.trans hform')
      exact ⟨⟨htag, hfits.known, hfits.distinct⟩, fun field _ => .same _⟩
  | dropNil before after key =>
      refine NodeKind.standsAlike_of_readsAlike fun form fields _ _ hfits => ?_
      obtain ⟨hrest, -, hkey⟩ := fits_insert_iff.1 hfits
      refine ⟨hrest, fun field _ => ?_⟩
      rw [field?_insert_nil hkey]
      exact .same _
  | addNil before after hschema hfield _ hkey =>
      refine NodeKind.standsAlike_of_readsAlike fun form fields hform hschema' hfits => ?_
      have hknown := List.mem_map_of_mem (f := FieldSchema.key) hfield
      rw [NodeKind.keys_eq_of_form? hform hschema] at hknown
      refine ⟨fits_insert_iff.2 ⟨hfits, hknown, hkey⟩, fun field _ => ?_⟩
      rw [field?_insert_nil hkey]
      exact .same _
  | @addDefault kind tag fields field v before after hschema hfield hdefault hkey =>
      refine NodeKind.standsAlike_of_readsAlike fun form fields' hform hschema' hfits => ?_
      obtain rfl := Option.some.inj (hschema.symm.trans hschema')
      have hknown := List.mem_map_of_mem (f := FieldSchema.key) hfield
      rw [NodeKind.keys_eq_of_form? hform hschema] at hknown
      refine .of_field ((NodeKind.schema?_distinct hschema).1) hfield
        (fits_insert_iff.2 ⟨hfits, hknown, hkey⟩) ?_ fun key hne => field?_insert_of_ne hne
      have hv : v ≠ .nil := fun hnil =>
        (NodeKind.schema?_distinct hschema).2 field hfield (hnil ▸ hdefault)
      rw [field?_eq_none_of_notMem hkey, field?_insert_self hkey hv]
      exact .default hdefault
  | number before after i hschema hfield hcontent =>
      exact standsAlike_of_alike hschema hfield (.number i hcontent) nofun nofun
  | node before after hschema hfield hcontent _ ih =>
      exact standsAlike_of_alike hschema hfield (.node hcontent ih) nofun nofun
  | item before after items items' hschema hfield hcontent _ ih =>
      exact standsAlike_of_alike hschema hfield (.item items items' hcontent ih) nofun nofun

end Expr

theorem NodeKind.StandsAlike.of_reflTransGen {kind : NodeKind} {e e' : Expr}
    (h : Relation.ReflTransGen (Expr.Respelled kind) e e') : kind.StandsAlike e e' := by
  induction h with
  | refl => exact .refl kind e
  | tail _ hstep ih =>
      have hlast := hstep.standsAlike
      cases kind with
      | selector | filter | entry => exact fun a ha => hlast a (ih a ha)

/-- Decoding depends on what is written and not on how, as long as it nests no deeper than the
decoders allow. -/
theorem ofExpr_eq_of_respelled {e e' : Expr} (h : e'.depth ≤ maxNesting) :
    (∀ s, Selector.ofExpr e = .ok s → Relation.ReflTransGen (Expr.Respelled .selector) e e' →
      Selector.ofExpr e' = .ok s) ∧
    ∀ f, Filter.ofExpr e = .ok f → Relation.ReflTransGen (Expr.Respelled .filter) e e' →
      Filter.ofExpr e' = .ok f := by
  constructor
  · intro s hs hsteps
    have halike := NodeKind.StandsAlike.of_reflTransGen hsteps
    exact (Selector.ofExpr_eq_ok_iff_standsFor h).2
      (halike s (Selector.standsFor_of_ofExprAt hs))
  · intro f hf hsteps
    have halike := NodeKind.StandsAlike.of_reflTransGen hsteps
    exact (Filter.ofExpr_eq_ok_iff_standsFor h).2 (halike f (Filter.standsFor_of_ofExprAt hf))

/-- An integer and a nil, and the same entry with a default, an alias and its fields swapped. -/
theorem ofExpr_eq_of_respelled_entry :
    let e := Expr.node "fallback" [("entries", .list [.expr (.node "entry"
      [("selector", .expr (.node "build-number" [("number", .integer 7)])), ("filter", .nil)])])]
    let e' := Expr.node "fallback" [("entries", .list [.expr (.node "entry"
      [("filter", .expr (.node "accept-all" [])),
        ("selector", .expr (.node "buildNumber" [("number", .string "7")]))])])]
    let s := Selector.fallback [(.buildNumber "7", .acceptAll)]
    e'.depth ≤ maxNesting ∧ Selector.ofExpr e = .ok s ∧
      Relation.ReflTransGen (Expr.Respelled .selector) e e' ∧ Selector.ofExpr e' = .ok s := by
  intro e e' s
  have hdepth : e'.depth ≤ maxNesting := by decide
  have hs : Selector.ofExpr e = .ok s := by rfl
  have hnumber : NodeKind.selector.schema? "build-number" =
      some Selector.Kind.buildNumber.schema := rfl
  have hform : NodeKind.selector.form? "build-number" = some Selector.Kind.buildNumber.form := rfl
  have hentry : NodeKind.entry.schema? "entry" = some Selector.entrySchema := rfl
  have hfallback : NodeKind.selector.schema? "fallback" = some Selector.Kind.fallback.schema := rfl
  have hselector : Relation.ReflTransGen (Expr.Respelled .selector)
      (.node "build-number" [("number", .integer 7)])
      (.node "buildNumber" [("number", .string "7")]) :=
    .tail (.single (.number [] [] 7 hnumber List.mem_cons_self rfl)) (.retag _ hform (by decide))
  have hinner : Relation.ReflTransGen (Expr.Respelled .entry)
      (.node "entry" [("selector", .expr (.node "build-number" [("number", .integer 7)])),
        ("filter", .nil)])
      (.node "entry" [("filter", .expr (.node "accept-all" [])),
        ("selector", .expr (.node "buildNumber" [("number", .string "7")]))]) := by
    refine .trans (.lift (fun a => Expr.node "entry" [("selector", .expr a), ("filter", .nil)])
      (fun _ _ hstep => .node [] _ hentry List.mem_cons_self rfl hstep) _ _ hselector) ?_
    refine .head (.dropNil [_] [] "filter") (.head (.addDefault [_] [] hentry
      (List.mem_cons_of_mem _ List.mem_cons_self) rfl (by simp)) ?_)
    exact .single (.permute (.swap _ _ _))
  have hsteps : Relation.ReflTransGen (Expr.Respelled .selector) e e' :=
    .lift (fun a => Expr.node "fallback" [("entries", .list [.expr a])])
      (fun _ _ hstep => .item [] [] [] [] hfallback List.mem_cons_self rfl hstep) _ _ hinner
  exact ⟨hdepth, hs, hsteps, (ofExpr_eq_of_respelled hdepth).1 s hs hsteps⟩

end BuildPicker
