import BuildPicker.Proofs.Codec.RoundTrip

/-!
Texts that are decoded, encoded and decoded again.

Encoding writes every field, also those which the accepted text left out. For a
list this opens a level that the text did not have, so the encoding nests deeper
than the text exactly where a list is left out on the deepest level. The text and
its encoding therefore differ in the limit only: an accepted text does not come
back if and only if a node on the last level leaves its list out.
-/

namespace BuildPicker

open BuildPicker.Text

/-! ### Levels -/

mutual

/-- The expressions on the `n`-th level of a value, where lists count as levels. -/
def Value.nodesAt : Value → Nat → List Expr
  | .nil, _ | .boolean _, _ | .integer _, _ | .string _, _ => []
  | .expr e, n => e.nodesAt n
  | .list items, n => match n with
    | 0 => []
    | n + 1 => itemsNodesAt items n

/-- The expressions on the `n`-th level of an expression, which is itself on the first. -/
def Expr.nodesAt : Expr → Nat → List Expr
  | .node tag args, n => match n with
    | 0 => []
    | 1 => [.node tag args]
    | n + 2 => argsNodesAt args (n + 1)

def itemsNodesAt : List Value → Nat → List Expr
  | [], _ => []
  | v :: items, n => v.nodesAt n ++ itemsNodesAt items n

def argsNodesAt : List (String × Value) → Nat → List Expr
  | [], _ => []
  | (_, v) :: args, n => v.nodesAt n ++ argsNodesAt args n

end

theorem itemsNodesAt_eq_flatMap (items : List Value) (n : Nat) :
    itemsNodesAt items n = items.flatMap fun v => v.nodesAt n := by
  induction items with
  | nil => rfl
  | cons v items ih => rw [itemsNodesAt, ih, List.flatMap_cons]

theorem argsNodesAt_eq_flatMap (args : List (String × Value)) (n : Nat) :
    argsNodesAt args n = args.flatMap fun arg => arg.2.nodesAt n := by
  induction args with
  | nil => rfl
  | cons arg args ih => rw [argsNodesAt, ih, List.flatMap_cons]

@[simp] theorem Expr.nodesAt_zero (e : Expr) : e.nodesAt 0 = [] := by
  cases e
  rfl

@[simp] theorem Value.nodesAt_zero (v : Value) : v.nodesAt 0 = [] := by
  cases v <;> simp [nodesAt]

/-! ### Lists that are left out -/

/-- The forms with a list that may be left out, and the field for it. -/
def listForms : List (Form × String) :=
  [(Filter.Kind.and.form, "filters"), (Filter.Kind.or.form, "filters"),
    (Selector.Kind.fallback.form, "entries")]

/-- A conjunction, disjunction or fallback without a list, not even an empty one. -/
def Expr.omitsList (e : Expr) : Bool :=
  listForms.any fun (form, key) => form.answersTo e.tag && (e.field? key).isNone

/-- A value opens at most `n` levels, and does so still after each list that is left out has
been written down as an empty one. -/
def Value.StaysWithin (v : Value) (n : Nat) : Prop :=
  v.nesting ≤ n ∧ ∀ e ∈ v.nodesAt n, e.omitsList = false

/-- The same for an expression. -/
def Expr.StaysWithin (e : Expr) (n : Nat) : Prop :=
  e.nesting ≤ n ∧ ∀ inner ∈ e.nodesAt n, inner.omitsList = false

@[simp] theorem Value.staysWithin_nil (n : Nat) : Value.nil.StaysWithin n := by
  simp [StaysWithin, nesting, nodesAt]

@[simp] theorem Value.staysWithin_boolean (b : Bool) (n : Nat) :
    (Value.boolean b).StaysWithin n := by
  simp [StaysWithin, nesting, nodesAt]

@[simp] theorem Value.staysWithin_integer (i : Int64) (n : Nat) :
    (Value.integer i).StaysWithin n := by
  simp [StaysWithin, nesting, nodesAt]

@[simp] theorem Value.staysWithin_string (s : String) (n : Nat) :
    (Value.string s).StaysWithin n := by
  simp [StaysWithin, nesting, nodesAt]

@[simp] theorem Value.staysWithin_expr_iff {e : Expr} {n : Nat} :
    (Value.expr e).StaysWithin n ↔ e.StaysWithin n := Iff.rfl

theorem Value.not_staysWithin_list_zero (items : List Value) :
    ¬(Value.list items).StaysWithin 0 := by
  simp [StaysWithin, nesting]

theorem Value.staysWithin_list_succ_iff {items : List Value} {n : Nat} :
    (Value.list items).StaysWithin (n + 1) ↔ ∀ v ∈ items, v.StaysWithin n := by
  simp only [StaysWithin, nesting, nodesAt, itemsNodesAt_eq_flatMap, Nat.add_le_add_iff_right,
    itemsNesting_le_iff, List.forall_mem_flatMap, forall₂_and]

theorem Expr.nesting_pos (e : Expr) : 0 < e.nesting := by
  cases e
  simp [nesting]

theorem Expr.not_staysWithin_zero (e : Expr) : ¬e.StaysWithin 0 :=
  fun h => Nat.not_le_of_lt e.nesting_pos h.1

/-- Only on the last level does it matter whether the expression leaves a list out itself. -/
theorem Expr.staysWithin_succ_iff {e : Expr} {n : Nat} :
    e.StaysWithin (n + 1) ↔
      (∀ arg ∈ e.args, arg.2.StaysWithin n) ∧ (n = 0 → e.omitsList = false) := by
  obtain ⟨tag, args⟩ := e
  have hnesting : (node tag args).nesting ≤ n + 1 ↔ ∀ arg ∈ args, arg.2.nesting ≤ n := by
    rw [nesting, Nat.add_le_add_iff_right, argsNesting_le_iff]
  simp only [StaysWithin, Value.StaysWithin, hnesting, args_node]
  cases n with
  | zero => simp [nodesAt]
  | succ n =>
      -- The expression stands on the first level, and the deepest one is further in.
      simp only [nodesAt, argsNodesAt_eq_flatMap, List.forall_mem_flatMap, forall₂_and,
        Nat.add_eq_zero_iff, Nat.one_ne_zero, and_false, false_implies, and_true]

namespace Expr

variable {e : Expr} {form : Form}

theorem omitsList_iff_of_fits {key : String} (hmem : (form, key) ∈ listForms)
    (h : e.Fits form) : e.omitsList ↔ e.field? key = none := by
  have hkeys : ∀ p ∈ listForms, ∀ q ∈ listForms, ∀ t ∈ p.1.tags, t ∈ q.1.tags → p.2 = q.2 := by
    decide
  simp only [omitsList, List.any_eq_true, Bool.and_eq_true, Option.isNone_iff_eq_none]
  constructor
  · rintro ⟨p, hp, htag, hnone⟩
    have hkey : p.2 = key := hkeys p hp (form, key) hmem e.tag (Form.answersTo_iff.1 htag)
      (Form.answersTo_iff.1 h.tag)
    rwa [← hkey]
  · exact fun hnone => ⟨(form, key), hmem, h.tag, hnone⟩

/-- A node of a form without a list stays within what its fields stay within. -/
theorem staysWithin_succ_iff_of_fits {n : Nat} (h : e.Fits form)
    (hother : ∀ p ∈ listForms, ∀ t ∈ form.tags, t ∉ p.1.tags) :
    e.StaysWithin (n + 1) ↔
      ∀ key ∈ form.fields, ∀ v, e.field? key = some v → v.StaysWithin n := by
  have hkeeps : e.omitsList = false := by
    rw [omitsList, List.any_eq_false]
    intro p hp hcond
    rw [Bool.and_eq_true] at hcond
    exact hother p hp e.tag (Form.answersTo_iff.1 h.tag) (Form.answersTo_iff.1 hcond.1)
  rw [staysWithin_succ_iff,
    ← h.forall_args_iff (P := fun v => v.StaysWithin n) (Value.staysWithin_nil n)]
  simp [hkeeps]

/-- A node with a list needs a level for the list, whether the list is left out or not. -/
theorem staysWithin_iff_of_hasList {key : String} {es : List Expr} {n : Nat}
    (hmem : (form, key) ∈ listForms) (h : e.Fits form) (hfields : form.fields = [key])
    (hes : e.HasList key es) :
    e.StaysWithin n ↔ ∃ k, n = k + 2 ∧ ∀ inner ∈ es, inner.StaysWithin k := by
  cases n with
  | zero => simp [e.not_staysWithin_zero]
  | succ n =>
      have homits := omitsList_iff_of_fits hmem h
      rw [staysWithin_succ_iff,
        h.forall_args_iff (P := fun v => v.StaysWithin n) (Value.staysWithin_nil n), hfields]
      -- Without the list the node has to be above the last level, and with it the items decide.
      obtain ⟨hnone, rfl⟩ | hsome := hes
      · cases n with
        | zero => simp [hnone, homits.2 hnone]
        | succ n => simp [hnone]
      · have hkeeps : e.omitsList = false := by
          rw [Bool.eq_false_iff, ne_eq, homits, hsome]
          simp
        cases n with
        | zero => simp [hsome, hkeeps, Value.not_staysWithin_list_zero]
        | succ n => simp [hsome, hkeeps, Value.staysWithin_list_succ_iff]

end Expr

/-! ### Decoded filters and selectors -/

namespace Filter

theorem Denotes.trimmed_eq {R : Expr → Filter → Prop} {e : Expr} {f : Filter}
    (h : Denotes R e f) (hR : ∀ e f, R e f → f.trimmed = f) : f.trimmed = f := by
  have hall {es : List Expr} {fs : List Filter} (hfs : List.Forall₂ R es fs) :
      trimmedAll fs = fs := by
    have hmem : ∀ f ∈ fs, f.trimmed = f := forall_mem_of_forall₂ hfs hR
    rw [trimmedAll_eq_map, List.map_congr_left hmem, List.map_id']
  cases h with
  | acceptAll => rfl
  | displayName => simp [trimmed]
  | and _ _ hfs => rw [trimmed, hall hfs]
  | or _ _ hfs => rw [trimmed, hall hfs]
  | not _ _ hf => rw [trimmed, hR _ _ hf]
  | parameterized => rfl

theorem trimmed_of_ofExprAt {n : Nat} {e : Expr} {f : Filter} (h : ofExprAt n e = .ok f) :
    f.trimmed = f := by
  induction n generalizing e f with
  | zero => cases h
  | succ n ih => exact (ofExprAt_succ_eq_ok_iff.1 h).trimmed_eq fun _ _ hf => ih hf

/-- The nesting of a decoded filter, told from the expression it was decoded from. -/
theorem Denotes.nesting_le_iff {R : Expr → Filter → Prop} {e : Expr} {f : Filter} {n : Nat}
    (h : Denotes R e f) (hR : ∀ e f, R e f → ∀ n, f.nesting ≤ n ↔ e.StaysWithin n) :
    f.nesting ≤ n ↔ e.StaysWithin n := by
  have hlist {kind : Kind} {es : List Expr} {fs : List Filter}
      (hmem : (kind.form, "filters") ∈ listForms) (hfits : e.Fits kind.form)
      (hfields : kind.form.fields = ["filters"]) (hes : e.HasList "filters" es)
      (hfs : List.Forall₂ R es fs) : nestingAll fs + 2 ≤ n ↔ e.StaysWithin n := by
    rw [Expr.staysWithin_iff_of_hasList hmem hfits hfields hes]
    have hall (k : Nat) : nestingAll fs ≤ k ↔ ∀ inner ∈ es, inner.StaysWithin k := by
      rw [nestingAll_le_iff]
      exact (forall_mem_iff_of_forall₂ hfs fun e f hf => (hR e f hf k).symm).symm
    constructor
    · intro hn
      exact ⟨n - 2, by omega, (hall _).1 (by omega)⟩
    · rintro ⟨k, rfl, hk⟩
      exact Nat.add_le_add_right ((hall k).2 hk) 2
  cases n with
  | zero => simp [e.not_staysWithin_zero, Nat.ne_of_gt f.nesting_pos]
  | succ n =>
      cases h with
      | acceptAll hfits =>
          rw [Expr.staysWithin_succ_iff_of_fits hfits (by decide)]
          simp [nesting, Kind.form]
      | displayName hfits hname =>
          rw [Expr.staysWithin_succ_iff_of_fits hfits (by decide)]
          simp [nesting, Kind.form, hname]
      | and hfits hes hfs => exact hlist (by simp [listForms]) hfits rfl hes hfs
      | or hfits hes hfs => exact hlist (by simp [listForms]) hfits rfl hes hfs
      | not hfits hnested hf =>
          rw [Expr.staysWithin_succ_iff_of_fits hfits (by decide)]
          simp [nesting, Kind.form, hnested, hR _ _ hf n]
      | parameterized hfits hparameter =>
          rw [Expr.staysWithin_succ_iff_of_fits hfits (by decide)]
          simp [nesting, Kind.form, hparameter]

theorem nesting_le_iff_of_ofExprAt {n : Nat} {e : Expr} {f : Filter} (h : ofExprAt n e = .ok f)
    (m : Nat) : f.nesting ≤ m ↔ e.StaysWithin m := by
  induction n generalizing e f m with
  | zero => cases h
  | succ n ih => exact (ofExprAt_succ_eq_ok_iff.1 h).nesting_le_iff fun _ _ hf => ih hf

end Filter

namespace Selector

theorem Denotes.trimmed_eq {E : Expr → Selector × Filter → Prop} {e : Expr} {s : Selector}
    (h : Denotes E e s)
    (hE : ∀ e entry, E e entry → entry.1.trimmed = entry.1 ∧ entry.2.trimmed = entry.2) :
    s.trimmed = s := by
  cases h with
  | buildNumber => simp [trimmed]
  | displayName => simp [trimmed]
  | permalink => simp [trimmed]
  | status => rfl
  | triggering => rfl
  | @fallback es entries _ _ hentries =>
      have hmem : ∀ entry ∈ entries, (entry.1.trimmed, entry.2.trimmed) = entry :=
        forall_mem_of_forall₂ hentries fun e entry hentry => Prod.ext_iff.2 (hE e entry hentry)
      rw [trimmed, trimmedAll_eq_map, List.map_congr_left hmem, List.map_id']
  | parameterized => rfl

theorem trimmed_of_ofExprAt {n : Nat} {e : Expr} {s : Selector} (h : ofExprAt n e = .ok s) :
    s.trimmed = s := by
  induction n using Nat.twoStepInduction generalizing e s with
  | zero => cases h
  | one => exact (ofExprAt_one_eq_ok_iff.1 h).trimmed_eq fun _ _ => False.elim
  | more n ih _ =>
      refine (ofExprAt_add_two_eq_ok_iff.1 h).trimmed_eq fun e entry hentry => ?_
      cases hentry with
      | plain _ _ hs _ => exact ⟨ih hs, rfl⟩
      | filtered _ _ hs _ hf => exact ⟨ih hs, Filter.trimmed_of_ofExprAt hf⟩

/-- An entry stays within what its selector does; a filter that is left out adds nothing. -/
theorem EntryDenotes.nesting_lt_iff {S : Expr → Selector → Prop} {R : Expr → Filter → Prop}
    {e : Expr} {entry : Selector × Filter} {n : Nat} (h : EntryDenotes S R e entry)
    (hS : ∀ e s, S e s → ∀ n, s.nesting ≤ n ↔ e.StaysWithin n)
    (hR : ∀ e f, R e f → ∀ n, f.nesting ≤ n ↔ e.StaysWithin n) :
    entry.1.nesting < n ∧ entry.2.nesting < n ↔ e.StaysWithin n := by
  cases n with
  | zero => simp [e.not_staysWithin_zero]
  | succ n =>
      rw [Nat.lt_add_one_iff, Nat.lt_add_one_iff]
      cases h with
      | @plain inner s hfits hselector hs hnone =>
          -- The filter that is written down stands beside the selector, on a level in use.
          have hfilter : s.nesting ≤ n → Filter.acceptAll.nesting ≤ n :=
            fun hn => Nat.le_trans s.nesting_pos hn
          rw [Expr.staysWithin_succ_iff_of_fits hfits (by decide), and_iff_left_of_imp hfilter]
          simp [entryForm, hselector, hnone, hS _ _ hs n]
      | filtered hfits hselector hs hfilter hf =>
          rw [Expr.staysWithin_succ_iff_of_fits hfits (by decide)]
          simp [entryForm, hselector, hfilter, hS _ _ hs n, hR _ _ hf n]

theorem Denotes.nesting_le_iff {E : Expr → Selector × Filter → Prop} {e : Expr} {s : Selector}
    {n : Nat} (h : Denotes E e s)
    (hE : ∀ e entry, E e entry →
      ∀ n, entry.1.nesting < n ∧ entry.2.nesting < n ↔ e.StaysWithin n) :
    s.nesting ≤ n ↔ e.StaysWithin n := by
  cases n with
  | zero => simp [e.not_staysWithin_zero, Nat.ne_of_gt s.nesting_pos]
  | succ n =>
      cases h with
      | buildNumber hfits hnumber =>
          rw [Expr.staysWithin_succ_iff_of_fits hfits (by decide)]
          obtain hstring | ⟨i, hinteger, _⟩ := hnumber
          · simp [nesting, Kind.form, hstring]
          · simp [nesting, Kind.form, hinteger]
      | displayName hfits hname =>
          rw [Expr.staysWithin_succ_iff_of_fits hfits (by decide)]
          simp [nesting, Kind.form, hname]
      | permalink hfits hid =>
          rw [Expr.staysWithin_succ_iff_of_fits hfits (by decide)]
          simp [nesting, Kind.form, hid]
      | status hfits hstatus =>
          rw [Expr.staysWithin_succ_iff_of_fits hfits (by decide)]
          obtain ⟨hnone, _⟩ | ⟨name, hname, _⟩ := hstatus
          · simp [nesting, Kind.form, hnone]
          · simp [nesting, Kind.form, hname]
      | triggering hfits hdependencies hstrategy =>
          rw [Expr.staysWithin_succ_iff_of_fits hfits (by decide)]
          have hflag : ∀ v, e.field? "allow-upstream-dependencies" = some v →
              v.StaysWithin n := by
            obtain ⟨hnone, _⟩ | hsome := hdependencies
            · simp [hnone]
            · simp [hsome]
          have hname : ∀ v, e.field? "upstream-strategy" = some v → v.StaysWithin n := by
            obtain ⟨hnone, _⟩ | ⟨name, hsome, _⟩ := hstrategy
            · simp [hnone]
            · simp [hsome]
          refine iff_of_true (by simp [nesting]) ?_
          exact List.forall_mem_cons.2 ⟨hflag, List.forall_mem_singleton.2 hname⟩
      | @fallback es entries hfits hes hentries =>
          rw [Expr.staysWithin_iff_of_hasList (by simp [listForms]) hfits rfl hes]
          have hall (k : Nat) : nestingAll entries ≤ k ↔ ∀ inner ∈ es, inner.StaysWithin k := by
            rw [nestingAll_le_iff]
            exact (forall_mem_iff_of_forall₂ hentries fun e entry hentry =>
              (hE e entry hentry k).symm).symm
          rw [nesting]
          constructor
          · intro hn
            exact ⟨n - 1, by omega, (hall _).1 (by omega)⟩
          · rintro ⟨k, hk, hinner⟩
            rw [hk]
            exact Nat.add_le_add_right ((hall k).2 hinner) 2
      | parameterized hfits hparameter =>
          rw [Expr.staysWithin_succ_iff_of_fits hfits (by decide)]
          simp [nesting, Kind.form, hparameter]

theorem nesting_le_iff_of_ofExprAt {n : Nat} {e : Expr} {s : Selector}
    (h : ofExprAt n e = .ok s) (m : Nat) : s.nesting ≤ m ↔ e.StaysWithin m := by
  induction n using Nat.twoStepInduction generalizing e s m with
  | zero => cases h
  | one => exact (ofExprAt_one_eq_ok_iff.1 h).nesting_le_iff fun _ _ => False.elim
  | more n ih _ =>
      refine (ofExprAt_add_two_eq_ok_iff.1 h).nesting_le_iff fun e entry hentry m => ?_
      exact hentry.nesting_lt_iff (fun _ _ hs => ih hs)
        fun _ _ hf => Filter.nesting_le_iff_of_ofExprAt hf

end Selector

/-! ### Main statements -/

theorem Expr.staysWithin_maxNesting_iff {text : String} {e : Expr} (h : ofText text = .ok e) :
    e.StaysWithin maxNesting ↔ ¬(e.nodesAt maxNesting).any omitsList := by
  rw [StaysWithin, and_iff_right (ofText_eq_ok_iff.1 h).2]
  simp

theorem Filter.decode_eq_ok_iff {text : String} {f : Filter} :
    decode text = .ok f ↔ ∃ e, Expr.ofSource text = .ok e ∧ ofExprAt maxNesting e = .ok f :=
  Except.bind_eq_ok_iff

theorem Selector.decode_eq_ok_iff {text : String} {s : Selector} :
    decode text = .ok s ↔ ∃ e, Expr.ofSource text = .ok e ∧ ofExprAt maxNesting e = .ok s :=
  Except.bind_eq_ok_iff

/-- What is decoded from a text comes back from its encoding, unless a conjunction, disjunction
or fallback on the last level of the text has left its list out. Then it never comes back. -/
theorem decode_encode_of_decode (text : String) :
    (∀ f, Filter.decode text = .ok f → ∃ e, Expr.ofText text = .ok e ∧
      Filter.decode f.encode =
        if (e.nodesAt 64).any Expr.omitsList then .error (.malformed f.encode .tooDeep)
        else .ok f) ∧
    (∀ s, Selector.decode text = .ok s → ∃ e, Expr.ofText text = .ok e ∧
      Selector.decode s.encode =
        if (e.nodesAt 64).any Expr.omitsList then .error (.malformed s.encode .tooDeep)
        else .ok s) := by
  constructor
  · intro f h
    obtain ⟨e, hsource, hf⟩ := Filter.decode_eq_ok_iff.1 h
    have he : Expr.ofText text = .ok e := (Expr.ofSource_eq_ok_iff.1 hsource).2
    have hn : f.nesting ≤ maxNesting ↔ ¬(e.nodesAt 64).any Expr.omitsList :=
      (Filter.nesting_le_iff_of_ofExprAt hf maxNesting).trans
        (Expr.staysWithin_maxNesting_iff he)
    refine ⟨e, he, ?_⟩
    rw [f.decode_encode_eq_ite, Filter.trimmed_of_ofExprAt hf]
    simp only [hn, ite_not]
  · intro s h
    obtain ⟨e, hsource, hs⟩ := Selector.decode_eq_ok_iff.1 h
    have he : Expr.ofText text = .ok e := (Expr.ofSource_eq_ok_iff.1 hsource).2
    have hn : s.nesting ≤ maxNesting ↔ ¬(e.nodesAt 64).any Expr.omitsList :=
      (Selector.nesting_le_iff_of_ofExprAt hs maxNesting).trans
        (Expr.staysWithin_maxNesting_iff he)
    refine ⟨e, he, ?_⟩
    rw [s.decode_encode_eq_ite, Selector.trimmed_of_ofExprAt hs]
    simp only [hn, ite_not]

/-- Far from the last level a list that is left out, or nil, does no harm. -/
theorem decode_encode_or_of_omitted :
    let text := "(or :filters [(and), (not :filter (orFilter :filters nil))])"
    let f : Filter := .or [.and [], .not (.or [])]
    Filter.decode text = .ok f ∧ Filter.decode f.encode = .ok f := by
  intro text f
  let e : Expr := .node "or" [("filters", .list [.expr (.node "and" []),
    .expr (.node "not" [("filter", .expr (.node "orFilter" [("filters", .nil)]))])])]
  have hread : Expr.ofText text = .ok e := by cbv
  have hf : Filter.ofExprAt maxNesting e = .ok f := rfl
  have h : Filter.decode text = .ok f :=
    Filter.decode_eq_ok_iff.2 ⟨e, Expr.ofSource_eq_ok_iff.2 ⟨by decide, hread⟩, hf⟩
  obtain ⟨e', he', hencode⟩ := (decode_encode_of_decode text).1 f h
  obtain rfl : e = e' := Except.ok.inj (hread.symm.trans he')
  rw [if_neg (by decide)] at hencode
  exact ⟨h, hencode⟩

/-- `n` negations around a filter. -/
def Filter.negated : Nat → Filter → Filter
  | 0, f => f
  | n + 1, f => .not (negated n f)

@[simp] theorem Filter.nesting_negated (n : Nat) (f : Filter) :
    (f.negated n).nesting = n + f.nesting := by
  induction n with
  | zero => simp [negated]
  | succ n ih =>
      rw [negated, nesting, ih]
      omega

theorem Filter.ofExprAt_negated {n m : Nat} {e : Expr} {f : Filter}
    (h : ofExprAt m e = .ok f) : ofExprAt (m + n) (Expr.negated n e) = .ok (f.negated n) := by
  induction n with
  | zero => exact h
  | succ n ih =>
      have hfits : (Expr.node Kind.not.form.tag
          [("filter", .expr (Expr.negated n e))]).Fits Kind.not.form :=
        Expr.fits_node rfl (by decide)
      exact ofExprAt_succ_eq_ok_iff.2 (.not hfits rfl ih)

/-- Sixty-three negations leave one level, enough for a conjunction without its list and not for
one with an empty list. -/
theorem decode_encode_negated_and :
    let text := (Expr.negated 63 (.node "and" [])).text
    let f := Filter.negated 63 (.and [])
    Filter.decode text = .ok f ∧
      Filter.decode f.encode = .error (.malformed f.encode .tooDeep) := by
  intro text f
  have hnames : (Expr.negated 63 (.node "and" [])).IsWellNamed :=
    Expr.isWellNamed_negated_iff.2 (by decide)
  have hsource : Expr.ofSource text = .ok (Expr.negated 63 (.node "and" [])) := by
    rw [Expr.ofSource_text hnames, if_pos]
    rw [Expr.nesting_negated]
    decide
  have hleaf : Filter.ofExprAt 1 (.node "and" []) = .ok (.and []) := rfl
  have hf : Filter.ofExprAt (1 + 63) (Expr.negated 63 (.node "and" [])) = .ok f :=
    Filter.ofExprAt_negated hleaf
  refine ⟨Filter.decode_eq_ok_iff.2 ⟨_, hsource, hf⟩, ?_⟩
  rw [Filter.decode_encode_eq_ite, if_neg]
  rw [Filter.nesting_negated]
  decide

end BuildPicker
