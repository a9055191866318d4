import BuildPicker.Codec.Selector
import BuildPicker.Proofs.Codec.Filter
import Mathlib.Data.Nat.Init

/-!
What the decoder of selectors accepts, and what it makes of a selector that was written.

The account is the one of filters, with one more relation for the entries of a
fallback. An entry is a level of its own, between the list of entries and the
selector and the filter that it holds.
-/

namespace BuildPicker

open BuildPicker.Text

/-! ### Names of choices -/

theorem Status.ofName?_name (status : Status) : Status.ofName? status.name = some status := by
  cases status <;> decide

theorem Strategy.ofName?_name (strategy : Strategy) :
    Strategy.ofName? strategy.name = some strategy := by
  cases strategy <;> decide

namespace Selector

@[elab_as_elim]
theorem induction {P : Selector → Prop} (buildNumber : ∀ template, P (.buildNumber template))
    (displayName : ∀ template, P (.displayName template))
    (permalink : ∀ template, P (.permalink template)) (status : ∀ status, P (.status status))
    (triggering : ∀ dependencies strategy, P (.triggering dependencies strategy))
    (fallback : ∀ entries, (∀ entry ∈ entries, P entry.1) → P (.fallback entries))
    (parameterized : ∀ parameter, P (.parameterized parameter)) (s : Selector) : P s :=
  @Selector.rec P (fun entries => ∀ entry ∈ entries, P entry.1) (fun entry => P entry.1)
    buildNumber displayName permalink status triggering fallback parameterized
    (by simp) (fun _ _ hentry hentries => List.forall_mem_cons.2 ⟨hentry, hentries⟩)
    (fun _ _ hs => hs) s

/-! ### Tags -/

namespace Kind

theorem mem_all (kind : Kind) : kind ∈ all := by
  cases kind <;> decide

theorem tags_disjoint :
    ∀ a ∈ all, ∀ b ∈ all, ∀ t ∈ a.form.tags, t ∈ b.form.tags → a = b := by
  decide

theorem ofTag?_eq_some_iff {tag : String} {kind : Kind} :
    ofTag? tag = some kind ↔ kind.form.answersTo tag :=
  Form.find?_eq_some_iff mem_all tags_disjoint

theorem isWellNamed_form (kind : Kind) : kind.form.IsWellNamed := by
  cases kind <;> decide

end Kind

/-! ### Accepted expressions -/

/-- The entry that an expression stands for, where `S` and `R` say it of the selector and the
filter inside. -/
inductive EntryDenotes (S : Expr → Selector → Prop) (R : Expr → Filter → Prop) (e : Expr) :
    Selector × Filter → Prop
  | plain {inner : Expr} {s : Selector} : e.Fits entryForm →
      e.field? "selector" = some (.expr inner) → S inner s → e.field? "filter" = none →
      EntryDenotes S R e (s, .acceptAll)
  | filtered {inner narrowing : Expr} {s : Selector} {f : Filter} : e.Fits entryForm →
      e.field? "selector" = some (.expr inner) → S inner s →
      e.field? "filter" = some (.expr narrowing) → R narrowing f → EntryDenotes S R e (s, f)

theorem entryOfExprWith_eq_ok_iff {selector : Expr → Except DecodeError Selector}
    {filter : Expr → Except DecodeError Filter} {e : Expr} {entry : Selector × Filter} :
    entryOfExprWith selector filter e = .ok entry ↔
      EntryDenotes (fun e s => selector e = .ok s) (fun e f => filter e = .ok f) e entry := by
  constructor
  · intro h
    unfold entryOfExprWith at h
    split at h
    · next htag =>
        obtain ⟨_, hfields, h⟩ := Except.bind_eq_ok_iff.1 h
        obtain ⟨inner, hinner, h⟩ := Except.bind_eq_ok_iff.1 h
        obtain ⟨s, hs, h⟩ := Except.bind_eq_ok_iff.1 h
        have hfits : e.Fits entryForm := Expr.fits_iff.2 ⟨htag, hfields⟩
        have hselector := Expr.exprField_eq_ok_iff.1 hinner
        split at h
        · next hnone =>
            cases h
            exact .plain hfits hselector hs hnone
        · obtain ⟨narrowing, hnarrowing, h⟩ := Except.bind_eq_ok_iff.1 h
          obtain ⟨f, hf, h⟩ := Except.bind_eq_ok_iff.1 h
          cases h
          exact .filtered hfits hselector hs (Expr.exprField_eq_ok_iff.1 hnarrowing) hf
    · cases h
  · intro h
    unfold entryOfExprWith
    cases h with
    | plain hfits hselector hs hnone =>
        simp only [hfits.tag, hfits.checkFields_eq, Except.ok_bind, if_true,
          Expr.exprField_eq_ok_iff.2 hselector, hs, hnone]
        rfl
    | filtered hfits hselector hs hfilter hf =>
        simp only [hfits.tag, hfits.checkFields_eq, Except.ok_bind, if_true,
          Expr.exprField_eq_ok_iff.2 hselector, hs, hfilter,
          Expr.exprField_eq_ok_iff.2 hfilter, hf]
        rfl

/-- The selector that an expression stands for, where `E` says it of the entries inside. -/
inductive Denotes (E : Expr → Selector × Filter → Prop) (e : Expr) : Selector → Prop
  | buildNumber {number : String} : e.Fits Kind.buildNumber.form →
      e.HasTextOrInteger "number" number → Denotes E e (.buildNumber (trim number))
  | displayName {name : String} : e.Fits Kind.displayName.form →
      e.field? "name" = some (.string name) → Denotes E e (.displayName (trim name))
  | permalink {id : String} : e.Fits Kind.permalink.form →
      e.field? "id" = some (.string id) → Denotes E e (.permalink (trim id))
  | status {status : Status} : e.Fits Kind.status.form →
      e.HasChoice "build-status" .stable Status.ofName? status → Denotes E e (.status status)
  | triggering {dependencies : Bool} {strategy : Strategy} : e.Fits Kind.triggering.form →
      e.HasBoolean "allow-upstream-dependencies" false dependencies →
      e.HasChoice "upstream-strategy" .globalSetting Strategy.ofName? strategy →
      Denotes E e (.triggering dependencies strategy)
  | fallback {es : List Expr} {entries : List (Selector × Filter)} :
      e.Fits Kind.fallback.form → e.HasList "entries" es → List.Forall₂ E es entries →
      Denotes E e (.fallback entries)
  | parameterized {parameter : String} : e.Fits Kind.parameterized.form →
      e.field? "parameter" = some (.string parameter) →
      Denotes E e (.parameterized parameter)

theorem denotes_of_ofExprWith {entry : Expr → Except DecodeError (Selector × Filter)} {e : Expr}
    {s : Selector} (h : ofExprWith entry e = .ok s) :
    Denotes (fun e p => entry e = .ok p) e s := by
  unfold ofExprWith at h
  split at h
  · cases h
  · next kind htag =>
      obtain ⟨_, hfields, h⟩ := Except.bind_eq_ok_iff.1 h
      have hfits : e.Fits kind.form :=
        Expr.fits_iff.2 ⟨Kind.ofTag?_eq_some_iff.1 htag, hfields⟩
      cases kind with
      | buildNumber =>
          obtain ⟨number, hnumber, h⟩ := Except.bind_eq_ok_iff.1 h
          cases h
          exact .buildNumber hfits (Expr.textOrIntegerField_eq_ok_iff.1 hnumber)
      | displayName =>
          obtain ⟨name, hname, h⟩ := Except.bind_eq_ok_iff.1 h
          cases h
          exact .displayName hfits (Expr.textField_eq_ok_iff.1 hname)
      | permalink =>
          obtain ⟨id, hid, h⟩ := Except.bind_eq_ok_iff.1 h
          cases h
          exact .permalink hfits (Expr.textField_eq_ok_iff.1 hid)
      | status =>
          obtain ⟨status, hstatus, h⟩ := Except.bind_eq_ok_iff.1 h
          cases h
          exact .status hfits (Expr.choiceFieldOr_eq_ok_iff.1 hstatus)
      | triggering =>
          obtain ⟨dependencies, hdependencies, h⟩ := Except.bind_eq_ok_iff.1 h
          obtain ⟨strategy, hstrategy, h⟩ := Except.bind_eq_ok_iff.1 h
          cases h
          exact .triggering hfits (Expr.booleanFieldOr_eq_ok_iff.1 hdependencies)
            (Expr.choiceFieldOr_eq_ok_iff.1 hstrategy)
      | fallback =>
          obtain ⟨es, hes, h⟩ := Except.bind_eq_ok_iff.1 h
          obtain ⟨entries, hentries, h⟩ := Except.bind_eq_ok_iff.1 h
          cases h
          exact .fallback hfits (Expr.exprsField_eq_ok_iff.1 hes)
            (decodeAll_eq_ok_iff.1 hentries)
      | parameterized =>
          obtain ⟨parameter, hparameter, h⟩ := Except.bind_eq_ok_iff.1 h
          cases h
          exact .parameterized hfits (Expr.textField_eq_ok_iff.1 hparameter)

theorem Denotes.ofExprWith_eq {entry : Expr → Except DecodeError (Selector × Filter)} {e : Expr}
    {s : Selector} (h : Denotes (fun e p => entry e = .ok p) e s) :
    ofExprWith entry e = .ok s := by
  have htag {kind : Kind} (hfits : e.Fits kind.form) : Kind.ofTag? e.tag = some kind :=
    Kind.ofTag?_eq_some_iff.2 hfits.tag
  unfold ofExprWith
  cases h with
  | buildNumber hfits hnumber =>
      simp only [htag hfits, hfits.checkFields_eq, Except.ok_bind,
        Expr.textOrIntegerField_eq_ok_iff.2 hnumber]
      rfl
  | displayName hfits hname =>
      simp only [htag hfits, hfits.checkFields_eq, Except.ok_bind,
        Expr.textField_eq_ok_iff.2 hname]
      rfl
  | permalink hfits hid =>
      simp only [htag hfits, hfits.checkFields_eq, Except.ok_bind, Expr.textField_eq_ok_iff.2 hid]
      rfl
  | status hfits hstatus =>
      simp only [htag hfits, hfits.checkFields_eq, Except.ok_bind,
        Expr.choiceFieldOr_eq_ok_iff.2 hstatus]
      rfl
  | triggering hfits hdependencies hstrategy =>
      simp only [htag hfits, hfits.checkFields_eq, Except.ok_bind,
        Expr.booleanFieldOr_eq_ok_iff.2 hdependencies,
        Expr.choiceFieldOr_eq_ok_iff.2 hstrategy]
      rfl
  | fallback hfits hes hentries =>
      simp only [htag hfits, hfits.checkFields_eq, Except.ok_bind,
        Expr.exprsField_eq_ok_iff.2 hes, decodeAll_eq_ok_iff.2 hentries]
      rfl
  | parameterized hfits hparameter =>
      simp only [htag hfits, hfits.checkFields_eq, Except.ok_bind,
        Expr.textField_eq_ok_iff.2 hparameter]
      rfl

theorem ofExprWith_eq_ok_iff {entry : Expr → Except DecodeError (Selector × Filter)} {e : Expr}
    {s : Selector} : ofExprWith entry e = .ok s ↔ Denotes (fun e p => entry e = .ok p) e s :=
  ⟨denotes_of_ofExprWith, Denotes.ofExprWith_eq⟩

theorem ofExprAt_one_eq_ok_iff {e : Expr} {s : Selector} :
    ofExprAt 1 e = .ok s ↔ Denotes (fun _ _ => False) e s := by
  rw [ofExprAt, ofExprWith_eq_ok_iff]
  simp only [reduceCtorEq]

theorem ofExprAt_add_two_eq_ok_iff {n : Nat} {e : Expr} {s : Selector} :
    ofExprAt (n + 2) e = .ok s ↔
      Denotes (EntryDenotes (fun e s => ofExprAt n e = .ok s)
        fun e f => Filter.ofExprAt n e = .ok f) e s := by
  rw [ofExprAt, ofExprWith_eq_ok_iff]
  simp only [entryOfExprWith_eq_ok_iff]

/-! ### Written selectors -/

mutual

/-- How many levels of expressions and lists a written selector opens. -/
def nesting : Selector → Nat
  | buildNumber _ | displayName _ | permalink _ | status _ | triggering _ _
  | parameterized _ => 1
  | fallback entries => nestingAll entries + 2

def nestingAll : List (Selector × Filter) → Nat
  | [] => 0
  | (s, f) :: entries => max (max s.nesting f.nesting + 1) (nestingAll entries)

end

mutual

/-- The selector without the white space around its templates and the display names of its
filters. -/
def trimmed : Selector → Selector
  | buildNumber template => buildNumber (trim template)
  | displayName template => displayName (trim template)
  | permalink template => permalink (trim template)
  | status s => status s
  | triggering dependencies strategy => triggering dependencies strategy
  | fallback entries => fallback (trimmedAll entries)
  | parameterized parameter => parameterized parameter

def trimmedAll : List (Selector × Filter) → List (Selector × Filter)
  | [] => []
  | (s, f) :: entries => (s.trimmed, f.trimmed) :: trimmedAll entries

end

/-- The expression of one entry of a fallback. -/
def entryToExpr (entry : Selector × Filter) : Expr :=
  .node entryForm.tag [("selector", .expr entry.1.toExpr), ("filter", .expr entry.2.toExpr)]

theorem toValues_eq_map (entries : List (Selector × Filter)) :
    toValues entries = (entries.map entryToExpr).map .expr := by
  induction entries with
  | nil => rfl
  | cons entry entries ih => simp [toValues, entryToExpr, ih]

theorem trimmedAll_eq_map (entries : List (Selector × Filter)) :
    trimmedAll entries = entries.map fun entry => (entry.1.trimmed, entry.2.trimmed) := by
  induction entries with
  | nil => rfl
  | cons entry entries ih => simp [trimmedAll, ih]

theorem nestingAll_le_iff {entries : List (Selector × Filter)} {n : Nat} :
    nestingAll entries ≤ n ↔
      ∀ entry ∈ entries, entry.1.nesting < n ∧ entry.2.nesting < n := by
  induction entries with
  | nil => simp [nestingAll]
  | cons entry entries ih =>
      rw [nestingAll, List.forall_mem_cons, ← ih]
      omega

theorem nesting_pos (s : Selector) : 0 < s.nesting := by
  cases s <;> simp [nesting]

theorem nesting_toExpr (s : Selector) : s.toExpr.nesting = s.nesting := by
  have hall {entries : List (Selector × Filter)}
      (ih : ∀ entry ∈ entries, entry.1.toExpr.nesting = entry.1.nesting) :
      itemsNesting (toValues entries) = nestingAll entries := by
    induction entries with
    | nil => rfl
    | cons entry entries ihs =>
        obtain ⟨hs, hentries⟩ := List.forall_mem_cons.1 ih
        simp only [toValues, itemsNesting, nestingAll, Value.nesting, Expr.nesting,
          argsNesting, hs, ihs hentries, Filter.nesting_toExpr]
        omega
  induction s using Selector.induction with
  | buildNumber | displayName | permalink | status | triggering | parameterized =>
      simp [toExpr, nesting, Expr.nesting, argsNesting, Value.nesting]
  | fallback entries ih =>
      simp [toExpr, nesting, Expr.nesting, argsNesting, Value.nesting, hall ih]

theorem isWellNamed_toExpr (s : Selector) : s.toExpr.IsWellNamed := by
  have hentry {entry : Selector × Filter} (hs : entry.1.toExpr.IsWellNamed) :
      (entryToExpr entry).IsWellNamed := by
    refine Expr.isWellNamed_node_of_form (by decide) rfl ?_
    rw [List.forall_mem_cons, List.forall_mem_singleton]
    exact ⟨hs, Filter.isWellNamed_toExpr entry.2⟩
  have hnode {kind : Kind} {key : String} {v : Value} (hfields : kind.form.fields = [key])
      (hv : v.IsWellNamed) : (Expr.node kind.form.tag [(key, v)]).IsWellNamed :=
    Expr.isWellNamed_node_of_form kind.isWellNamed_form (by simp [hfields])
      (List.forall_mem_singleton.2 hv)
  induction s using Selector.induction with
  | buildNumber | displayName | permalink | status | parameterized =>
      exact hnode rfl (Value.isWellNamed_string _)
  | triggering dependencies strategy =>
      refine Expr.isWellNamed_node_of_form (Kind.isWellNamed_form .triggering) rfl ?_
      rw [List.forall_mem_cons, List.forall_mem_singleton]
      exact ⟨Value.isWellNamed_boolean _, Value.isWellNamed_string _⟩
  | fallback entries ih =>
      refine hnode rfl ?_
      rw [Value.isWellNamed_list_iff, toValues_eq_map, List.map_map, List.forall_mem_map]
      exact fun entry hmem => hentry (ih entry hmem)

theorem hasList_toValues (tag : String) (entries : List (Selector × Filter)) :
    (Expr.node tag [("entries", .list (toValues entries))]).HasList "entries"
      (entries.map entryToExpr) := by
  rw [toValues_eq_map]
  exact .inr rfl

/-- A written selector says what it should as soon as the entries of a fallback do. -/
theorem denotes_toExpr {E : Expr → Selector × Filter → Prop} {s : Selector}
    (hentries : ∀ entries, s = fallback entries →
      List.Forall₂ E (entries.map entryToExpr) (trimmedAll entries)) :
    Denotes E s.toExpr s.trimmed := by
  cases s with
  | buildNumber template =>
      rw [trimmed, ← trim_trim]
      exact .buildNumber (Expr.fits_node rfl (by decide)) (.inl rfl)
  | displayName template =>
      rw [trimmed, ← trim_trim]
      exact .displayName (Expr.fits_node rfl (by decide)) rfl
  | permalink template =>
      rw [trimmed, ← trim_trim]
      exact .permalink (Expr.fits_node rfl (by decide)) rfl
  | status status =>
      exact .status (Expr.fits_node rfl (by decide)) (.inr ⟨_, rfl, status.ofName?_name⟩)
  | triggering dependencies strategy =>
      exact .triggering (Expr.fits_node rfl (by decide)) (.inr rfl)
        (.inr ⟨_, rfl, strategy.ofName?_name⟩)
  | fallback entries =>
      exact .fallback (Expr.fits_node rfl (by decide)) (hasList_toValues _ entries)
        (hentries entries rfl)
  | parameterized parameter => exact .parameterized (Expr.fits_node rfl (by decide)) rfl

/-- A written selector is read back up to the white space, if there are levels enough for it. -/
theorem ofExprAt_toExpr {s : Selector} {n : Nat} (hn : s.nesting ≤ n) :
    ofExprAt n s.toExpr = .ok s.trimmed := by
  induction n using Nat.twoStepInduction generalizing s with
  | zero => exact absurd hn (Nat.not_le_of_lt s.nesting_pos)
  | one =>
      -- On the last level there is no room for a fallback, whose list is a level of its own.
      refine ofExprAt_one_eq_ok_iff.2 (denotes_toExpr fun entries hs => ?_)
      rw [hs, nesting] at hn
      omega
  | more n ih _ =>
      refine ofExprAt_add_two_eq_ok_iff.2 (denotes_toExpr fun entries hs => ?_)
      rw [hs, nesting, Nat.add_le_add_iff_right, nestingAll_le_iff] at hn
      rw [trimmedAll_eq_map, List.forall₂_map_left_iff, List.forall₂_map_right_iff,
        List.forall₂_same]
      intro entry hentry
      obtain ⟨hselector, hfilter⟩ := hn entry hentry
      exact .filtered (Expr.fits_node rfl (by decide)) rfl (ih (Nat.le_of_lt hselector)) rfl
        (Filter.ofExprAt_toExpr (Nat.le_of_lt hfilter))

end Selector

end BuildPicker
