import BuildPicker.Proofs.Codec.Meaning
import BuildPicker.Proofs.Codec.Reencoding
import BuildPicker.Proofs.Expr.Filling

/-!
Filters and selectors whose texts are expanded.

Expanding the text of a filter or selector puts its templates and parameters in
their expanded form. With harmless values nothing else happens: the same kinds of
filters and selectors are put together in the same way.
-/

namespace BuildPicker

open BuildPicker.Text

/-! ### Templates in their expanded form -/

section

variable (vars : Variables)

mutual

/-- The filter with its templates and parameters expanded. -/
def Filter.filled : Filter → Filter
  | .acceptAll => .acceptAll
  | .displayName template => .displayName (trim (vars.expand template))
  | .and filters => .and (Filter.filledAll filters)
  | .or filters => .or (Filter.filledAll filters)
  | .not filter => .not filter.filled
  | .parameterized parameter => .parameterized (vars.expand parameter)

def Filter.filledAll : List Filter → List Filter
  | [] => []
  | f :: fs => f.filled :: Filter.filledAll fs

end

mutual

/-- The selector with its templates and parameters, and those of its filters, expanded. -/
def Selector.filled : Selector → Selector
  | .buildNumber template => .buildNumber (trim (vars.expand template))
  | .displayName template => .displayName (trim (vars.expand template))
  | .permalink template => .permalink (trim (vars.expand template))
  | .status s => .status s
  | .triggering dependencies strategy => .triggering dependencies strategy
  | .fallback entries => .fallback (Selector.filledAll entries)
  | .parameterized parameter => .parameterized (vars.expand parameter)

def Selector.filledAll : List (Selector × Filter) → List (Selector × Filter)
  | [] => []
  | (s, f) :: entries => (s.filled, f.filled vars) :: Selector.filledAll entries

end

theorem Filter.filledAll_eq_map (fs : List Filter) : filledAll vars fs = fs.map (filled vars) := by
  induction fs with
  | nil => rfl
  | cons f fs ih => rw [filledAll, ih, List.map_cons]

theorem Selector.filledAll_eq_map (entries : List (Selector × Filter)) :
    filledAll vars entries = entries.map (Prod.map (filled vars) (Filter.filled vars)) := by
  induction entries with
  | nil => rfl
  | cons entry entries ih =>
      rw [filledAll, ih, List.map_cons]
      rfl

end

/-! ### Fields with other strings -/

namespace Expr

variable {g : String → String} {e : Expr} {key : String}

theorem tag_mapStrings (g : String → String) (e : Expr) : (e.mapStrings g).tag = e.tag := by
  cases e
  rfl

theorem args_mapStrings (g : String → String) (e : Expr) :
    (e.mapStrings g).args = e.args.map (Prod.map id (Value.mapStrings g)) := by
  cases e
  exact mapArgs_eq_map g _

theorem keys_mapStrings (g : String → String) (e : Expr) : (e.mapStrings g).keys = e.keys := by
  rw [keys, args_mapStrings, List.map_map]
  rfl

theorem Fits.mapStrings {form : Form} (h : e.Fits form) (g : String → String) :
    (e.mapStrings g).Fits form where
  tag := by
    rw [tag_mapStrings]
    exact h.tag
  known := by
    rw [keys_mapStrings]
    exact h.known
  distinct := by
    rw [keys_mapStrings]
    exact h.distinct

theorem get?_mapStrings (g : String → String) (e : Expr) (key : String) :
    (e.mapStrings g).get? key = (e.get? key).map (Value.mapStrings g) := by
  rw [get?, get?, args_mapStrings]
  induction e.args with
  | nil => rfl
  | cons arg args ih =>
      rw [List.map_cons, List.lookup_cons, List.lookup_cons, ih, Prod.map_fst, id]
      cases key == arg.1 with
      | true => rfl
      | false => rfl

theorem field?_mapStrings (g : String → String) (e : Expr) (key : String) :
    (e.mapStrings g).field? key = (e.field? key).map (Value.mapStrings g) := by
  rw [field?, field?, get?_mapStrings]
  cases e.get? key with
  | none => rfl
  | some v => cases v <;> rfl

theorem HasList.mapStrings {es : List Expr} (h : e.HasList key es) (g : String → String) :
    (e.mapStrings g).HasList key (es.map (Expr.mapStrings g)) := by
  rw [HasList, field?_mapStrings]
  rcases h with ⟨hnone, rfl⟩ | hitems
  · exact .inl ⟨congrArg _ hnone, rfl⟩
  · right
    rw [hitems, Option.map_some, Value.mapStrings, mapItems_eq_map, List.map_map, List.map_map]
    rfl

theorem HasBoolean.mapStrings {absent b : Bool} (h : e.HasBoolean key absent b)
    (g : String → String) : (e.mapStrings g).HasBoolean key absent b := by
  rw [HasBoolean, field?_mapStrings]
  rcases h with ⟨hnone, rfl⟩ | hb
  · exact .inl ⟨congrArg _ hnone, rfl⟩
  · exact .inr (congrArg _ hb)

/-- Names of choices stay if they are left as they are. -/
theorem HasChoice.mapStrings {α : Type} {absent a : α} {ofName? : String → Option α}
    (h : e.HasChoice key absent ofName? a) (hname : ∀ s, ofName? s = some a → g s = s) :
    (e.mapStrings g).HasChoice key absent ofName? a := by
  rw [HasChoice, field?_mapStrings]
  rcases h with ⟨hnone, rfl⟩ | ⟨s, hs, ha⟩
  · exact .inl ⟨congrArg _ hnone, rfl⟩
  · right
    rw [hs, Option.map_some, Value.mapStrings, hname s ha]
    exact ⟨s, rfl, ha⟩

theorem field?_mapStrings_string {s : String} (h : e.field? key = some (.string s))
    (g : String → String) : (e.mapStrings g).field? key = some (.string (g s)) := by
  rw [field?_mapStrings, h]
  rfl

theorem field?_mapStrings_expr {inner : Expr} (h : e.field? key = some (.expr inner))
    (g : String → String) : (e.mapStrings g).field? key = some (.expr (inner.mapStrings g)) := by
  rw [field?_mapStrings, h]
  rfl

end Expr

/-! ### What the expressions stand for -/

theorem notMem_dollar_of_numeral (i : Int) : '$' ∉ (numeralText i).toList := by
  rw [numeralText, String.toList_ofList]
  exact (Expr.derivesNumber_numeral i).notMem_dollar

theorem Status.notMem_dollar_of_ofName? {s : String} {status : Status}
    (h : ofName? s = some status) : '$' ∉ s.toList := by
  have hname : lowerCase status.name = lowerCase s := by simpa using List.find?_some h
  intro hmem
  have hdollar : '$' ∈ lowerCase status.name := hname ▸ List.mem_map_of_mem hmem
  cases status <;> exact absurd hdollar (by decide)

theorem Strategy.notMem_dollar_of_ofName? {s : String} {strategy : Strategy}
    (h : ofName? s = some strategy) : '$' ∉ s.toList := by
  obtain rfl : strategy.name = s := by simpa using List.find?_some h
  cases strategy <;> decide

section

variable {vars : Variables}

/-- A field with a number is expanded like one with a template. -/
theorem Expr.HasTextOrInteger.mapStrings {e : Expr} {key s : String}
    (h : e.HasTextOrInteger key s) :
    (e.mapStrings vars.expand).HasTextOrInteger key (vars.expand s) := by
  rcases h with hs | ⟨i, hi, rfl⟩
  · exact .inl (field?_mapStrings_string hs _)
  · rw [vars.expand_of_not_mem (notMem_dollar_of_numeral _)]
    refine .inr ⟨i, ?_, rfl⟩
    rw [field?_mapStrings, hi]
    rfl

theorem Filter.Denotes.filled {R R' : Expr → Filter → Prop} {e : Expr} {f : Filter}
    (h : Denotes R e f)
    (himp : ∀ inner g, R inner g → R' (inner.mapStrings vars.expand) (g.filled vars)) :
    Denotes R' (e.mapStrings vars.expand) (f.filled vars) := by
  have hall {es : List Expr} {fs : List Filter} (h : List.Forall₂ R es fs) :
      List.Forall₂ R' (es.map (Expr.mapStrings vars.expand)) (filledAll vars fs) := by
    rw [filledAll_eq_map, List.forall₂_map_left_iff, List.forall₂_map_right_iff]
    exact h.imp himp
  cases h with
  | acceptAll hfits => exact .acceptAll (hfits.mapStrings _)
  | displayName hfits hname =>
      rw [Filter.filled, ← vars.trim_expand]
      exact .displayName (hfits.mapStrings _) (Expr.field?_mapStrings_string hname _)
  | and hfits hes hfs => exact .and (hfits.mapStrings _) (hes.mapStrings _) (hall hfs)
  | or hfits hes hfs => exact .or (hfits.mapStrings _) (hes.mapStrings _) (hall hfs)
  | not hfits hnested hf =>
      exact .not (hfits.mapStrings _) (Expr.field?_mapStrings_expr hnested _) (himp _ _ hf)
  | parameterized hfits hparameter =>
      exact .parameterized (hfits.mapStrings _) (Expr.field?_mapStrings_string hparameter _)

theorem Filter.StandsFor.filled {e : Expr} {f : Filter} (h : StandsFor e f) :
    StandsFor (e.mapStrings vars.expand) (f.filled vars) := by
  induction h with
  | intro _ outside ih => exact standsFor_iff.2 (outside.filled ih)

theorem Selector.EntryDenotes.filled {S S' : Expr → Selector → Prop} {R R' : Expr → Filter → Prop}
    {e : Expr} {entry : Selector × Filter} (h : EntryDenotes S R e entry)
    (hselector : ∀ inner s, S inner s → S' (inner.mapStrings vars.expand) (s.filled vars))
    (hfilter : ∀ inner f, R inner f → R' (inner.mapStrings vars.expand) (f.filled vars)) :
    EntryDenotes S' R' (e.mapStrings vars.expand) (entry.1.filled vars, entry.2.filled vars) := by
  cases h with
  | plain hfits hinner hs hnone =>
      refine .plain (hfits.mapStrings _) (Expr.field?_mapStrings_expr hinner _)
        (hselector _ _ hs) ?_
      rw [Expr.field?_mapStrings, hnone]
      rfl
  | filtered hfits hinner hs hnarrowing hf =>
      exact .filtered (hfits.mapStrings _) (Expr.field?_mapStrings_expr hinner _)
        (hselector _ _ hs) (Expr.field?_mapStrings_expr hnarrowing _) (hfilter _ _ hf)

theorem Selector.Denotes.filled {E E' : Expr → Selector × Filter → Prop} {e : Expr} {s : Selector}
    (h : Denotes E e s)
    (himp : ∀ inner entry, E inner entry →
      E' (inner.mapStrings vars.expand) (entry.1.filled vars, entry.2.filled vars)) :
    Denotes E' (e.mapStrings vars.expand) (s.filled vars) := by
  cases h with
  | buildNumber hfits hnumber =>
      rw [Selector.filled, ← vars.trim_expand]
      exact .buildNumber (hfits.mapStrings _) hnumber.mapStrings
  | displayName hfits hname =>
      rw [Selector.filled, ← vars.trim_expand]
      exact .displayName (hfits.mapStrings _) (Expr.field?_mapStrings_string hname _)
  | permalink hfits hid =>
      rw [Selector.filled, ← vars.trim_expand]
      exact .permalink (hfits.mapStrings _) (Expr.field?_mapStrings_string hid _)
  | status hfits hstatus =>
      exact .status (hfits.mapStrings _) (hstatus.mapStrings fun s hs =>
        vars.expand_of_not_mem (Status.notMem_dollar_of_ofName? hs))
  | triggering hfits hdependencies hstrategy =>
      exact .triggering (hfits.mapStrings _) (hdependencies.mapStrings _)
        (hstrategy.mapStrings fun s hs =>
          vars.expand_of_not_mem (Strategy.notMem_dollar_of_ofName? hs))
  | fallback hfits hes hentries =>
      refine .fallback (hfits.mapStrings _) (hes.mapStrings _) ?_
      rw [filledAll_eq_map, List.forall₂_map_left_iff, List.forall₂_map_right_iff]
      exact hentries.imp himp
  | parameterized hfits hparameter =>
      exact .parameterized (hfits.mapStrings _) (Expr.field?_mapStrings_string hparameter _)

theorem Selector.StandsFor.filled {e : Expr} {s : Selector} (h : StandsFor e s) :
    StandsFor (e.mapStrings vars.expand) (s.filled vars) := by
  induction h with
  | intro _ outside ih =>
      refine standsFor_iff.2 (outside.filled fun _ _ hentry => ?_)
      exact hentry.filled ih fun _ _ hf => hf.filled

end

/-! ### Expanded texts -/

section

variable {text : String}

/-- The depth of an expression that can be read is no obstacle. -/
theorem Filter.decode_eq_ok_iff_standsFor {f : Filter} : decode text = .ok f ↔
    ∃ e, Expr.DerivesText text e ∧ e.nesting ≤ maxNesting ∧ StandsFor e f := by
  rw [decode_eq_ok_iff]
  refine exists_congr fun e => ?_
  rw [Expr.ofSource_eq_ok_iff_derivesText, and_assoc]
  refine and_congr_right fun _ => and_congr_right fun hnesting => ?_
  exact ofExpr_eq_ok_iff_standsFor (e.depth_le_nesting.trans hnesting)

theorem Selector.decode_eq_ok_iff_standsFor {s : Selector} : decode text = .ok s ↔
    ∃ e, Expr.DerivesText text e ∧ e.nesting ≤ maxNesting ∧ StandsFor e s := by
  rw [decode_eq_ok_iff]
  refine exists_congr fun e => ?_
  rw [Expr.ofSource_eq_ok_iff_derivesText, and_assoc]
  refine and_congr_right fun _ => and_congr_right fun hnesting => ?_
  exact ofExpr_eq_ok_iff_standsFor (e.depth_le_nesting.trans hnesting)

variable {vars : Variables}

/-- With harmless values, an expanded text is decoded to the filter with its templates expanded. -/
theorem Filter.decode_expand {f : Filter} (h : decode text = .ok f)
    (hvars : vars.IsHarmless text.toList) : decode (vars.expand text) = .ok (f.filled vars) := by
  obtain ⟨e, he, hnesting, hf⟩ := decode_eq_ok_iff_standsFor.1 h
  rw [← e.nesting_mapStrings vars.expand] at hnesting
  exact decode_eq_ok_iff_standsFor.2 ⟨_, he.expand hvars, hnesting, hf.filled⟩

/-- With harmless values, an expanded text is decoded to the selector with its templates
expanded. -/
theorem Selector.decode_expand {s : Selector} (h : decode text = .ok s)
    (hvars : vars.IsHarmless text.toList) : decode (vars.expand text) = .ok (s.filled vars) := by
  obtain ⟨e, he, hnesting, hs⟩ := decode_eq_ok_iff_standsFor.1 h
  rw [← e.nesting_mapStrings vars.expand] at hnesting
  exact decode_eq_ok_iff_standsFor.2 ⟨_, he.expand hvars, hnesting, hs.filled⟩

end

end BuildPicker
