import BuildPicker.Proofs.Codec.Filling
import BuildPicker.Proofs.Selection.Parameters
import BuildPicker.Proofs.Selection.Substitution
import BuildPicker.Proofs.Selection.Unresolved

/-!
Filters and selectors that are written out in a parameter.

Such a text is expanded before it is decoded, and what it is decoded to has its
templates expanded once more. So values with quotes or backslashes can make another
filter or selector of it. With harmless values it is the one that was written, with
its templates expanded and trimmed. This makes no difference if trimming and expanding
once more does not change what the templates stand for.
-/

namespace BuildPicker

open BuildPicker.Text

/-! ### Templates that settle -/

namespace Variables

variable {vars : Variables} {template : String}

/-- Whether a template of a name that has been expanded means the same when it is trimmed and
expanded once more. -/
def SettlesName (vars : Variables) (template : String) : Prop :=
  let expanded := vars.expand template
  let again := vars.expand (trim expanded)
  again = expanded ∨ isUnresolved again = true ∧ isUnresolved expanded = true

/-- The same of a template of a number, of which the white space around an integer is no part. -/
def SettlesNumber (vars : Variables) (template : String) : Prop :=
  vars.SettlesName template ∨
    ((signed? (trim (vars.expand template)).toList).bind int64?).isSome = true

end Variables

/-- Whether nothing in a filter is read from a parameter. -/
inductive Filter.IsParameterFree : Filter → Prop
  | acceptAll : IsParameterFree .acceptAll
  | displayName (template : String) : IsParameterFree (.displayName template)
  | and {fs : List Filter} (hfs : ∀ f ∈ fs, IsParameterFree f) : IsParameterFree (.and fs)
  | or {fs : List Filter} (hfs : ∀ f ∈ fs, IsParameterFree f) : IsParameterFree (.or fs)
  | not {f : Filter} (hf : IsParameterFree f) : IsParameterFree (.not f)

/-- Whether all templates of a filter settle, and nothing in it is read from a parameter. -/
inductive Filter.Settles (vars : Variables) : Filter → Prop
  | acceptAll : Settles vars .acceptAll
  | displayName {template : String} (h : vars.SettlesName template) :
      Settles vars (.displayName template)
  | and {fs : List Filter} (hfs : ∀ f ∈ fs, Settles vars f) : Settles vars (.and fs)
  | or {fs : List Filter} (hfs : ∀ f ∈ fs, Settles vars f) : Settles vars (.or fs)
  | not {f : Filter} (hf : Settles vars f) : Settles vars (.not f)

/-- Whether all templates of a selector and of its filters settle, and nothing in it is read from
a parameter. -/
inductive Selector.Settles (vars : Variables) : Selector → Prop
  | buildNumber {template : String} (h : vars.SettlesNumber template) :
      Settles vars (.buildNumber template)
  | displayName {template : String} (h : vars.SettlesName template) :
      Settles vars (.displayName template)
  | permalink {template : String} (h : vars.SettlesName template) :
      Settles vars (.permalink template)
  | status (s : Status) : Settles vars (.status s)
  | triggering (dependencies : Bool) (strategy : Strategy) :
      Settles vars (.triggering dependencies strategy)
  | fallback {entries : List (Selector × Filter)} (hs : ∀ entry ∈ entries, Settles vars entry.1)
      (hf : ∀ entry ∈ entries, entry.2.Settles vars) : Settles vars (.fallback entries)

/-! ### Verdicts -/

namespace Filter

variable {vars : Variables} {f : Filter}

/-- Where no parameter is followed, it makes no difference how many may be. -/
theorem IsParameterFree.value_judge_eq (h : f.IsParameterFree) (levels levels' : Nat) (b : Build) :
    (judge vars levels b f).value = (judge vars levels' b f).value := by
  induction h with
  | acceptAll => rw [value_judge_acceptAll, value_judge_acceptAll]
  | displayName template => rw [value_judge_displayName, value_judge_displayName]
  | @and fs _ ih =>
      have hand : (judge vars levels b (.and (fs.map id))).value = _ := value_judge_and_map ih
      rwa [List.map_id] at hand
  | @or fs _ ih =>
      have hor : (judge vars levels b (.or (fs.map id))).value = _ := value_judge_or_map ih
      rwa [List.map_id] at hor
  | not _ ih => rw [value_judge_not, value_judge_not, ih]

theorem Settles.value_judge_filled (h : f.Settles vars) (levels levels' : Nat) (b : Build) :
    (judge vars levels b (f.filled vars)).value = (judge vars levels' b f).value := by
  induction h with
  | acceptAll => rw [filled, value_judge_acceptAll, value_judge_acceptAll]
  | displayName h =>
      rw [filled, value_judge_displayName, value_judge_displayName]
      rcases h with heq | ⟨hagain, hexpanded⟩
      · rw [heq]
      · rw [hagain, hexpanded, Bool.not_true, Bool.false_and, Bool.false_and]
  | and _ ih =>
      rw [filled, filledAll_eq_map]
      exact value_judge_and_map ih
  | or _ ih =>
      rw [filled, filledAll_eq_map]
      exact value_judge_or_map ih
  | not _ ih => rw [filled, value_judge_not, value_judge_not, ih]

end Filter

/-! ### Candidates -/

/-- Two bases on which selections go the same way if no parameter is followed. -/
structure Basis.Matches (basis basis' : Basis) : Prop where
  history : basis.history = basis'.history
  origin : basis.origin = basis'.origin
  vars : basis.vars = basis'.vars
  settings : basis.settings = basis'.settings
  accepts : basis.accepts = basis'.accepts

section

variable {basis basis' : Basis} {f f' : Filter}

/-- This remains so under two filters that come to the same verdicts. -/
theorem Basis.Matches.narrowedBy (h : basis.Matches basis')
    (hf : ∀ b, (basis.withFilter f).accepts b = (basis'.withFilter f').accepts b) :
    (basis.narrowedBy f).Matches (basis'.narrowedBy f') where
  history := h.history
  origin := h.origin
  vars := h.vars
  settings := h.settings
  accepts := by
    funext b
    rw [accepts_narrowedBy, accepts_narrowedBy, h.accepts, hf b]

theorem Basis.Matches.accepts_filled (h : basis.Matches basis') (hf : f.Settles basis'.vars)
    (b : Build) :
    (basis.withFilter (f.filled basis'.vars)).accepts b = (basis'.withFilter f).accepts b := by
  show (Filter.judge basis.vars basis.levels b (f.filled basis'.vars)).value = _
  rw [h.vars]
  exact hf.value_judge_filled basis.levels basis'.levels b

end

namespace Selector

variable {vars : Variables} {template : String} {job : Job}
  {nested nested' : Selector → Basis → Except SelectionError (List Build)}

theorem singleCandidate_filled (h : vars.SettlesName template)
    (lookup : String → Except SelectionError (Option Build)) :
    singleCandidate (trim (vars.expand template)) lookup vars =
      singleCandidate template lookup vars := by
  rcases h with heq | ⟨hagain, hexpanded⟩
  · rw [singleCandidate, singleCandidate, heq]
  · rw [singleCandidate, singleCandidate, if_pos hagain, if_pos hexpanded]

/-- White space around an integer is not even seen in an error. -/
theorem byNumber_trim {key : String}
    (h : ((signed? (trim key).toList).bind int64?).isSome = true) :
    byNumber job (trim key) = byNumber job key := by
  obtain ⟨i, hi⟩ := Option.isSome_iff_exists.1 h
  rw [byNumber, byNumber, trim_trim, hi]

theorem singleCandidate_byNumber_filled (h : vars.SettlesNumber template) :
    singleCandidate (trim (vars.expand template)) (byNumber job) vars =
      singleCandidate template (byNumber job) vars := by
  rcases h with hname | hnumber
  · exact singleCandidate_filled hname _
  · have htrimmed : '$' ∉ (trim (vars.expand template)).toList := by
      intro hmem
      rw [signed?_eq_none_of_mem hmem] at hnumber
      cases hnumber
    have hexpanded : '$' ∉ (vars.expand template).toList :=
      fun hmem => htrimmed (mem_trim_of_mem hmem (by decide))
    have hresolved {key : String} (hkey : '$' ∉ key.toList) : isUnresolved key = false :=
      decide_eq_false fun hhead => hkey (List.mem_of_mem_head? hhead)
    rw [singleCandidate, singleCandidate, vars.expand_of_not_mem htrimmed, hresolved htrimmed,
      hresolved hexpanded, byNumber_trim hnumber]

/-- Entries may be changed into others that have the same candidates and accept the same of them. -/
theorem firstSelection_map {change : Selector × Filter → Selector × Filter} {basis basis' : Basis}
    {entries : List (Selector × Filter)}
    (haccepts : ∀ entry ∈ entries, (basis.narrowedBy (change entry).2).accepts =
      (basis'.narrowedBy entry.2).accepts)
    (hcandidates : ∀ entry ∈ entries,
      candidatesWith nested job (change entry).1 (basis.narrowedBy (change entry).2) =
        candidatesWith nested' job entry.1 (basis'.narrowedBy entry.2)) :
    firstSelection nested job basis (entries.map change) =
      firstSelection nested' job basis' entries := by
  induction entries with
  | nil => rw [List.map_nil, firstSelection, firstSelection]
  | cons entry entries ih =>
      rcases List.forall_mem_cons.1 haccepts with ⟨haccept, haccepts⟩
      rcases List.forall_mem_cons.1 hcandidates with ⟨hcandidate, hcandidates⟩
      rw [List.map_cons, firstSelection_cons, firstSelection_cons, haccept, hcandidate,
        ih haccepts hcandidates]

/-- Where all templates settle, the filled selector has the candidates of the selector. -/
theorem Settles.candidatesWith_filled {s : Selector} (h : s.Settles vars) (job : Job) :
    ∀ basis basis' : Basis, basis'.vars = vars → basis.Matches basis' →
      candidatesWith nested job (s.filled vars) basis = candidatesWith nested' job s basis' := by
  induction h with
  | buildNumber h =>
      rintro basis basis' rfl hbasis
      rw [filled, candidatesWith, candidatesWith, hbasis.vars, singleCandidate_byNumber_filled h]
  | displayName h | permalink h =>
      rintro basis basis' rfl hbasis
      rw [filled, candidatesWith, candidatesWith, hbasis.vars, singleCandidate_filled h]
  | status s =>
      intro basis basis' _ _
      rw [filled, candidatesWith, candidatesWith]
  | triggering dependencies strategy =>
      intro basis basis' _ hbasis
      rw [filled, candidatesWith, candidatesWith, hbasis.history, hbasis.origin, hbasis.settings]
  | @fallback entries _ hf ih =>
      rintro basis basis' rfl hbasis
      have hnarrowed : ∀ entry ∈ entries, (basis.narrowedBy (entry.2.filled basis'.vars)).Matches
          (basis'.narrowedBy entry.2) :=
        fun entry hentry => hbasis.narrowedBy (hbasis.accepts_filled (hf entry hentry))
      rw [filled, filledAll_eq_map, candidatesWith, candidatesWith]
      congr 1
      apply firstSelection_map
      · exact fun entry hentry => (hnarrowed entry hentry).accepts
      · exact fun entry hentry => ih entry hentry _ _ rfl (hnarrowed entry hentry)

/-! ### Parameters that are expressions -/

section

variable {ctx : Context} {text : String} {s : Selector}

/-- A text that is expanded to an expression gives what this is decoded to. -/
theorem value_resolve_of_expand (hblank : isBlankText text = false)
    (hs : decode (vars.expand text) = .ok s) : (resolve vars text).value = some s := by
  obtain ⟨hdecode, hhead⟩ := decode_trim hs
  exact value_resolve_of_expression? (value_expression?_of_expand hblank rfl hhead) hdecode

theorem candidates_parameterized {levels : Nat} (hs : (resolve ctx.vars text).value = some s)
    (hlevels : ctx.levels = levels + 1) (job : Job) :
    (parameterized text).candidates job ctx.basis =
      candidatesAt job levels s { ctx.basis with levels := levels } := by
  have hvars : (resolve ctx.basis.vars text).value = some s := hs
  have hbasis : ctx.basis.levels = levels + 1 := hlevels
  rw [candidates, candidatesAt_eq, candidatesWith, hvars, hbasis]
  rfl

theorem Settles.value_result_select_parameterized {levels : Nat} (h : s.Settles ctx.vars)
    (hfilter : ctx.filter.IsParameterFree)
    (hs : (resolve ctx.vars text).value = some (s.filled ctx.vars))
    (hlevels : ctx.levels = levels + 1) (job : Job) :
    ((parameterized text).select job ctx).value.result = (s.select job ctx).value.result := by
  have hmatches : Basis.Matches { ctx.basis with levels := levels } ctx.basis :=
    ⟨rfl, rfl, rfl, rfl, funext fun b => hfilter.value_judge_eq levels ctx.levels b⟩
  rw [value_result_select, value_result_select, candidates_parameterized hs hlevels, candidates,
    candidatesAt_eq, candidatesAt_eq, h.candidatesWith_filled job _ _ rfl hmatches]

end

end Selector

namespace Context

variable {ctx : Context}

/-- A text that is expanded to one for a filter judges by this filter, one level deeper. -/
theorem accepts_parameterized_of_decode {levels : Nat} {text : String} {f : Filter}
    (hf : Filter.decode (ctx.vars.expand text) = .ok f) (hlevels : ctx.levels = levels + 1)
    (b : Build) : { ctx with filter := .parameterized text }.accepts b =
      { ctx with filter := f, levels := levels }.accepts b := by
  obtain ⟨e, htext, -⟩ := Filter.decode_eq_ok_iff_standsFor.1 hf
  rw [accepts_parameterized, htext.isBlankText_eq_false, Filter.isUnresolved_of_decode hf, hf,
    hlevels]
  rfl

/-- A text that can be decoded may be written out as a parameter. Where it refers to variables
without quotes and backslashes in their names and values, it is expanded to a text for the same
filter or selector with its templates expanded. If nothing in it is read from another parameter and
its templates settle, then the filter accepts the same builds, and the selector selects the same
build or fails in the same way. -/
theorem inlines_text {text : String} (hvars : ctx.vars.IsHarmless text.toList) :
    (∀ s, Selector.decode text = .ok s →
      Selector.decode (ctx.vars.expand text) = .ok (s.filled ctx.vars) ∧
      (s.Settles ctx.vars → ctx.filter.IsParameterFree → 0 < ctx.levels → ∀ job,
        ((Selector.parameterized text).select job ctx).value.result =
          (s.select job ctx).value.result)) ∧
    ∀ f, Filter.decode text = .ok f →
      Filter.decode (ctx.vars.expand text) = .ok (f.filled ctx.vars) ∧
      (f.Settles ctx.vars → 0 < ctx.levels → ∀ b,
        { ctx with filter := .parameterized text }.accepts b =
          { ctx with filter := f }.accepts b) := by
  constructor
  · intro s hs
    have hdecode := Selector.decode_expand hs hvars
    obtain ⟨e, htext, -⟩ := Selector.decode_eq_ok_iff_standsFor.1 hs
    have hresolve := Selector.value_resolve_of_expand htext.isBlankText_eq_false hdecode
    refine ⟨hdecode, fun hsettles hfilter hspare job => ?_⟩
    obtain ⟨levels, hlevels⟩ := Nat.exists_eq_add_one.2 hspare
    exact hsettles.value_result_select_parameterized hfilter hresolve hlevels job
  · intro f hf
    have hdecode := Filter.decode_expand hf hvars
    refine ⟨hdecode, fun hsettles hspare b => ?_⟩
    obtain ⟨levels, hlevels⟩ := Nat.exists_eq_add_one.2 hspare
    rw [accepts_parameterized_of_decode hdecode hlevels]
    exact hsettles.value_judge_filled levels ctx.levels b

/-- A number and a name with a variable in them. -/
theorem inlines_text_numbered :
    let ctx := { fresh .empty with vars := Table.empty.insert "N" "7" }
    let text := "(fallback :entries [(entry :selector (build-number :number \"$N\"))])"
    let text' := "(not :filter (display-name :name \"v$N\"))"
    let s := Selector.fallback [(.buildNumber "$N", .acceptAll)]
    let f := Filter.not (.displayName "v$N")
    0 < ctx.levels ∧ ctx.vars.IsHarmless text.toList ∧ ctx.vars.IsHarmless text'.toList ∧
      (Selector.decode text = .ok s ∧ s.Settles ctx.vars ∧ ctx.filter.IsParameterFree ∧
        ∀ job, ((Selector.parameterized text).select job ctx).value.result =
          (s.select job ctx).value.result) ∧
      Filter.decode text' = .ok f ∧ f.Settles ctx.vars ∧
        ∀ b, { ctx with filter := .parameterized text' }.accepts b =
          { ctx with filter := f }.accepts b := by
  intro ctx text text' s f
  have hvars : ctx.vars.IsHarmless text.toList := by decide +kernel
  have hvars' : ctx.vars.IsHarmless text'.toList := by decide +kernel
  have hs : Selector.decode text = .ok s := by decide +kernel
  have hf : Filter.decode text' = .ok f := by decide +kernel
  have hnumber : ctx.vars.SettlesNumber "$N" := .inr (by decide)
  have hfsettles : f.Settles ctx.vars := .not (.displayName (.inl (by decide)))
  have hssettles : s.Settles ctx.vars := by
    apply Selector.Settles.fallback
    · exact List.forall_mem_singleton.2 (.buildNumber hnumber)
    · exact List.forall_mem_singleton.2 .acceptAll
  have hspare : 0 < ctx.levels := by decide
  have hselects := ((inlines_text hvars).1 s hs).2 hssettles .acceptAll hspare
  have haccepts := ((inlines_text hvars').2 f hf).2 hfsettles hspare
  exact ⟨hspare, hvars, hvars', ⟨hs, hssettles, .acceptAll, hselects⟩, hf, hfsettles, haccepts⟩

/-- A value with quotes in it can add an entry to a fallback. Besides, a value may be trimmed once it
stands in a text, and the references in it are replaced as well. -/
theorem not_inlines_text :
    let binding (value : String) :=
      { fresh .empty with vars := (Table.empty.insert "M" "#1").insert "N" value }
    let b := Build.ofTriggers "app" 1 []
    let text := "(fallback :entries [(entry :selector (display-name :name \"$N\"))])"
    let s := Selector.fallback [(.displayName "$N", .acceptAll)]
    let quoted := binding "x\"))(entry :selector (status :build-status \"any"
    let s' := Selector.fallback [(.displayName "x", .acceptAll), (.status .any, .acceptAll)]
    let text' := "(display-name :name \"$N\")"
    let f := Filter.displayName "$N"
    Selector.decode text = .ok s ∧ Selector.decode (quoted.vars.expand text) = .ok s' ∧
      ((Selector.parameterized text).select (.ofBuild b) quoted).value.result = .ok (some b) ∧
      (s.select (.ofBuild b) quoted).value.result = .ok none ∧
      Filter.decode text' = .ok f ∧ ∀ value ∈ ["#1 ", "$M"],
        { binding value with filter := .parameterized text' }.accepts b = true ∧
        { binding value with filter := f }.accepts b = false := by
  intro binding b text s quoted s' text' f
  have hs : Selector.decode text = .ok s := by decide +kernel
  have hs' : Selector.decode (quoted.vars.expand text) = .ok s' := by decide +kernel
  have hresolve := Selector.value_resolve_of_expand (by decide) hs'
  refine ⟨hs, hs', ?_, by decide +kernel, by decide +kernel, by decide +kernel⟩
  rw [Selector.value_result_select, Selector.candidates_parameterized hresolve rfl]
  decide +kernel

end Context

end BuildPicker
