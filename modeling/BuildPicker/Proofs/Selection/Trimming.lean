import BuildPicker.Proofs.Codec.RoundTrip
import BuildPicker.Proofs.Selection.Substitution
import BuildPicker.Proofs.Selection.Unresolved
import BuildPicker.Proofs.Template.Spacing

/-!
Filters and selectors that are sent as texts.

What is read back from the text of a filter or selector has its templates trimmed.
Evaluation does not trim them, but for the white space around a number: a name is
compared with the expanded template as it stands. So a template of a name survives
only if there is nothing to trim, or if it is not resolved and therefore not looked
at. A template of a number survives unless white space stands before a reference
that is not resolved.
-/

namespace BuildPicker

open BuildPicker.Text

/-! ### Templates that may be trimmed -/

namespace Variables

variable {vars : Variables} {template : String}

/-- Whether trimming leaves a template of a name with the same meaning. -/
def KeepsName (vars : Variables) (template : String) : Prop :=
  isUnresolved (vars.expand template) = true ∨ trim template = template

/-- Whether trimming leaves a template of a number with the same meaning. -/
def KeepsNumber (vars : Variables) (template : String) : Prop :=
  isUnresolved (vars.expand (trim template)) = true → isUnresolved (vars.expand template) = true

end Variables

/-- Whether all templates of a filter may be trimmed. -/
inductive Filter.Keeps (vars : Variables) : Filter → Prop
  | acceptAll : Keeps vars .acceptAll
  | displayName {template : String} (h : vars.KeepsName template) :
      Keeps vars (.displayName template)
  | and {fs : List Filter} (hfs : ∀ f ∈ fs, Keeps vars f) : Keeps vars (.and fs)
  | or {fs : List Filter} (hfs : ∀ f ∈ fs, Keeps vars f) : Keeps vars (.or fs)
  | not {f : Filter} (hf : Keeps vars f) : Keeps vars (.not f)
  | parameterized (parameter : String) : Keeps vars (.parameterized parameter)

/-- Whether all templates of a selector and of its filters may be trimmed. -/
inductive Selector.Keeps (vars : Variables) : Selector → Prop
  | buildNumber {template : String} (h : vars.KeepsNumber template) :
      Keeps vars (.buildNumber template)
  | displayName {template : String} (h : vars.KeepsName template) :
      Keeps vars (.displayName template)
  | permalink {template : String} (h : vars.KeepsName template) : Keeps vars (.permalink template)
  | status (s : Status) : Keeps vars (.status s)
  | triggering (dependencies : Bool) (strategy : Strategy) :
      Keeps vars (.triggering dependencies strategy)
  | fallback {entries : List (Selector × Filter)} (hs : ∀ entry ∈ entries, Keeps vars entry.1)
      (hf : ∀ entry ∈ entries, entry.2.Keeps vars) : Keeps vars (.fallback entries)
  | parameterized (parameter : String) : Keeps vars (.parameterized parameter)

/-! ### Trimmed filters -/

theorem Filter.Keeps.agrees_trimmed {vars : Variables} {f : Filter} (h : f.Keeps vars) :
    f.trimmed.Agrees vars f := by
  intro levels b
  induction h with
  | acceptAll | parameterized => rw [trimmed]
  | @displayName template h =>
      rw [trimmed, value_judge_displayName, value_judge_displayName]
      rcases h with hunresolved | htrim
      · rw [hunresolved, Variables.isUnresolved_expand_trim hunresolved, Bool.not_true,
          Bool.false_and, Bool.false_and]
      · rw [htrim]
  | and _ ih =>
      rw [trimmed, trimmedAll_eq_map]
      exact value_judge_and_map ih
  | or _ ih =>
      rw [trimmed, trimmedAll_eq_map]
      exact value_judge_or_map ih
  | not _ ih => rw [trimmed, value_judge_not, value_judge_not, ih]

/-! ### Trimmed selectors -/

namespace Selector

variable {vars : Variables} {template : String} {job : Job}
  {nested : Selector → Basis → Except SelectionError (List Build)}

theorem toOption_map {α β : Type} (found : Except SelectionError α) (g : α → β) :
    (found.map g).toOption = found.toOption.map g := by
  cases found with
  | error e => rfl
  | ok a => rfl

theorem toOption_firstOf_congr {found found' otherwise otherwise' :
    Except SelectionError (Option Build)} (hfound : found.toOption = found'.toOption)
    (hotherwise : otherwise.toOption = otherwise'.toOption) :
    (firstOf found otherwise).toOption = (firstOf found' otherwise').toOption := by
  cases found with
  | error e =>
      cases found' with
      | error e' => rfl
      | ok b? => cases hfound
  | ok b? =>
      cases found' with
      | error e' => cases hfound
      | ok b?' =>
          cases hfound
          cases b? with
          | none => exact hotherwise
          | some b => rfl

theorem singleCandidate_trim (h : vars.KeepsName template)
    (lookup : String → Except SelectionError (Option Build)) :
    singleCandidate (trim template) lookup vars = singleCandidate template lookup vars := by
  rcases h with hunresolved | htrim
  · have htrimmed := Variables.isUnresolved_expand_trim hunresolved
    rw [singleCandidate, singleCandidate, if_pos hunresolved, if_pos htrimmed]
  · rw [htrim]

/-- Of a number only the white space around it may differ. -/
theorem toOption_byNumber_congr (job : Job) {key key' : String} (h : trim key = trim key') :
    (byNumber job key).toOption = (byNumber job key').toOption := by
  unfold byNumber
  rw [h]
  cases (signed? (trim key').toList).bind int64? with
  | none => rfl
  | some i => rfl

theorem toOption_singleCandidate_trim (h : vars.KeepsNumber template) :
    (singleCandidate (trim template) (byNumber job) vars).toOption =
      (singleCandidate template (byNumber job) vars).toOption := by
  rw [singleCandidate, singleCandidate]
  by_cases hunresolved : isUnresolved (vars.expand template) = true
  · have htrimmed := Variables.isUnresolved_expand_trim hunresolved
    rw [if_pos hunresolved, if_pos htrimmed]
  · have htrimmed : ¬isUnresolved (vars.expand (trim template)) = true := mt h hunresolved
    have hnumber := toOption_byNumber_congr job (vars.trim_expand template)
    rw [if_neg hunresolved, if_neg htrimmed, toOption_map, toOption_map, hnumber]

theorem toOption_firstSelection_trimmed (hnested : RespectsAgreement nested)
    {entries : List (Selector × Filter)}
    (hs : ∀ entry ∈ entries, ∀ basis : Basis, basis.vars = vars →
      (candidatesWith nested job entry.1.trimmed basis).toOption =
        (candidatesWith nested job entry.1 basis).toOption)
    (hf : ∀ entry ∈ entries, entry.2.Keeps vars) {basis : Basis} (hvars : basis.vars = vars) :
    (firstSelection nested job basis (trimmedAll entries)).toOption =
      (firstSelection nested job basis entries).toOption := by
  induction entries with
  | nil => rw [trimmedAll]
  | cons entry entries ih =>
      rcases entry with ⟨s, f⟩
      rcases List.forall_mem_cons.1 hs with ⟨hs, hselectors⟩
      rcases List.forall_mem_cons.1 hf with ⟨hf, hfilters⟩
      have hagrees : (basis.filter.narrowedBy f.trimmed).Agrees basis.vars
          (basis.filter.narrowedBy f) :=
        .narrowedBy (.refl _ _) (hvars ▸ hf.agrees_trimmed)
      have haccepts : (basis.narrowedBy f.trimmed).accepts = (basis.narrowedBy f).accepts :=
        basis.accepts_withFilter_congr hagrees
      have hcandidates : candidatesWith nested job s.trimmed (basis.narrowedBy f.trimmed) =
          candidatesWith nested job s.trimmed (basis.narrowedBy f) :=
        candidatesWith_withFilter_congr hnested s.trimmed basis _ _ hagrees
      rw [trimmedAll, firstSelection_cons, firstSelection_cons, haccepts, hcandidates]
      apply toOption_firstOf_congr
      · rw [toOption_map, toOption_map, hs (basis.narrowedBy f) hvars]
      · exact ih hselectors hfilters

theorem toOption_candidatesWith_trimmed (hnested : RespectsAgreement nested) {s : Selector}
    (h : s.Keeps vars) (job : Job) : ∀ basis : Basis, basis.vars = vars →
      (candidatesWith nested job s.trimmed basis).toOption =
        (candidatesWith nested job s basis).toOption := by
  induction h with
  | buildNumber h =>
      rintro basis rfl
      rw [trimmed, candidatesWith, candidatesWith, toOption_singleCandidate_trim h]
  | displayName h | permalink h =>
      rintro basis rfl
      rw [trimmed, candidatesWith, candidatesWith, singleCandidate_trim h]
  | status | triggering | parameterized =>
      intro basis _
      rw [trimmed]
  | fallback hs hf ih =>
      intro basis hvars
      have hfirst := toOption_firstSelection_trimmed hnested ih hf hvars
      rw [trimmed, candidatesWith, candidatesWith, toOption_map, toOption_map, hfirst]

theorem toOption_select_trimmed {s : Selector} (job : Job) {ctx : Context}
    (h : s.Keeps ctx.vars) :
    (s.trimmed.select job ctx).value.result.toOption =
      (s.select job ctx).value.result.toOption := by
  have hnested := respectsAgreement_candidatesBelow job ctx.levels
  have hcandidates := toOption_candidatesWith_trimmed hnested h job ctx.basis rfl
  rw [value_result_select, value_result_select, candidates, candidates, candidatesAt_eq,
    toOption_map, toOption_map]
  exact congrArg (Option.map _) hcandidates

end Selector

/-! ### What is read back from a text -/

/-- Whether what is read back from the text of a filter accepts the same builds, in each context
with these variables. -/
def Filter.SurvivesText (vars : Variables) (f : Filter) : Prop :=
  ∃ f', decode f.encode = .ok f' ∧ ∀ (ctx : Context) (b : Build), ctx.vars = vars →
    { ctx with filter := f' }.accepts b = { ctx with filter := f }.accepts b

/-- Whether what is read back from the text of a selector selects the same build, or also none, or
fails as well, in each context with these variables. -/
def Selector.SurvivesText (vars : Variables) (s : Selector) : Prop :=
  ∃ s', decode s.encode = .ok s' ∧ ∀ (job : Job) (ctx : Context), ctx.vars = vars →
    (s'.select job ctx).value.result.toOption = (s.select job ctx).value.result.toOption

theorem Filter.survivesText_iff {vars : Variables} {f : Filter} (hf : f.nesting ≤ maxNesting) :
    f.SurvivesText vars ↔ ∀ (ctx : Context) (b : Build), ctx.vars = vars →
      { ctx with filter := f.trimmed }.accepts b = { ctx with filter := f }.accepts b := by
  rw [SurvivesText, decode_encode_eq_ite, if_pos hf]
  constructor
  · rintro ⟨_, ⟨⟩, h⟩
    exact h
  · intro h
    exact ⟨f.trimmed, rfl, h⟩

theorem Selector.survivesText_iff {vars : Variables} {s : Selector}
    (hs : s.nesting ≤ maxNesting) :
    s.SurvivesText vars ↔ ∀ (job : Job) (ctx : Context), ctx.vars = vars →
      (s.trimmed.select job ctx).value.result.toOption =
        (s.select job ctx).value.result.toOption := by
  rw [SurvivesText, decode_encode_eq_ite, if_pos hs]
  constructor
  · rintro ⟨_, ⟨⟩, h⟩
    exact h
  · intro h
    exact ⟨s.trimmed, rfl, h⟩

/-! ### Templates that do not survive -/

/-- A context in which nothing but the variables is set. -/
def Context.ofVars (vars : Variables) : Context :=
  { Context.fresh .empty with vars := vars }

/-- A build that is shown by a given name. -/
def Build.named (name : String) : Build :=
  ⟨"app", 1, some name, none, [], .empty⟩

section

variable {vars : Variables} {template : String}

theorem Filter.keepsName_of_survivesText (h : (displayName template).SurvivesText vars) :
    vars.KeepsName template := by
  have hnesting : (displayName template).nesting ≤ maxNesting := by
    rw [nesting]
    decide
  have hsurvives := (survivesText_iff hnesting).1 h
  by_cases hunresolved : isUnresolved (vars.expand template) = true
  · exact .inl hunresolved
  · -- A build of exactly this name is accepted, unless the template is trimmed.
    have hresolved := Bool.eq_false_iff.2 hunresolved
    have hnamed := hsurvives (.ofVars vars) (.named (vars.expand template)) rfl
    rw [trimmed, Context.accepts_displayName, Context.accepts_displayName] at hnamed
    have hname : (Build.named (vars.expand template)).displayName = vars.expand template := rfl
    have hvars : (Context.ofVars vars).vars = vars := rfl
    have hself : decide (vars.expand template = vars.expand template) = true := decide_eq_true rfl
    rw [hname, hvars, hresolved, hself, Bool.not_false, Bool.true_and, Bool.and_eq_true,
      decide_eq_true_iff] at hnamed
    exact .inr (Variables.expand_trim_eq_iff.1 hnamed.2)

namespace Selector

variable {job : Job}

/-- Where nothing is filtered, a look-up makes the selection. -/
theorem value_result_select_ofVars {s : Selector}
    {lookup : String → Except SelectionError (Option Build)}
    (h : s.LooksUp job template lookup) :
    (s.select job (.ofVars vars)).value.result =
      if isUnresolved (vars.expand template) then .ok none else lookup (vars.expand template) := by
  have hcandidates : s.candidates job (Context.ofVars vars).basis =
      singleCandidate template lookup vars := by
    rw [candidates, candidatesAt_eq]
    cases h with
    | buildNumber | displayName | permalink =>
        rw [candidatesWith]
        rfl
  have haccepts : (Context.ofVars vars).basis.accepts = fun _ => true :=
    funext fun b => Filter.value_judge_acceptAll vars maxLevels b
  rw [value_result_select, hcandidates, haccepts, singleCandidate]
  split
  · rfl
  · cases lookup (vars.expand template) with
    | error e => rfl
    | ok b? =>
        cases b? with
        | none => rfl
        | some b => rfl

/-- What is looked up under a template that survives is the same when it is trimmed. -/
theorem toOption_of_survivesText (job : Job) {s : Selector}
    {lookup : String → Except SelectionError (Option Build)}
    (hs : s.LooksUp job template lookup) (h : s.SurvivesText vars) :
    (if isUnresolved (vars.expand (trim template)) then .ok none
      else lookup (vars.expand (trim template))).toOption =
    (if isUnresolved (vars.expand template) then .ok none
      else lookup (vars.expand template)).toOption := by
  have hnesting : s.nesting ≤ maxNesting := by
    have hone : 1 ≤ maxNesting := by decide
    cases hs with
    | buildNumber | displayName | permalink => exact hone
  have htrimmed : s.trimmed.LooksUp job (trim template) lookup := by
    cases hs with
    | buildNumber => exact .buildNumber
    | displayName => exact .displayName
    | permalink => exact .permalink
  have hselects := (survivesText_iff hnesting).1 h job (.ofVars vars) rfl
  rwa [value_result_select_ofVars htrimmed, value_result_select_ofVars hs] at hselects

theorem keepsName_of_survivesText_displayName
    (h : (displayName template).SurvivesText vars) : vars.KeepsName template := by
  by_cases hunresolved : isUnresolved (vars.expand template) = true
  · exact .inl hunresolved
  · -- A build of exactly this name is found, unless the template is trimmed.
    let b := Build.named (vars.expand template)
    have hfound : byDisplayName (.ofBuild b) (vars.expand template) = .ok (some b) :=
      congrArg Except.ok (List.find?_cons_of_pos (decide_eq_true rfl))
    have hlookup := toOption_of_survivesText (.ofBuild b) .displayName h
    rw [if_neg hunresolved, hfound] at hlookup
    split at hlookup
    · cases hlookup
    · have hfind : (Job.ofBuild b).builds.find?
          (fun b => decide (b.displayName = vars.expand (trim template))) = some b :=
        Option.some.inj hlookup
      have hname := List.find?_some hfind
      rw [decide_eq_true_iff] at hname
      exact .inr (Variables.expand_trim_eq_iff.1 hname.symm)

/-- An anchor that a job has itself makes a difference for this name only. -/
theorem byPermalink_withPermalink {key key' : String} (number : BuildNumber) (hne : key' ≠ key) :
    byPermalink (job.withPermalink key number) key' = byPermalink job key' := by
  unfold byPermalink Job.permalink?
  cases Permalink.ofId? key' with
  | some p => rfl
  | none =>
      have hget : (job.withPermalink key number).permalinks.get? key' =
          job.permalinks.get? key' := by
        rw [Job.withPermalink, Table.get?_insert, if_neg hne]
      dsimp only
      rw [hget]
      rfl

/-- The anchors that every job has have no white space in their names. -/
theorem ofId?_expand_of_trim_ne (htrim : trim template ≠ template) :
    Permalink.ofId? (vars.expand template) = none := by
  rcases vars.exists_isBlank_of_trim_ne htrim with ⟨c, hc, hblank⟩
  apply Permalink.ofId?_eq_none_of_mem hc
  rw [Bool.eq_false_iff]
  intro hname
  rw [Reference.isBlank_eq_false_of_isNameChar hname] at hblank
  cases hblank

theorem keepsName_of_survivesText_permalink
    (h : (permalink template).SurvivesText vars) : vars.KeepsName template := by
  by_cases hunresolved : isUnresolved (vars.expand template) = true
  · exact .inl hunresolved
  by_cases htrim : trim template = template
  · exact .inr htrim
  -- Without and with an anchor of exactly this name, a job has different builds under the
  -- template, but not under the trimmed one.
  exfalso
  let key := vars.expand template
  let b := Build.named "nightly"
  let bare := Job.ofBuild b
  let anchored := bare.withPermalink key 1
  have hne : vars.expand (trim template) ≠ key := mt Variables.expand_trim_eq_iff.1 htrim
  have hcustom : Permalink.ofId? key = none := ofId?_expand_of_trim_ne htrim
  have hbare : byPermalink bare key = .ok none := by
    rw [byPermalink, Job.permalink?, hcustom]
    rfl
  have hanchored : byPermalink anchored key = .ok (some b) := by
    have hget : anchored.permalinks.get? key = some 1 := Table.get?_insert_self _ _ _
    rw [byPermalink, Job.permalink?, hcustom]
    dsimp only
    rw [hget]
    rfl
  have hlookup := toOption_of_survivesText bare .permalink h
  have hlookup' := toOption_of_survivesText anchored .permalink h
  rw [if_neg hunresolved, hbare] at hlookup
  rw [if_neg hunresolved, hanchored, byPermalink_withPermalink 1 hne, hlookup] at hlookup'
  cases hlookup'

theorem keepsNumber_of_survivesText (h : (buildNumber template).SurvivesText vars) :
    vars.KeepsNumber template := by
  intro htrimmed
  by_contra hunresolved
  -- The white space makes the reference a part of a wrong number, and trimming makes it absent.
  have hdollar : '$' ∈ (vars.expand template).toList := by
    rcases vars.exists_expand_eq_append template with ⟨ws, ws', -, -, -, hexpand⟩
    have hhead : '$' ∈ (vars.expand (trim template)).toList :=
      List.mem_of_mem_head? (of_decide_eq_true htrimmed)
    rw [hexpand]
    exact List.mem_append_right _ (List.mem_append_left _ hhead)
  have hlookup := toOption_of_survivesText (.empty "app" none .empty) .buildNumber h
  rw [if_pos htrimmed, if_neg hunresolved, byNumber_of_dollar hdollar] at hlookup
  cases hlookup

end Selector

end

/-! ### Values that survive -/

/-- Sending a filter or selector of at most 64 levels as a text does not change what it accepts or
selects if each of its templates may be trimmed: those of names if they have no white space at
their ends or are not resolved, and those of numbers unless they are resolved only because of
the white space before a reference. A single template survives in no other case. -/
theorem survives_text (vars : Variables) :
    (∀ f : Filter, f.nesting ≤ 64 → f.Keeps vars → f.SurvivesText vars) ∧
    (∀ s : Selector, s.nesting ≤ 64 → s.Keeps vars → s.SurvivesText vars) ∧
    ∀ template,
      ((Filter.displayName template).SurvivesText vars ↔ vars.KeepsName template) ∧
      ((Selector.displayName template).SurvivesText vars ↔ vars.KeepsName template) ∧
      ((Selector.permalink template).SurvivesText vars ↔ vars.KeepsName template) ∧
      ((Selector.buildNumber template).SurvivesText vars ↔ vars.KeepsNumber template) := by
  have hfilter (f : Filter) (hf : f.nesting ≤ 64) (h : f.Keeps vars) : f.SurvivesText vars := by
    apply (Filter.survivesText_iff hf).2
    rintro ctx b rfl
    exact h.agrees_trimmed ctx.levels b
  have hselector (s : Selector) (hs : s.nesting ≤ 64) (h : s.Keeps vars) : s.SurvivesText vars := by
    apply (Selector.survivesText_iff hs).2
    rintro job ctx rfl
    exact Selector.toOption_select_trimmed job h
  have hone : 1 ≤ 64 := by omega
  refine ⟨hfilter, hselector, fun template => ⟨?_, ?_, ?_, ?_⟩⟩
  · exact ⟨Filter.keepsName_of_survivesText, fun h => hfilter _ hone (.displayName h)⟩
  · exact ⟨Selector.keepsName_of_survivesText_displayName,
      fun h => hselector _ hone (.displayName h)⟩
  · exact ⟨Selector.keepsName_of_survivesText_permalink,
      fun h => hselector _ hone (.permalink h)⟩
  · exact ⟨Selector.keepsNumber_of_survivesText, fun h => hselector _ hone (.buildNumber h)⟩

/-- White space around a number, and behind a reference that is not resolved. -/
theorem survives_text_number :
    let f := Filter.not (.displayName "$GONE ")
    let s := Selector.fallback [(.buildNumber " 7\n", f), (.permalink "lastBuild", .acceptAll)]
    (f.nesting ≤ 64 ∧ f.Keeps .empty ∧ f.SurvivesText .empty) ∧
      s.nesting ≤ 64 ∧ s.Keeps .empty ∧ s.SurvivesText .empty := by
  intro f s
  have hf : f.Keeps .empty := .not (.displayName (.inl (by decide)))
  have hnumber : Variables.KeepsNumber .empty " 7\n" :=
    fun h => absurd h (by decide)
  have hs : s.Keeps .empty := by
    apply Selector.Keeps.fallback
    · simp only [List.forall_mem_cons, List.not_mem_nil, false_implies, implies_true, and_true]
      exact ⟨.buildNumber hnumber, .permalink (.inr (by decide))⟩
    · simp only [List.forall_mem_cons, List.not_mem_nil, false_implies, implies_true, and_true]
      exact ⟨hf, .acceptAll⟩
  rcases survives_text .empty with ⟨hfilter, hselector, -⟩
  exact ⟨⟨by decide, hf, hfilter f (by decide) hf⟩, by decide, hs, hselector s (by decide) hs⟩

/-- With white space around it, the name of a build fits no build, until it is sent as a text. -/
theorem not_survives_text_name :
    let f := Filter.displayName " #1 "
    let ctx := Context.fresh .empty
    let b := Build.ofTriggers "app" 1 []
    f.nesting ≤ 64 ∧ Filter.decode f.encode = .ok (.displayName "#1") ∧
      { ctx with filter := f }.accepts b = false ∧
      { ctx with filter := .displayName "#1" }.accepts b = true := by
  intro f ctx b
  have htrim : trim " #1 " = "#1" := by decide
  have hdecode : Filter.decode f.encode = .ok f.trimmed := by
    rw [Filter.decode_encode_eq_ite]
    rfl
  refine ⟨by decide, ?_, ?_, ?_⟩
  · rw [hdecode, Filter.trimmed, htrim]
  · rw [Context.accepts_displayName]
    decide
  · rw [Context.accepts_displayName]
    decide

end BuildPicker
