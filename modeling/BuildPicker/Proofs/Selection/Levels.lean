import BuildPicker.Proofs.Selection.Flattening
import BuildPicker.Proofs.Selection.Inlining
import BuildPicker.Proofs.Selection.Requests

/-!
How far parameters lead.

A selector or filter that is read from a parameter may be parameterized itself, and so
on. Each step takes one of the levels that a context has, on the contexts of entries
as well as on the one that a selection began with, and entries that filter nothing
take none. So what counts is the number of steps: up to the number of levels the end of
the chain takes the place of its beginning, and beyond nothing is selected and nothing
accepted.
-/

namespace BuildPicker

open BuildPicker.Text

/-! ### Chains of parameters -/

/-- A parameter refers to a variable that holds a text for the selector or filter. -/
def Variables.Holds {α : Type} (vars : Variables) (decode : String → Except DecodeError α)
    (parameter : String) (a : α) : Prop :=
  ∃ name text, IsVariableName name.toList ∧ parameter ∈ references name ∧
    vars.get? name = some text ∧ decode text = .ok a

/-- The number of parameters that lead from one filter to another. -/
inductive Filter.LeadsTo (vars : Variables) : Nat → Filter → Filter → Prop
  | done (f : Filter) : LeadsTo vars 0 f f
  | link {n : Nat} {parameter : String} {f g : Filter}
      (hheld : vars.Holds Filter.decode parameter f) (hrest : LeadsTo vars n f g) :
      LeadsTo vars (n + 1) (.parameterized parameter) g

/-- The number of parameters that lead from one selector to another, where a selector may stand
as the only entry of a fallback. -/
inductive Selector.LeadsTo (vars : Variables) : Nat → Selector → Selector → Prop
  | done (s : Selector) : LeadsTo vars 0 s s
  | link {n : Nat} {parameter : String} {s t : Selector}
      (hheld : vars.Holds Selector.decode parameter s) (hrest : LeadsTo vars n s t) :
      LeadsTo vars (n + 1) (.parameterized parameter) t
  | wrapped {n : Nat} {s t : Selector} (h : LeadsTo vars n s t) :
      LeadsTo vars n (.fallback [(s, .acceptAll)]) t

/-- Whether neither the selector nor a filter in it is read from a parameter. -/
inductive Selector.IsParameterFree : Selector → Prop
  | buildNumber (template : String) : IsParameterFree (.buildNumber template)
  | displayName (template : String) : IsParameterFree (.displayName template)
  | permalink (template : String) : IsParameterFree (.permalink template)
  | status (s : Status) : IsParameterFree (.status s)
  | triggering (dependencies : Bool) (strategy : Strategy) :
      IsParameterFree (.triggering dependencies strategy)
  | fallback {entries : List (Selector × Filter)} (hs : ∀ entry ∈ entries, IsParameterFree entry.1)
      (hf : ∀ entry ∈ entries, entry.2.IsParameterFree) : IsParameterFree (.fallback entries)

/-- Variables that hold texts of parameterized selectors or filters, each with a reference to the
next one, make a chain. -/
theorem Variables.leadsTo_of_isChain {α : Type} {vars : Variables}
    {decode : String → Except DecodeError α} {parameterized : String → α}
    {LeadsTo : Nat → α → α → Prop} (hdone : ∀ a, LeadsTo 0 a a)
    (hlink : ∀ {n parameter a c}, vars.Holds decode parameter a → LeadsTo n a c →
      LeadsTo (n + 1) (parameterized parameter) c)
    {first : String} {names : List String} {a : α}
    (hnames : ∀ name ∈ first :: names, IsVariableName name.toList)
    (hlinks : (first :: names).IsChain fun name next =>
      (vars.get? name).map decode = some (.ok (parameterized ("$" ++ next))))
    (hlast : (vars.get? ((first :: names).getLast (List.cons_ne_nil _ _))).map decode =
      some (.ok a)) :
    LeadsTo (names.length + 1) (parameterized ("$" ++ first)) a := by
  have hholds (name : String) (c : α) (hname : IsVariableName name.toList)
      (hc : (vars.get? name).map decode = some (.ok c)) : vars.Holds decode ("$" ++ name) c := by
    rcases Option.map_eq_some_iff.1 hc with ⟨text, htext, hdecode⟩
    exact ⟨name, text, hname, List.mem_cons_self, htext, hdecode⟩
  induction names generalizing first with
  | nil =>
      rw [List.getLast_singleton] at hlast
      exact hlink (hholds first a (hnames first List.mem_cons_self) hlast) (hdone a)
  | cons next names ih =>
      rcases List.forall_mem_cons.1 hnames with ⟨hfirst, hnames⟩
      rcases List.isChain_cons_cons.1 hlinks with ⟨hheld, hlinks⟩
      rw [List.getLast_cons_cons] at hlast
      exact hlink (hholds first _ hfirst hheld) (ih hnames hlinks hlast)

/-! ### Chains of filters -/

namespace Filter

variable {vars : Variables} {f g : Filter} {n : Nat}

/-- One step of a chain takes a level. -/
theorem value_judge_of_holds {parameter : String} (hheld : vars.Holds decode parameter f)
    (levels : Nat) (b : Build) :
    (judge vars levels b (.parameterized parameter)).value =
      match levels with
      | 0 => false
      | levels + 1 => (judge vars levels b f).value := by
  rcases hheld with ⟨name, text, hname, hparameter, htext, hdecode⟩
  rcases decode_eq_ok_iff_standsFor.1 hdecode with ⟨e, hderives, -⟩
  rw [value_judge_parameterized, Variables.expand_of_mem_references hname htext hparameter,
    hderives.isBlankText_eq_false, isUnresolved_of_decode hdecode, hdecode]
  cases levels with
  | zero => rfl
  | succ levels => rfl

/-- A whole chain takes as many levels as it has steps. -/
theorem LeadsTo.value_judge (h : f.LeadsTo vars n g) (levels : Nat) (b : Build) :
    (judge vars levels b f).value =
      (decide (n ≤ levels) && (judge vars (levels - n) b g).value) := by
  induction h generalizing levels with
  | done f => rw [decide_eq_true (Nat.zero_le _), Bool.true_and, Nat.sub_zero]
  | @link n _ f g hheld _ ih =>
      rw [value_judge_of_holds hheld]
      cases levels with
      | zero => simp
      | succ levels =>
          show (judge vars levels b f).value = _
          rw [ih, Nat.add_sub_add_right]
          simp

end Filter

/-! ### Chains of selectors -/

namespace Basis.Matches

variable {basis basis' : Basis} {f : Filter}

theorem accepts_of_isParameterFree (h : basis.Matches basis') (hf : f.IsParameterFree)
    (b : Build) : (basis.withFilter f).accepts b = (basis'.withFilter f).accepts b := by
  show (Filter.judge basis.vars basis.levels b f).value = _
  rw [h.vars]
  exact hf.value_judge_eq basis.levels basis'.levels b

end Basis.Matches

theorem Context.matches_basis {ctx : Context} (hfilter : ctx.filter.IsParameterFree)
    (levels : Nat) : ({ ctx with levels := levels }.basis).Matches ctx.basis :=
  ⟨rfl, rfl, rfl, rfl, funext fun b => hfilter.value_judge_eq levels ctx.levels b⟩

namespace Selector

variable {nested nested' : Selector → Basis → Except SelectionError (List Build)}
  {vars : Variables} {s t : Selector} {n : Nat} {ctx : Context} {job : Job}

/-- Where no parameter is followed, it makes no difference where one would lead. -/
theorem IsParameterFree.candidatesWith_eq (h : s.IsParameterFree) (job : Job) :
    ∀ basis basis' : Basis, basis.Matches basis' →
      candidatesWith nested job s basis = candidatesWith nested' job s basis' := by
  induction h with
  | buildNumber | displayName | permalink =>
      intro basis basis' hbasis
      rw [candidatesWith, candidatesWith, hbasis.vars]
  | status s =>
      intro basis basis' _
      rw [candidatesWith, candidatesWith]
  | triggering dependencies strategy =>
      intro basis basis' hbasis
      rw [candidatesWith, candidatesWith, hbasis.history, hbasis.origin, hbasis.settings]
  | @fallback entries _ hf ih =>
      intro basis basis' hbasis
      have hnarrowed : ∀ entry ∈ entries,
          (basis.narrowedBy entry.2).Matches (basis'.narrowedBy entry.2) :=
        fun entry hentry => hbasis.narrowedBy (hbasis.accepts_of_isParameterFree (hf entry hentry))
      have hfirst : firstSelection nested job basis (entries.map id) =
          firstSelection nested' job basis' entries := by
        apply firstSelection_map
        · exact fun entry hentry => (hnarrowed entry hentry).accepts
        · exact fun entry hentry => ih entry hentry _ _ (hnarrowed entry hentry)
      rw [List.map_id] at hfirst
      rw [candidatesWith, candidatesWith, hfirst]

theorem IsParameterFree.value_result_select_congr (h : s.IsParameterFree) (job : Job)
    {ctx ctx' : Context} (hmatches : ctx.basis.Matches ctx'.basis) :
    (s.select job ctx).value.result = (s.select job ctx').value.result := by
  have hcandidates : s.candidates job ctx.basis = s.candidates job ctx'.basis := by
    rw [candidates, candidates, candidatesAt_eq, candidatesAt_eq]
    exact h.candidatesWith_eq job _ _ hmatches
  rw [value_result_select, value_result_select, hmatches.accepts, hcandidates]

/-- One step of a chain takes a level. -/
theorem value_result_select_of_holds {parameter : String}
    (hheld : ctx.vars.Holds decode parameter s) (hfilter : ctx.filter.IsParameterFree) :
    ((parameterized parameter).select job ctx).value.result =
      match ctx.levels with
      | 0 => .ok none
      | levels + 1 => (s.select job { ctx with levels := levels }).value.result := by
  rcases hheld with ⟨name, text, hname, hparameter, htext, hdecode⟩
  have hresolve := value_resolve_of_get? hname htext hdecode (List.mem_cons_of_mem _ hparameter)
  rw [value_result_select]
  cases hlevels : ctx.levels with
  | zero =>
      have hresolve' : (resolve ctx.basis.vars parameter).value = some s := hresolve
      have hbasis : ctx.basis.levels = 0 := hlevels
      rw [candidates, candidatesAt_eq, candidatesWith, hresolve', hbasis]
      rfl
  | succ levels =>
      rw [candidates_parameterized hresolve hlevels,
        ← (Context.matches_basis hfilter levels).accepts]
      exact (s.value_result_select job { ctx with levels := levels }).symm

/-- What a fallback with one entry selects is what the entry does. -/
theorem value_result_select_fallback_singleton (s : Selector) (f : Filter) (job : Job)
    (ctx : Context) :
    ((fallback [(s, f)]).select job ctx).value.result =
      (s.select job (ctx.attempt f)).value.result := by
  have hlast : ∀ found, firstOf found (.ok none) = found := by
    rintro (e | _ | b)
    · rfl
    · rfl
    · rfl
  rw [value_result_select_fallback, firstSelection_cons, firstSelection, hlast,
    value_result_select, candidates, candidatesAt_eq]
  rfl

/-- An entry that filters nothing takes no level. -/
theorem value_result_select_wrapped (s : Selector) (job : Job) (ctx : Context) :
    ((fallback [(s, .acceptAll)]).select job ctx).value.result =
      (s.select job ctx).value.result := by
  rw [value_result_select_fallback_singleton]
  apply s.value_result_select_congr
  rw [Context.basis_attempt, Basis.narrowedBy, Filter.narrowedBy_acceptAll]

/-- A whole chain takes as many levels as it has steps. -/
theorem LeadsTo.value_result_select (h : s.LeadsTo ctx.vars n t)
    (hfilter : ctx.filter.IsParameterFree) (levels : Nat) :
    (s.select job { ctx with levels := levels }).value.result =
      if n ≤ levels then (t.select job { ctx with levels := levels - n }).value.result
      else .ok none := by
  generalize hvars : ctx.vars = vars at h
  induction h generalizing levels with
  | done s => rw [if_pos (Nat.zero_le _), Nat.sub_zero]
  | @link n parameter s t hheld _ ih =>
      subst hvars
      have hstep : ((parameterized parameter).select job
          { ctx with levels := levels }).value.result = _ :=
        value_result_select_of_holds hheld hfilter
      rw [hstep]
      cases levels with
      | zero => rfl
      | succ levels =>
          show (s.select job { ctx with levels := levels }).value.result = _
          rw [ih, Nat.add_sub_add_right]
          simp only [Nat.add_le_add_iff_right]
  | wrapped _ ih => rw [value_result_select_wrapped, ih]

end Selector

namespace Context

variable {ctx : Context} {f g : Filter} {m : Nat}

/-- The end of a chain of filters accepts at all levels, so the chain does as far as it is
followed. -/
theorem accepts_of_leadsTo (h : f.LeadsTo ctx.vars m g) (hg : g.IsParameterFree) (levels : Nat)
    (b : Build) : { ctx with filter := f, levels := levels }.accepts b =
      (decide (m ≤ levels) && { ctx with filter := g }.accepts b) := by
  show (Filter.judge ctx.vars levels b f).value = _
  rw [h.value_judge, hg.value_judge_eq _ ctx.levels]
  rfl

/-- What is accepted in the context of an entry whose filter is such a chain. -/
theorem accepts_attempt_of_leadsTo (hfilter : ctx.filter.IsParameterFree)
    (h : f.LeadsTo ctx.vars m g) (hg : g.IsParameterFree) (levels : Nat) (b : Build) :
    ({ ctx with levels := levels }.attempt f).accepts b =
      (ctx.accepts b && (decide (m ≤ levels) && { ctx with filter := g }.accepts b)) := by
  rw [← accepts_of_leadsTo h hg levels b, ← accepts_basis ctx,
    ← (matches_basis hfilter levels).accepts]
  exact Basis.accepts_narrowedBy { ctx with levels := levels }.basis f b

/-- Where it is followed to its end, this end can be the filter of the entry. -/
theorem matches_attempt_of_leadsTo (hfilter : ctx.filter.IsParameterFree)
    (h : f.LeadsTo ctx.vars m g) (hg : g.IsParameterFree) {levels : Nat} (hm : m ≤ levels) :
    ({ ctx with levels := levels }.attempt f).basis.Matches (ctx.attempt g).basis := by
  apply (matches_basis hfilter levels).narrowedBy
  intro b
  show { ctx with filter := f, levels := levels }.accepts b = { ctx with filter := g }.accepts b
  rw [accepts_of_leadsTo h hg, decide_eq_true hm, Bool.true_and]

/-- On a context that has all its levels, a chain of at most sixteen parameters selects, or accepts,
what its end does; a longer one selects and accepts nothing. The filter of an entry has the levels
that are left where its selector is reached, so the parameters on both sides count together: if
there are more than sixteen, then no build is selected. -/
theorem follows_maxLevels (hlevels : ctx.levels = maxLevels)
    (hfilter : ctx.filter.IsParameterFree) (job : Job) :
    (∀ n s t, Selector.LeadsTo ctx.vars n s t → t.IsParameterFree →
      (s.select job ctx).value.result =
        if n ≤ 16 then (t.select job ctx).value.result else .ok none) ∧
    (∀ m f g, Filter.LeadsTo ctx.vars m f g → g.IsParameterFree → ∀ b,
      { ctx with filter := f }.accepts b =
        (decide (m ≤ 16) && { ctx with filter := g }.accepts b)) ∧
    ∀ k m s t f g, Selector.LeadsTo ctx.vars k s (.fallback [(t, f)]) →
      Filter.LeadsTo ctx.vars m f g → g.IsParameterFree →
      (k ≤ 16 →
        let entry := { ctx with levels := 16 - k }.attempt f
        (s.select job ctx).value.result = (t.select job entry).value.result ∧
        ∀ b, entry.accepts b =
          (ctx.accepts b && (decide (k + m ≤ 16) && { ctx with filter := g }.accepts b))) ∧
      (k + m ≤ 16 → t.IsParameterFree → (s.select job ctx).value.result =
        ((Selector.fallback [(t, g)]).select job ctx).value.result) ∧
      (17 ≤ k + m → ∀ b, (s.select job ctx).value.result ≠ .ok (some b)) := by
  have hself : { ctx with levels := 16 } = ctx := by
    show { ctx with levels := maxLevels } = ctx
    rw [← hlevels]
  have hchain (n : Nat) (s t : Selector) (h : s.LeadsTo ctx.vars n t) :
      (s.select job ctx).value.result =
        if n ≤ 16 then (t.select job { ctx with levels := 16 - n }).value.result else .ok none := by
    have hselect : (s.select job { ctx with levels := 16 }).value.result = _ :=
      h.value_result_select hfilter 16
    rwa [hself] at hselect
  refine ⟨?_, ?_, ?_⟩
  · intro n s t h ht
    rw [hchain n s t h, ht.value_result_select_congr job (matches_basis hfilter _)]
  · intro m f g h hg b
    have hself' : { ctx with filter := f, levels := 16 } = { ctx with filter := f } :=
      congrArg (fun ctx : Context => { ctx with filter := f }) hself
    have haccepts := accepts_of_leadsTo h hg 16 b
    rwa [hself'] at haccepts
  · intro k m s t f g hs hf hg
    have hentry (hk : k ≤ 16) : (s.select job ctx).value.result =
        (t.select job ({ ctx with levels := 16 - k }.attempt f)).value.result := by
      rw [hchain k s _ hs, if_pos hk, Selector.value_result_select_fallback_singleton]
    have haccepts (hk : k ≤ 16) (b : Build) :
        ({ ctx with levels := 16 - k }.attempt f).accepts b =
          (ctx.accepts b && (decide (k + m ≤ 16) && { ctx with filter := g }.accepts b)) := by
      rw [accepts_attempt_of_leadsTo hfilter hf hg]
      have hiff : m ≤ 16 - k ↔ k + m ≤ 16 := by omega
      simp only [hiff]
    refine ⟨fun hk => ⟨hentry hk, haccepts hk⟩, ?_, ?_⟩
    · intro hkm ht
      have hmatches := matches_attempt_of_leadsTo hfilter hf hg (show m ≤ 16 - k by omega)
      rw [hentry (by omega), ht.value_result_select_congr job hmatches,
        Selector.value_result_select_fallback_singleton]
    · intro hkm b hb
      by_cases hk : k ≤ 16
      · -- What an entry selects has been accepted, but its filter gives up.
        rw [hentry hk] at hb
        have hb' := (Selector.mem_and_accepts_of_select hb).2
        rw [haccepts hk, decide_eq_false (by omega), Bool.false_and, Bool.and_false] at hb'
        cases hb'
      · rw [hchain k s _ hs, if_neg hk] at hb
        cases hb

/-- Seventeen variables, each of which refers to the next one, and two for entries that are filtered
by what they hold. -/
def linked : Context :=
  let names := "ABCDEFGHIJKLMNOPQ".toList.map String.singleton
  let reference (name : String) := "(parameterized :parameter \"$" ++ name ++ "\")"
  let entry (filter : String) :=
    "(fallback :entries [(entry :selector (status :build-status \"any\") :filter " ++ filter ++ ")])"
  { fresh .empty with
    vars := Table.ofList ((names.zip (names.tail.map reference)) ++
      [("Q", "(display-name :name \"#1\")"), ("NEAR", entry (reference "C")),
        ("FAR", entry (reference "B"))]) }

theorem follows_maxLevels_linked :
    let named := Selector.displayName "#1"
    let named' := Filter.displayName "#1"
    let filtered (f : Filter) := Selector.fallback [(.status .any, f)]
    linked.levels = maxLevels ∧ linked.filter.IsParameterFree ∧ named.IsParameterFree ∧
      named'.IsParameterFree ∧
      Selector.LeadsTo linked.vars 17 (.parameterized "$A") named ∧
      Selector.LeadsTo linked.vars 16 (.parameterized "$B") named ∧
      Filter.LeadsTo linked.vars 17 (.parameterized "$A") named' ∧
      Filter.LeadsTo linked.vars 16 (.parameterized "$B") named' ∧
      Selector.LeadsTo linked.vars 1 (.parameterized "$NEAR") (filtered (.parameterized "$C")) ∧
      Selector.LeadsTo linked.vars 1 (.parameterized "$FAR") (filtered (.parameterized "$B")) ∧
      ∀ job,
        ((Selector.parameterized "$A").select job linked).value.result = .ok none ∧
        ((Selector.parameterized "$B").select job linked).value.result =
          (named.select job linked).value.result ∧
        (∀ b, { linked with filter := .parameterized "$A" }.accepts b = false ∧
          { linked with filter := .parameterized "$B" }.accepts b =
            { linked with filter := named' }.accepts b) ∧
        ((Selector.parameterized "$NEAR").select job linked).value.result =
          ((filtered named').select job linked).value.result ∧
        ∀ b, ((Selector.parameterized "$FAR").select job linked).value.result ≠ .ok (some b) := by
  intro named named' filtered
  let names := "DEFGHIJKLMNOPQ".toList.map String.singleton
  have hnames : ∀ name ∈ "NEAR" :: "FAR" :: "A" :: "B" :: "C" :: names,
      IsVariableName name.toList := by
    decide +kernel
  have hselectors : ("A" :: "B" :: "C" :: names).IsChain fun name next =>
      (linked.vars.get? name).map Selector.decode = some (.ok (.parameterized ("$" ++ next))) := by
    decide +kernel
  have hfilters : ("A" :: "B" :: "C" :: names).IsChain fun name next =>
      (linked.vars.get? name).map Filter.decode = some (.ok (.parameterized ("$" ++ next))) := by
    decide +kernel
  have hselector : (linked.vars.get? "Q").map Selector.decode = some (.ok named) := by
    decide +kernel
  have hfilter : (linked.vars.get? "Q").map Filter.decode = some (.ok named') := by
    decide +kernel
  have hnear : (linked.vars.get? "NEAR").map Selector.decode =
      some (.ok (filtered (.parameterized "$C"))) := by
    decide +kernel
  have hfar : (linked.vars.get? "FAR").map Selector.decode =
      some (.ok (filtered (.parameterized "$B"))) := by
    decide +kernel
  rcases List.forall_mem_cons.1 hnames with ⟨hnearName, hnames⟩
  rcases List.forall_mem_cons.1 hnames with ⟨hfarName, hnamesA⟩
  have hnamesB := (List.forall_mem_cons.1 hnamesA).2
  have hnamesC := (List.forall_mem_cons.1 hnamesB).2
  have hfiltersB := (List.isChain_cons_cons.1 hfilters).2
  have hfiltersC := (List.isChain_cons_cons.1 hfiltersB).2
  have hsA : Selector.LeadsTo linked.vars 17 (.parameterized "$A") named :=
    Variables.leadsTo_of_isChain .done .link hnamesA hselectors hselector
  have hsB : Selector.LeadsTo linked.vars 16 (.parameterized "$B") named :=
    Variables.leadsTo_of_isChain .done .link hnamesB (List.isChain_cons_cons.1 hselectors).2
      hselector
  have hfA : Filter.LeadsTo linked.vars 17 (.parameterized "$A") named' :=
    Variables.leadsTo_of_isChain .done .link hnamesA hfilters hfilter
  have hfB : Filter.LeadsTo linked.vars 16 (.parameterized "$B") named' :=
    Variables.leadsTo_of_isChain .done .link hnamesB hfiltersB hfilter
  have hfC : Filter.LeadsTo linked.vars 15 (.parameterized "$C") named' :=
    Variables.leadsTo_of_isChain .done .link hnamesC hfiltersC hfilter
  have hsNear : Selector.LeadsTo linked.vars 1 (.parameterized "$NEAR")
      (filtered (.parameterized "$C")) :=
    Variables.leadsTo_of_isChain .done .link (List.forall_mem_singleton.2 hnearName)
      (.singleton _) hnear
  have hsFar : Selector.LeadsTo linked.vars 1 (.parameterized "$FAR")
      (filtered (.parameterized "$B")) :=
    Variables.leadsTo_of_isChain .done .link (List.forall_mem_singleton.2 hfarName)
      (.singleton _) hfar
  refine ⟨rfl, .acceptAll, .displayName _, .displayName _, hsA, hsB, hfA, hfB, hsNear, hsFar,
    fun job => ?_⟩
  rcases @follows_maxLevels linked rfl .acceptAll job with ⟨hselects, haccepts, hentries⟩
  refine ⟨hselects 17 _ _ hsA (.displayName _), hselects 16 _ _ hsB (.displayName _),
    fun b => ⟨haccepts 17 _ _ hfA (.displayName _) b, haccepts 16 _ _ hfB (.displayName _) b⟩, ?_, ?_⟩
  · exact (hentries 1 15 _ _ _ _ hsNear hfC (.displayName _)).2.1 (by omega) (.status _)
  · exact (hentries 1 16 _ _ _ _ hsFar hfB (.displayName _)).2.2 (by omega)

end Context

end BuildPicker
