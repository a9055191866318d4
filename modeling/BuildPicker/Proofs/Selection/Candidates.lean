import BuildPicker.Proofs.Codec.Selector
import BuildPicker.Proofs.Selection.Triggering

/-!
The candidates of a selector, all at once.

A selector is asked for one candidate after the other, and what it answers depends
on where the enumeration stands. Here its candidates are given as one list, as a
function of what a selection rests on: this is the context without the last
candidate, the attached records and the verbosity. The list is what the selector
offers whatever records a context carries, so a selection ends with the first
candidate on the list that the filter in force accepts.
-/

namespace BuildPicker

/-- What a selection rests on. -/
structure Basis where
  history : History
  origin : Option BuildRef
  vars : Variables
  settings : Settings
  filter : Filter
  levels : Nat

def Context.basis (ctx : Context) : Basis :=
  ⟨ctx.history, ctx.origin, ctx.vars, ctx.settings, ctx.filter, ctx.levels⟩

/-- Whether the filter accepts a build. -/
def Basis.accepts (basis : Basis) (b : Build) : Bool :=
  (basis.filter.judge basis.vars basis.levels b).value

/-- The same with another filter besides the one in force. -/
def Basis.narrowedBy (basis : Basis) (f : Filter) : Basis :=
  { basis with filter := basis.filter.narrowedBy f }

/-- The context in which an entry of a fallback is tried. -/
def Context.attempt (ctx : Context) (f : Filter) : Context :=
  { ctx.fork with filter := ctx.filter.narrowedBy f }

@[simp] theorem Context.accepts_basis (ctx : Context) : ctx.basis.accepts = ctx.accepts := rfl

@[simp] theorem Context.basis_attempt (ctx : Context) (f : Filter) :
    (ctx.attempt f).basis = ctx.basis.narrowedBy f := rfl

namespace Selector

/-! ### The list of candidates -/

/-- What `lookup` finds under the expanded template. -/
def singleCandidate (template : String)
    (lookup : String → Except SelectionError (Option Build)) (vars : Variables) :
    Except SelectionError (List Build) :=
  let key := vars.expand template
  if isUnresolved key then .ok [] else (lookup key).map Option.toList

mutual

/-- The candidates; `nested` gives those of the selectors that are read from parameters. -/
def candidatesWith (nested : Selector → Basis → Except SelectionError (List Build)) (job : Job) :
    Selector → Basis → Except SelectionError (List Build)
  | buildNumber template, basis => singleCandidate template (byNumber job) basis.vars
  | displayName template, basis => singleCandidate template (byDisplayName job) basis.vars
  | permalink template, basis => singleCandidate template (byPermalink job) basis.vars
  | status s, _ => .ok (job.builds.filter s.fits)
  | triggering dependencies strategy, basis =>
    match basis.origin with
    | none => .ok []
    | some origin => .ok <| basis.history.triggeringBuilds job dependencies
        (strategy.order basis.settings) origin
  | fallback entries, basis => (firstSelection nested job basis entries).map Option.toList
  | parameterized parameter, basis =>
    match (resolve basis.vars parameter).value with
    | none => .ok []
    | some s => nested s basis

/-- What the first entry that selects a build selects, with its filter besides the one in force. -/
def firstSelection (nested : Selector → Basis → Except SelectionError (List Build)) (job : Job)
    (basis : Basis) : List (Selector × Filter) → Except SelectionError (Option Build)
  | [] => .ok none
  | (s, f) :: rest =>
    let narrowed := basis.narrowedBy f
    match (candidatesWith nested job s narrowed).map (List.find? narrowed.accepts) with
    | .ok none => firstSelection nested job basis rest
    | found => found

end

/-- The candidates where `levels` parameters may still be followed. -/
def candidatesAt (job : Job) :
    (levels : Nat) → Selector → Basis → Except SelectionError (List Build)
  | 0 => candidatesWith (fun _ _ => .ok []) job
  | levels + 1 =>
    candidatesWith (fun s basis => candidatesAt job levels s { basis with levels := levels }) job

/-- All candidates of the selector among the builds of a job, in the order of their being offered,
or why there are none. -/
def candidates (s : Selector) (job : Job) (basis : Basis) : Except SelectionError (List Build) :=
  candidatesAt job basis.levels s basis

/-- What an entry has selected, or else what the entries behind it select. -/
def firstOf (found otherwise : Except SelectionError (Option Build)) :
    Except SelectionError (Option Build) :=
  match found with
  | .ok none => otherwise
  | found => found

theorem firstSelection_cons (nested : Selector → Basis → Except SelectionError (List Build))
    (job : Job) (s : Selector) (f : Filter) (rest : List (Selector × Filter)) (basis : Basis) :
    firstSelection nested job basis ((s, f) :: rest) =
      firstOf ((candidatesWith nested job s (basis.narrowedBy f)).map
        (List.find? (basis.narrowedBy f).accepts)) (firstSelection nested job basis rest) := by
  rw [firstSelection]
  rfl

/-- The candidates of a selector that is read from a parameter. -/
def candidatesBelow (job : Job) :
    (levels : Nat) → Selector → Basis → Except SelectionError (List Build)
  | 0, _, _ => .ok []
  | levels + 1, s, basis => candidatesAt job levels s { basis with levels := levels }

theorem candidatesAt_eq (job : Job) (levels : Nat) :
    candidatesAt job levels = candidatesWith (candidatesBelow job levels) job := by
  cases levels with
  | zero => rfl
  | succ levels => rfl

/-! ### What is offered is the list -/

/-- How a selector that is read from a parameter is asked. -/
def nextBelow (job : Job) : (levels : Nat) → Selector → Context → Logged Offer
  | 0, _, ctx => do noticeTooManyLevels; return ⟨.ok none, ctx.attachments⟩
  | levels + 1, s, ctx => nextAt job levels s { ctx with levels := levels }

theorem nextAt_eq (job : Job) (levels : Nat) :
    nextAt job levels = nextWith (nextBelow job levels) job := by
  cases levels with
  | zero => rfl
  | succ levels => rfl

section

variable {job : Job} {s : Selector} {ctx : Context} {parameter : String}

theorem value_next_of_resolve_eq_none (hnone : (resolve ctx.vars parameter).value = none) :
    ((parameterized parameter).next job ctx).value = ⟨.ok none, ctx.attachments⟩ := by
  rw [next, nextAt_eq, nextWith, Logged.value_bind, hnone]
  rfl

theorem value_next_of_levels_eq_zero (hs : (resolve ctx.vars parameter).value = some s)
    (hlevels : ctx.levels = 0) :
    ((parameterized parameter).next job ctx).value = ⟨.ok none, ctx.attachments⟩ := by
  rw [next, nextAt_eq, nextWith, Logged.value_bind, hs, hlevels]
  rfl

theorem value_next_parameterized {levels : Nat}
    (hs : (resolve ctx.vars parameter).value = some s) (hlevels : ctx.levels = levels + 1) :
    ((parameterized parameter).next job ctx).value =
      (s.next job { ctx with levels := levels }).value := by
  rw [next, nextAt_eq, nextWith, Logged.value_bind, hs, hlevels]
  rfl

end

variable {nested : Selector → Context → Logged Offer}
  {nested' : Selector → Basis → Except SelectionError (List Build)} {job : Job}

theorem value_nextSingle (template : String)
    (lookup : String → Except SelectionError (Option Build)) (job : Job) (ctx : Context) :
    (nextSingle template lookup job ctx).value =
      if ctx.lastMatch.isSome then .ok none
      else if isUnresolved (ctx.vars.expand template) then .ok none
      else lookup (ctx.vars.expand template) := by
  unfold nextSingle
  split
  · rfl
  · dsimp only
    split
    · rfl
    · split
      · next hnone => exact hnone.symm
      · rfl

theorem offers_nextSingle {lookup : String → Except SelectionError (Option Build)}
    {ask : Option Build → List Attachment → Offer} {as : List Attachment} {ctx : Context}
    {template : String}
    (hask : ∀ last, ask last as = ⟨(nextSingle template lookup job (ctx.moved last as)).value, as⟩)
    (hlookup : ∀ key b, lookup key = .ok (some b) → b ∈ job.builds) :
    Offers job ask as (singleCandidate template lookup ctx.vars) := by
  let key := ctx.vars.expand template
  have hcandidate : singleCandidate template lookup ctx.vars =
      Except.map Option.toList (if isUnresolved key then .ok none else lookup key) := by
    rw [singleCandidate, apply_ite (Except.map Option.toList)]
    rfl
  rw [hcandidate]
  refine .single ?_ (fun b => ?_) fun b hb => ?_
  · rw [hask, value_nextSingle]
    simp only [Context.lastMatch_moved, Option.isSome_none, Bool.false_eq_true, if_false]
    rfl
  · rw [hask, value_nextSingle]
    simp only [Context.lastMatch_moved, Option.isSome_some, if_true]
  · split at hb
    · cases hb
    · exact hlookup key b hb

theorem mem_of_byNumber {key : String} {b : Build} (h : byNumber job key = .ok (some b)) :
    b ∈ job.builds := by
  unfold byNumber at h
  split at h
  · cases h
  · obtain ⟨n, -, hb⟩ := Option.bind_eq_some_iff.1 (Except.ok.inj h)
    exact (Job.mem_of_build? hb).1

theorem mem_of_byDisplayName {key : String} {b : Build}
    (h : byDisplayName job key = .ok (some b)) : b ∈ job.builds :=
  List.mem_of_find?_eq_some (Except.ok.inj h)

theorem mem_of_byPermalink {key : String} {b : Build} (h : byPermalink job key = .ok (some b)) :
    b ∈ job.builds := by
  have hb : job.permalink? key = some b := Except.ok.inj h
  unfold Job.permalink? at hb
  split at hb
  · exact List.mem_of_find?_eq_some hb
  · obtain ⟨n, -, hb⟩ := Option.bind_eq_some_iff.1 hb
    exact (Job.mem_of_build? hb).1

/-- From any place in the job's list of builds, the builds of a status are found one by one. -/
theorem enumerates_nextByStatus {s : Status} {ask : Option Build → List Attachment → Offer}
    {as : List Attachment} {last : Option Build} (before : List Build) {after : List Build}
    (hbuilds : job.builds = before ++ after) (hlast : ask last as = ⟨.ok (after.find? s.fits), as⟩)
    (hask : ∀ b, ask (some b) as = ⟨.ok (job.previousMatching? b.number s.fits), as⟩) :
    Enumerates ask last as (after.filter s.fits) as := by
  induction after generalizing before last with
  | nil => exact .done hlast
  | cons b after ih =>
      have hsplit : job.builds = (before ++ [b]) ++ after := by simpa using hbuilds
      by_cases hb : s.fits b
      · rw [List.find?_cons_of_pos hb] at hlast
        rw [List.filter_cons_of_pos hb]
        refine .more hlast (ih _ hsplit ?_)
        rw [hask, Job.previousMatching?_of_builds_eq hbuilds]
      · rw [List.find?_cons_of_neg hb] at hlast
        rw [List.filter_cons_of_neg hb]
        exact ih _ hsplit hlast

theorem offers_nextTriggering (dependencies : Bool) (strategy : Strategy) (ctx : Context)
    (as : List Attachment) :
    Offers job (asking (nextTriggering dependencies strategy job) ctx) as
      (candidatesWith nested' job (triggering dependencies strategy) ctx.basis) := by
  rw [candidatesWith]
  split
  · next horigin =>
      have hask : asking (nextTriggering dependencies strategy job) ctx none as =
          ⟨.ok none, as⟩ := by
        rw [asking, nextTriggering_of_origin_eq_none horigin, Logged.value_map]
      exact .listed (.done hask) (by simp) .nil
  · next origin horigin =>
      refine .listed (enumerates_nextTriggering as horigin)
        (fun b hb => (History.mem_triggeringBuilds_iff.1 hb).1) ?_
      refine (History.pairwise_triggeringBuilds _ _ _ _ _).imp ?_
      rintro a _ hprecedes rfl
      exact TriggerOrder.not_precedes_self _ _ hprecedes

theorem value_firstChoice_cons (nested : Selector → Context → Logged Offer) (job : Job)
    (ctx : Context) (s : Selector) (f : Filter) (rest : List (Selector × Filter)) :
    (firstChoice nested job ctx ((s, f) :: rest)).value =
      match (pickFrom (nextWith nested job s) s.label job (ctx.attempt f)).value.result with
      | .ok none => (firstChoice nested job ctx rest).value
      | found => found := by
  rw [firstChoice]
  simp only [Logged.value_bind]
  -- The two matches are written out apart, so they agree only in each of their cases.
  change Logged.value (match (pickFrom (nextWith nested job s) s.label job
    (ctx.attempt f)).value.result with | .ok none => _ | found => _) = _
  split
  · rfl
  · rfl

/-- The entries of a fallback are tried to the first that selects a build, which is one of the
job's. -/
theorem value_firstChoice {entries : List (Selector × Filter)}
    (hentries : ∀ entry ∈ entries, ∀ ctx as,
      Offers job (asking (nextWith nested job entry.1) ctx) as
        (candidatesWith nested' job entry.1 ctx.basis)) (ctx : Context) :
    (firstChoice nested job ctx entries).value = firstSelection nested' job ctx.basis entries ∧
      ∀ b, firstSelection nested' job ctx.basis entries = .ok (some b) → b ∈ job.builds := by
  induction entries with
  | nil =>
      rw [firstChoice, firstSelection]
      exact ⟨rfl, nofun⟩
  | cons entry entries ih =>
      obtain ⟨s, f⟩ := entry
      obtain ⟨hs, hentries⟩ := List.forall_mem_cons.1 hentries
      have hoffers := hs (ctx.attempt f) (ctx.attempt f).attachments
      have hmem (b : Build) : (candidatesWith nested' job s (ctx.attempt f).basis).map
          (List.find? (ctx.attempt f).accepts) = .ok (some b) → b ∈ job.builds :=
        hoffers.mem_of_map_find?
      rw [value_firstChoice_cons, hoffers.value_result_pickFrom, firstSelection,
        ← Context.basis_attempt, Context.accepts_basis]
      dsimp only
      split
      · exact ih hentries
      · exact ⟨rfl, hmem⟩

theorem asking_parameterized (nested : Selector → Context → Logged Offer) (job : Job)
    (parameter : String) (ctx : Context) :
    asking (nextWith nested job (parameterized parameter)) ctx =
      match (resolve ctx.vars parameter).value with
      | none => fun _ as => ⟨.ok none, as⟩
      | some s => asking (nested s) ctx := by
  funext last as
  rw [asking, nextWith, Logged.value_bind, Context.vars_moved]
  cases (resolve ctx.vars parameter).value with
  | none => rfl
  | some s => rfl

theorem offers_nextWith (hnested : ∀ s ctx as,
      Offers job (asking (nested s) ctx) as (nested' s ctx.basis)) (s : Selector) :
    ∀ ctx as, Offers job (asking (nextWith nested job s) ctx) as
      (candidatesWith nested' job s ctx.basis) := by
  induction s using Selector.induction with
  | buildNumber template =>
      intro ctx as
      rw [candidatesWith]
      refine offers_nextSingle (fun last => ?_) fun key b => mem_of_byNumber
      rw [asking, nextWith]
      rfl
  | displayName template =>
      intro ctx as
      rw [candidatesWith]
      refine offers_nextSingle (fun last => ?_) fun key b => mem_of_byDisplayName
      rw [asking, nextWith]
      rfl
  | permalink template =>
      intro ctx as
      rw [candidatesWith]
      refine offers_nextSingle (fun last => ?_) fun key b => mem_of_byPermalink
      rw [asking, nextWith]
      rfl
  | status s =>
      intro ctx as
      have hask (last : Option Build) : asking (nextWith nested job (.status s)) ctx last as =
          ⟨.ok (nextByStatus s job (ctx.moved last as)), as⟩ := by
        rw [asking, nextWith]
        rfl
      rw [candidatesWith]
      exact .listed (enumerates_nextByStatus [] rfl (hask none) fun b => hask (some b))
        (fun b hb => List.mem_of_mem_filter hb) (job.nodup_builds.filter _)
  | triggering dependencies strategy =>
      intro ctx as
      rw [nextWith_triggering]
      exact offers_nextTriggering dependencies strategy ctx as
  | fallback entries hentries =>
      intro ctx as
      obtain ⟨hvalue, hmem⟩ := value_firstChoice hentries (ctx.moved none as)
      rw [candidatesWith]
      refine .single ?_ (fun b => ?_) hmem
      · rw [asking, nextWith]
        exact congrArg (Offer.mk · as) hvalue
      · rw [asking, nextWith]
        rfl
  | parameterized parameter =>
      intro ctx as
      rw [candidatesWith, asking_parameterized]
      dsimp only [Context.basis]
      split
      · exact .listed (.done rfl) (by simp) .nil
      · next s _ => exact hnested s ctx as

theorem offers_nextAt (levels : Nat) (s : Selector) (ctx : Context) (as : List Attachment) :
    Offers job (asking (nextAt job levels s) ctx) as (candidatesAt job levels s ctx.basis) := by
  induction levels generalizing s ctx as with
  | zero =>
      rw [nextAt, candidatesAt]
      exact offers_nextWith (fun s ctx as => .listed (.done rfl) (by simp) .nil) s ctx as
  | succ levels ih =>
      rw [nextAt, candidatesAt]
      exact offers_nextWith (fun s ctx as => ih s { ctx with levels := levels } as) s ctx as

/-- Whatever records a context carries, a selector offers the list of its candidates. -/
theorem offers_next (s : Selector) (job : Job) (ctx : Context) (as : List Attachment) :
    Offers job (asking (s.next job) ctx) as (s.candidates job ctx.basis) :=
  offers_nextAt ctx.levels s ctx as

theorem exists_run_select (s : Selector) (job : Job) (ctx : Context) :
    ∃ rounds, Run (s.next job) { ctx with lastMatch := none } rounds (s.select job ctx).value := by
  obtain ⟨rounds, _, hrun, -⟩ := (s.offers_next job ctx ctx.attachments).exists_run s.label
  exact ⟨rounds, hrun⟩

/-- A selection leaves a context that differs in the last match and the records only. -/
theorem exists_moved_of_select (s : Selector) (job : Job) (ctx : Context) :
    let choice := (s.select job ctx).value
    ∃ as, choice.context = ctx.moved (selected? choice.result) as := by
  intro choice
  obtain ⟨_, as, -, -, hchoice⟩ := (s.offers_next job ctx ctx.attachments).exists_run s.label
  have hresult : choice.result = _ := congrArg Choice.result hchoice
  rw [hresult]
  exact ⟨as, congrArg Choice.context hchoice⟩

theorem value_result_select (s : Selector) (job : Job) (ctx : Context) :
    (s.select job ctx).value.result =
      (s.candidates job ctx.basis).map (List.find? ctx.basis.accepts) :=
  (s.offers_next job ctx ctx.attachments).value_result_pickFrom s.label

/-- What is selected is a build of the job that the filter in force accepts. -/
theorem mem_and_accepts_of_select {s : Selector} {job : Job} {ctx : Context} {b : Build}
    (hb : (s.select job ctx).value.result = .ok (some b)) :
    b ∈ job.builds ∧ ctx.accepts b = true := by
  rw [value_result_select] at hb
  constructor
  · exact (s.offers_next job ctx ctx.attachments).mem_of_map_find? hb
  · cases hbs : s.candidates job ctx.basis with
    | error e =>
        rw [hbs] at hb
        cases hb
    | ok bs =>
        rw [hbs] at hb
        exact List.find?_some (Except.ok.inj hb)

/-- A selection ends with the first candidate that the filter in force accepts, after hearing the
candidates up to this one, or it fails as they do. The build that it ends with is then the last
match on the context, where besides only the records may have changed. -/
theorem select_eq_find?_candidates (s : Selector) (job : Job) (ctx : Context) :
    let choice := (s.select job ctx).value
    ∃ rounds as, Run (s.next job) { ctx with lastMatch := none } rounds choice ∧
      rounds.map Round.answer = answersFrom ctx.accepts (s.candidates job ctx.basis) ∧
      choice.result = (s.candidates job ctx.basis).map (List.find? ctx.accepts) ∧
      choice.context =
        { ctx with lastMatch := selected? choice.result, attachments := as } := by
  intro choice
  obtain ⟨rounds, as, hrun, hanswers, hchoice⟩ :=
    (s.offers_next job ctx ctx.attachments).exists_run s.label
  have hresult : choice.result = _ := congrArg Choice.result hchoice
  refine ⟨rounds, as, hrun, hanswers, hresult, ?_⟩
  rw [hresult]
  exact congrArg Choice.context hchoice

end Selector

end BuildPicker
