import BuildPicker.Proofs.Codec.Filter
import BuildPicker.Proofs.History.Reordering
import BuildPicker.Proofs.Selection.Requests

/-!
Selections do not depend on the order in which a history is written.

The causes of a build have a part in the search for triggering builds only, and there
it matters which parents they name and not in which order. In all else a job counts
as it is without causes, and so it is the same however it was written. The outcomes
of a request on two such histories therefore differ in the causes of the build at
most.
-/

namespace BuildPicker

open BuildPicker.Text

/-! ### Verdicts -/

namespace Filter

variable {vars : Variables} {nested : Filter → Logged Bool} {b : Build}

theorem judgeAll_withoutCauses {filters : List Filter}
    (hfilters : ∀ f ∈ filters, judgeWith vars nested b.withoutCauses f = judgeWith vars nested b f)
    (label : String) :
    judgeAll vars nested b.withoutCauses label filters = judgeAll vars nested b label filters := by
  induction filters with
  | nil => rw [judgeAll, judgeAll]
  | cons f filters ih =>
      obtain ⟨hf, hfilters⟩ := List.forall_mem_cons.1 hfilters
      rw [judgeAll, judgeAll, hf, ih hfilters]
      rfl

theorem judgeAny_withoutCauses {filters : List Filter}
    (hfilters : ∀ f ∈ filters, judgeWith vars nested b.withoutCauses f = judgeWith vars nested b f)
    (label : String) :
    judgeAny vars nested b.withoutCauses label filters = judgeAny vars nested b label filters := by
  induction filters with
  | nil => rw [judgeAny, judgeAny]
  | cons f filters ih =>
      obtain ⟨hf, hfilters⟩ := List.forall_mem_cons.1 hfilters
      rw [judgeAny, judgeAny, hf, ih hfilters]
      rfl

theorem judgeWith_withoutCauses (f : Filter) :
    judgeWith vars nested b.withoutCauses f = judgeWith vars nested b f := by
  induction f using Filter.induction with
  | acceptAll | parameterized => rw [judgeWith, judgeWith]
  | displayName =>
      rw [judgeWith, judgeWith]
      rfl
  | and filters ih =>
      rw [judgeWith, judgeWith, judgeAll_withoutCauses ih]
  | or filters ih =>
      rw [judgeWith, judgeWith, judgeAny_withoutCauses ih]
  | not f ih =>
      rw [judgeWith, judgeWith, ih]
      rfl

theorem judge_withoutCauses (levels : Nat) (f : Filter) :
    judge vars levels b.withoutCauses f = judge vars levels b f := by
  induction levels generalizing f with
  | zero =>
      rw [judge, judge]
      exact judgeWith_withoutCauses f
  | succ levels ih =>
      rw [judge, judge, funext ih]
      exact judgeWith_withoutCauses f

end Filter

theorem Basis.accepts_withoutCauses (basis : Basis) (b : Build) :
    basis.accepts b.withoutCauses = basis.accepts b := by
  rw [accepts, Filter.judge_withoutCauses]
  rfl

/-! ### Look-ups -/

namespace Job

variable (j : Job)

theorem lastMatching?_withoutCauses {p : Build → Bool} (hp : ∀ b, p b.withoutCauses = p b) :
    j.withoutCauses.lastMatching? p = (j.lastMatching? p).map Build.withoutCauses := by
  have hcomp : p ∘ Build.withoutCauses = p := funext hp
  change (j.builds.map Build.withoutCauses).find? p = _
  rw [List.find?_map, hcomp]
  rfl

theorem filter_withoutCauses {p : Build → Bool} (hp : ∀ b, p b.withoutCauses = p b) :
    j.withoutCauses.builds.filter p = (j.builds.filter p).map Build.withoutCauses := by
  have hcomp : p ∘ Build.withoutCauses = p := funext hp
  change (j.builds.map Build.withoutCauses).filter p = _
  rw [List.filter_map, hcomp]

theorem build?_withoutCauses (n : BuildNumber) :
    j.withoutCauses.build? n = (j.build? n).map Build.withoutCauses :=
  j.lastMatching?_withoutCauses fun _ => rfl

theorem permalink?_withoutCauses (id : String) :
    j.withoutCauses.permalink? id = (j.permalink? id).map Build.withoutCauses := by
  unfold permalink?
  split
  · next p _ => exact j.lastMatching?_withoutCauses fun b => by cases p <;> rfl
  · rw [Option.map_bind]
    exact congrArg _ (funext j.build?_withoutCauses)

end Job

namespace Selector

theorem byNumber_withoutCauses (job : Job) (key : String) :
    byNumber job.withoutCauses key = (byNumber job key).map (Option.map Build.withoutCauses) := by
  unfold byNumber
  split
  · rfl
  · next i _ =>
      refine congrArg Except.ok ?_
      rw [Option.map_bind]
      exact congrArg _ (funext job.build?_withoutCauses)

theorem byDisplayName_withoutCauses (job : Job) (key : String) :
    byDisplayName job.withoutCauses key =
      (byDisplayName job key).map (Option.map Build.withoutCauses) :=
  congrArg Except.ok (job.lastMatching?_withoutCauses fun _ => rfl)

theorem byPermalink_withoutCauses (job : Job) (key : String) :
    byPermalink job.withoutCauses key =
      (byPermalink job key).map (Option.map Build.withoutCauses) :=
  congrArg Except.ok (job.permalink?_withoutCauses key)

end Selector

/-! ### Triggering builds -/

namespace History

variable {h k : History} {j j' : Job} {dependencies : Bool} {origin : BuildRef}

theorem Follows.of_isCovered (hcovered : h.IsCovered k) (hanswers : j.answersTo = j'.answersTo)
    {r : BuildRef} (hr : h.Follows j dependencies origin r) :
    k.Follows j' dependencies origin r := by
  induction hr with
  | origin => exact .origin
  | parent _ hb hp hother ih =>
      obtain ⟨b', hb', hbb'⟩ := hcovered.exists_build? hb
      exact .parent ih hb' (hbb'.mem_parents_iff.1 hp) (hanswers ▸ hother)

theorem Meets.of_isCovered (hcovered : h.IsCovered k) (hanswers : j.answersTo = j'.answersTo)
    {n : BuildNumber} (hn : h.Meets j dependencies origin n) :
    k.Meets j' dependencies origin n := by
  obtain ⟨r, b, p, hr, hb, hp, hown, hnumber⟩ := hn
  obtain ⟨b', hb', hbb'⟩ := hcovered.exists_build? hb
  exact ⟨r, b', p, hr.of_isCovered hcovered hanswers, hb', hbb'.mem_parents_iff.1 hp,
    hanswers ▸ hown, hnumber⟩

/-- Two jobs that selectors cannot tell apart but by the causes of builds, each with the history
in which triggering builds are searched for. -/
structure Resembles (h : History) (j : Job) (k : History) (j' : Job) : Prop where
  withoutCauses : j.withoutCauses = j'.withoutCauses
  meets : ∀ dependencies origin n,
    h.Meets j dependencies origin n ↔ k.Meets j' dependencies origin n

theorem resembles_of_isCovered (hcovered : h.IsCovered k) (hcovered' : k.IsCovered h)
    (hjob : j.IsReordering j') : h.Resembles j k j' where
  withoutCauses := hjob.withoutCauses
  meets _ _ _ := by
    have hanswers : j.answersTo = j'.answersTo :=
      (congrArg Job.answersTo hjob.withoutCauses :)
    exact ⟨.of_isCovered hcovered hanswers, .of_isCovered hcovered' hanswers.symm⟩

theorem Resembles.map_triggeringBuilds (hjobs : h.Resembles j k j') (order : TriggerOrder) :
    (h.triggeringBuilds j dependencies order origin).map Build.withoutCauses =
      (k.triggeringBuilds j' dependencies order origin).map Build.withoutCauses := by
  have hmet : (j.builds.filter fun b => h.Meets j dependencies origin b.number).map
        Build.withoutCauses =
      (j'.builds.filter fun b => k.Meets j' dependencies origin b.number).map
        Build.withoutCauses := calc
    _ = j.withoutCauses.builds.filter fun b => h.Meets j dependencies origin b.number :=
        (j.filter_withoutCauses fun _ => rfl).symm
    _ = j'.withoutCauses.builds.filter fun b => k.Meets j' dependencies origin b.number := by
        rw [hjobs.withoutCauses]
        exact List.filter_congr fun b _ => decide_eq_decide.2 (hjobs.meets _ _ b.number)
    _ = _ := j'.filter_withoutCauses fun _ => rfl
  cases order with
  | newestFirst => exact hmet
  | oldestFirst => rw [triggeringBuilds, triggeringBuilds, List.map_reverse, List.map_reverse, hmet]

end History

/-! ### Candidates -/

/-- The same over another history. -/
def Basis.over (basis : Basis) (h : History) : Basis :=
  { basis with history := h }

namespace Selector

variable {nested nested' : Selector → Basis → Except SelectionError (List Build)}
  {job job' : Job} {h k : History}

/-- Candidates up to their causes. -/
def withoutCauses (candidates : Except SelectionError (List Build)) :
    Except SelectionError (List Build) :=
  candidates.map (List.map Build.withoutCauses)

theorem withoutCauses_map_toList (found : Except SelectionError (Option Build)) :
    withoutCauses (found.map Option.toList) =
      (found.map (Option.map Build.withoutCauses)).map Option.toList := by
  cases found with
  | error e => rfl
  | ok b? =>
      cases b? with
      | none => rfl
      | some b => rfl

/-- No filter looks at the causes of a build. -/
theorem map_find?_withoutCauses (basis : Basis) (candidates : Except SelectionError (List Build)) :
    (withoutCauses candidates).map (List.find? basis.accepts) =
      (candidates.map (List.find? basis.accepts)).map (Option.map Build.withoutCauses) := by
  have haccepts : basis.accepts ∘ Build.withoutCauses = basis.accepts :=
    funext basis.accepts_withoutCauses
  cases candidates with
  | error e => rfl
  | ok bs =>
      refine congrArg Except.ok ?_
      rw [List.find?_map, haccepts]

theorem withoutCauses_singleCandidate_congr {template : String}
    {lookup lookup' : String → Except SelectionError (Option Build)} {vars : Variables}
    (hlookup : ∀ key, (lookup key).map (Option.map Build.withoutCauses) =
      (lookup' key).map (Option.map Build.withoutCauses)) :
    withoutCauses (singleCandidate template lookup vars) =
      withoutCauses (singleCandidate template lookup' vars) := by
  unfold singleCandidate
  dsimp only
  split
  · rfl
  · rw [withoutCauses_map_toList, hlookup, withoutCauses_map_toList]

theorem map_firstOf (found otherwise : Except SelectionError (Option Build)) (g : Build → Build) :
    (firstOf found otherwise).map (Option.map g) =
      firstOf (found.map (Option.map g)) (otherwise.map (Option.map g)) := by
  cases found with
  | error e => rfl
  | ok b? =>
      cases b? with
      | none => rfl
      | some b => rfl

theorem map_withoutCauses_firstSelection {entries : List (Selector × Filter)}
    (hentries : ∀ entry ∈ entries, ∀ basis : Basis,
      withoutCauses (candidatesWith nested job entry.1 (basis.over h)) =
        withoutCauses (candidatesWith nested' job' entry.1 (basis.over k))) (basis : Basis) :
    (firstSelection nested job (basis.over h) entries).map (Option.map Build.withoutCauses) =
      (firstSelection nested' job' (basis.over k) entries).map
        (Option.map Build.withoutCauses) := by
  induction entries with
  | nil => rw [firstSelection, firstSelection]
  | cons entry entries ih =>
      obtain ⟨s, f⟩ := entry
      obtain ⟨hs, hentries⟩ := List.forall_mem_cons.1 hentries
      have hfound := congrArg (Except.map (List.find? (basis.narrowedBy f).accepts))
        (hs (basis.narrowedBy f))
      rw [map_find?_withoutCauses, map_find?_withoutCauses] at hfound
      rw [firstSelection_cons, firstSelection_cons, map_firstOf, map_firstOf, ih hentries]
      exact congrArg (firstOf · _) hfound

/-- Over two histories that differ in how they were written, the candidates of a selector differ in
their causes at most. -/
theorem withoutCauses_candidatesWith (hjobs : h.Resembles job k job')
    (hnested : ∀ s (basis : Basis), withoutCauses (nested s (basis.over h)) =
      withoutCauses (nested' s (basis.over k))) (s : Selector) (basis : Basis) :
    withoutCauses (candidatesWith nested job s (basis.over h)) =
      withoutCauses (candidatesWith nested' job' s (basis.over k)) := by
  induction s using Selector.induction generalizing basis with
  | buildNumber template =>
      rw [candidatesWith, candidatesWith]
      exact withoutCauses_singleCandidate_congr fun key => by
        rw [← byNumber_withoutCauses, hjobs.withoutCauses, byNumber_withoutCauses]
  | displayName template =>
      rw [candidatesWith, candidatesWith]
      exact withoutCauses_singleCandidate_congr fun key => by
        rw [← byDisplayName_withoutCauses, hjobs.withoutCauses, byDisplayName_withoutCauses]
  | permalink template =>
      rw [candidatesWith, candidatesWith]
      exact withoutCauses_singleCandidate_congr fun key => by
        rw [← byPermalink_withoutCauses, hjobs.withoutCauses, byPermalink_withoutCauses]
  | status s =>
      have hfits (j : Job) : j.withoutCauses.builds.filter s.fits =
          (j.builds.filter s.fits).map Build.withoutCauses :=
        j.filter_withoutCauses fun b => by cases s <;> rfl
      rw [candidatesWith, candidatesWith]
      refine congrArg Except.ok ?_
      rw [← hfits, ← hfits, hjobs.withoutCauses]
  | triggering dependencies strategy =>
      rw [candidatesWith, candidatesWith]
      dsimp only [Basis.over]
      cases basis.origin with
      | none => rfl
      | some origin =>
          exact congrArg Except.ok (hjobs.map_triggeringBuilds _)
  | fallback entries hentries =>
      rw [candidatesWith, candidatesWith, withoutCauses_map_toList, withoutCauses_map_toList,
        map_withoutCauses_firstSelection hentries]
  | parameterized parameter =>
      rw [candidatesWith, candidatesWith]
      dsimp only [Basis.over]
      cases (resolve basis.vars parameter).value with
      | none => rfl
      | some s => exact hnested s basis

theorem withoutCauses_candidatesAt (hjobs : h.Resembles job k job') (levels : Nat) (s : Selector)
    (basis : Basis) :
    withoutCauses (candidatesAt job levels s (basis.over h)) =
      withoutCauses (candidatesAt job' levels s (basis.over k)) := by
  induction levels generalizing s basis with
  | zero =>
      rw [candidatesAt, candidatesAt]
      exact withoutCauses_candidatesWith hjobs (fun _ _ => rfl) s basis
  | succ levels ih =>
      rw [candidatesAt, candidatesAt]
      exact withoutCauses_candidatesWith hjobs
        (fun s basis => ih s { basis with levels := levels }) s basis

theorem map_withoutCauses_select (hjobs : h.Resembles job k job') (s : Selector) (ctx : Context) :
    (s.select job { ctx with history := h }).value.result.map (Option.map Build.withoutCauses) =
      (s.select job' { ctx with history := k }).value.result.map
        (Option.map Build.withoutCauses) := by
  have hcandidates := congrArg (Except.map (List.find? ctx.basis.accepts))
    (withoutCauses_candidatesAt hjobs ctx.levels s ctx.basis)
  rw [map_find?_withoutCauses, map_find?_withoutCauses] at hcandidates
  rw [value_result_select, value_result_select]
  exact hcandidates

end Selector

/-! ### Requests -/

namespace Request

variable {h k : History}

/-- Both histories have the job, or neither has. -/
theorem findJob_of_isCovered (hcovered : h.IsCovered k) (hcovered' : k.IsCovered h) (r : Request) :
    (∃ e, r.findJob h = .error e ∧ r.findJob k = .error e) ∨
      ∃ j j', r.findJob h = .ok j ∧ r.findJob k = .ok j' ∧ j.IsReordering j' := by
  unfold findJob
  split
  · exact .inl ⟨_, rfl, rfl⟩
  · next name _ =>
      cases hj : h.job? name with
      | none =>
          cases hj' : k.job? name with
          | none => exact .inl ⟨_, rfl, rfl⟩
          | some j' =>
              obtain ⟨j, hfound, -⟩ := hcovered' name j' hj'
              rw [hj] at hfound
              cases hfound
      | some j =>
          obtain ⟨j', hj', hjj'⟩ := hcovered name j hj
          rw [hj']
          exact .inr ⟨j, j', rfl, rfl, hjj'⟩

theorem map_ref_outcome (r : Request) (job : Job)
    (found : Except SelectionError (Option Build)) :
    (r.outcome job.withoutCauses (found.map (Option.map Build.withoutCauses))).map Build.ref =
      (r.outcome job found).map Build.ref := by
  cases found with
  | error e => rfl
  | ok b? =>
      cases b? with
      | none => rfl
      | some b => rfl

theorem map_ref_result_execute (hcovered : h.IsCovered k) (hcovered' : k.IsCovered h)
    (r : Request) (ctx : Context) :
    (r.execute { ctx with history := h }).value.result.map Build.ref =
      (r.execute { ctx with history := k }).value.result.map Build.ref := by
  obtain ⟨e, hjob, hjob'⟩ | ⟨j, j', hjob, hjob', hjj'⟩ := r.findJob_of_isCovered hcovered hcovered'
  · rw [value_execute_of_error hjob, value_execute_of_error hjob']
  · have hjobs := History.resembles_of_isCovered hcovered hcovered' hjj'
    have hselect := Selector.map_withoutCauses_select hjobs r.chosenSelector.value (r.prepared ctx)
    rw [value_execute_of_ok hjob, value_execute_of_ok hjob']
    dsimp only
    rw [← map_ref_outcome, ← map_ref_outcome r j', ← hjobs.withoutCauses]
    exact congrArg (fun found => (r.outcome j.withoutCauses found).map Build.ref) hselect

/-- A selection does not depend on the order in which the history is written. If a snapshot defines
nothing twice, then it can be loaded, and so can any other that lists the same jobs, the same builds
of a job and the same causes of a build, the causes also with repetitions. Whatever is requested,
with whatever origin, variables and settings, has the same outcome over both histories: the build
of the same job and number, or the same error. -/
theorem execute_of_isReordering {s t : Snapshot} (hs : s.IsUnrepeated) (hst : s.IsReordering t) :
    ∃ h k, History.ofSnapshot s = .ok h ∧ History.ofSnapshot t = .ok k ∧
      ∀ (r : Request) (ctx : Context),
        (r.execute { ctx with history := h }).value.result.map Build.ref =
          (r.execute { ctx with history := k }).value.result.map Build.ref := by
  obtain ⟨h, k, hh, hk, hcovered, hcovered'⟩ := History.exists_ofSnapshot_of_isReordering hs hst
  exact ⟨h, k, hh, hk, map_ref_result_execute hcovered hcovered'⟩

/-- A build that was triggered by both builds of a library, listed before and behind them. -/
theorem execute_of_isReordering_listed :
    let older := Build.ofTriggers "lib" 1 []
    let newer := Build.ofTriggers "lib" 2 []
    let lib (builds : List Build) : JobSnapshot := ⟨"lib", none, .empty, builds⟩
    let app (triggers : List BuildRef) : JobSnapshot :=
      ⟨"app", none, .empty, [.ofTriggers "app" 7 triggers]⟩
    let s : Snapshot := ⟨[lib [older, newer], app [older.ref, newer.ref]]⟩
    let t : Snapshot := ⟨[app [newer.ref, older.ref, newer.ref], lib [newer, older]]⟩
    s.IsUnrepeated ∧ s.IsReordering t ∧
      ∃ h k, History.ofSnapshot s = .ok h ∧ History.ofSnapshot t = .ok k ∧
        ∀ (r : Request) (ctx : Context),
          (r.execute { ctx with history := h }).value.result.map Build.ref =
            (r.execute { ctx with history := k }).value.result.map Build.ref := by
  intro older newer lib app s t
  have hnumbers : ∀ t ∈ s.jobs, t.IsUnrepeated := by
    simp [s, lib, app, older, newer, JobSnapshot.IsUnrepeated, Build.ofTriggers]
  have hs : s.IsUnrepeated := ⟨by decide, hnumbers⟩
  have hrefl (b : Build) : b.IsReordering b := ⟨rfl, fun _ => Iff.rfl⟩
  have hlib : (lib [older, newer]).IsReordering (lib [newer, older]) :=
    ⟨rfl, rfl, rfl, [newer, older], .swap _ _ _, .cons (hrefl newer) (.cons (hrefl older) .nil)⟩
  have happ : (app [older.ref, newer.ref]).IsReordering (app [newer.ref, older.ref, newer.ref]) :=
    ⟨rfl, rfl, rfl, _, .refl _, .cons ⟨rfl, by simp [Build.ofTriggers]⟩ .nil⟩
  have hst : s.IsReordering t := ⟨[app _, lib _], .swap _ _ _, .cons happ (.cons hlib .nil)⟩
  exact ⟨hs, hst, execute_of_isReordering hs hst⟩

end Request

end BuildPicker
