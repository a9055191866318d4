import BuildPicker.Selection.Candidate
import BuildPicker.Proofs.History.Job
import BuildPicker.Proofs.Selection.Run
import BuildPicker.Proofs.Selection.Search

/-!
What a triggering selector offers.

The first time it is asked, the selector puts the numbers of a search into a queue
on the context, in place of any queue that was there. Each time it takes one
number off, and when it finds the queue empty it detaches it. So it lists the
builds of the search one after the other, and leaves no queue behind.
-/

namespace BuildPicker

/-! ### The queue on a context -/

/-- The records other than queues. -/
def withoutQueues (as : List Attachment) : List Attachment :=
  as.filter fun a => !a.record.isQueue

theorem isQueue_of_mem_withoutQueues {as : List Attachment} {a : Attachment}
    (ha : a ∈ withoutQueues as) : a.record.isQueue = false := by
  simpa using (List.mem_filter.1 ha).2

theorem replaceQueue_eq (q : TriggerQueue) (as : List Attachment) :
    replaceQueue q as = withoutQueues as ++ [⟨none, .queue q⟩] := rfl

theorem queue?_eq_none {r : Record} (hr : r.isQueue = false) : r.queue? = none := by
  cases r with
  | queue => cases hr
  | copied => rfl
  | shared => rfl

theorem firstQueue?_replaceQueue (q : TriggerQueue) (as : List Attachment) :
    firstQueue? (replaceQueue q as) = some q := by
  have hnone : (withoutQueues as).findSome? (fun a => a.record.queue?) = none :=
    List.findSome?_eq_none_iff.2 fun a ha => queue?_eq_none (isQueue_of_mem_withoutQueues ha)
  rw [firstQueue?, replaceQueue_eq, List.findSome?_append, hnone]
  rfl

theorem setQueue_replaceQueue (q q' : TriggerQueue) (as : List Attachment) :
    setQueue q' (replaceQueue q as) = replaceQueue q' as := by
  -- Without a queue among the other records, the one behind them is the first.
  have hset (rest : List Attachment) (hrest : ∀ a ∈ rest, a.record.isQueue = false) :
      setQueue q' (rest ++ [⟨none, .queue q⟩]) = rest ++ [⟨none, .queue q'⟩] := by
    induction rest with
    | nil => rfl
    | cons a rest ih =>
        obtain ⟨ha, hrest⟩ := List.forall_mem_cons.1 hrest
        rw [List.cons_append, setQueue, if_neg (by simp [ha]), ih hrest, List.cons_append]
  exact hset _ fun a => isQueue_of_mem_withoutQueues

theorem dropQueue_replaceQueue (q : TriggerQueue) (as : List Attachment) :
    dropQueue (replaceQueue q as) = withoutQueues as := by
  have hothers : ∀ a ∈ withoutQueues as, ¬a.record.isQueue = true := fun a ha => by
    simp [isQueue_of_mem_withoutQueues ha]
  rw [dropQueue, replaceQueue_eq, List.eraseP_append_right _ hothers]
  exact List.append_nil _

/-! ### The builds of a search, in order -/

/-- One number comes before another. -/
def TriggerOrder.precedes : TriggerOrder → BuildNumber → BuildNumber → Prop
  | oldestFirst, m, n => m < n
  | newestFirst, m, n => n < m

theorem TriggerOrder.not_precedes_self (order : TriggerOrder) (n : BuildNumber) :
    ¬order.precedes n n := by
  cases order with
  | oldestFirst => exact UInt32.lt_irrefl n
  | newestFirst => exact UInt32.lt_irrefl n

namespace History

variable {h : History} {j : Job} {dependencies : Bool} {order : TriggerOrder} {origin : BuildRef}

/-- The job's builds that are met when triggers are followed from a build, in the given order. -/
def triggeringBuilds (h : History) (j : Job) (dependencies : Bool) (order : TriggerOrder)
    (origin : BuildRef) : List Build :=
  let met := j.builds.filter fun b => h.Meets j dependencies origin b.number
  match order with
  | .newestFirst => met
  | .oldestFirst => met.reverse

theorem mem_triggeringBuilds_iff {b : Build} :
    b ∈ h.triggeringBuilds j dependencies order origin ↔
      b ∈ j.builds ∧ h.Meets j dependencies origin b.number := by
  cases order with
  | oldestFirst => simp [triggeringBuilds]
  | newestFirst => simp [triggeringBuilds]

theorem length_triggeringBuilds_le :
    (h.triggeringBuilds j dependencies order origin).length ≤ j.builds.length := by
  cases order with
  | oldestFirst => exact List.length_reverse.trans_le (List.length_filter_le _ _)
  | newestFirst => exact List.length_filter_le _ _

theorem pairwise_triggeringBuilds (h : History) (j : Job) (dependencies : Bool)
    (order : TriggerOrder) (origin : BuildRef) :
    (h.triggeringBuilds j dependencies order origin).Pairwise
      fun a b => order.precedes a.number b.number := by
  cases order with
  | oldestFirst => exact List.pairwise_reverse.2 (j.descending.filter _)
  | newestFirst => exact j.descending.filter _

theorem value_triggering (h : History) (j : Job) (dependencies : Bool) (order : TriggerOrder)
    (origin : BuildRef) :
    (h.triggering j dependencies order origin).value =
      (h.triggeringBuilds j dependencies order origin).map Build.number := by
  have hmet : (j.builds.map Build.number).filter
        (h.search j dependencies (h.searchRounds dependencies) [origin] []).value.contains =
      (j.builds.filter fun b => h.Meets j dependencies origin b.number).map Build.number := by
    rw [List.filter_map]
    refine congrArg _ (List.filter_congr fun b _ => ?_)
    rw [Function.comp_apply, List.contains_eq_mem]
    exact decide_eq_decide.2 mem_search_iff
  simp only [triggering, Logged.value_bind, Logged.value_pure, hmet]
  cases order with
  | oldestFirst => exact List.map_reverse.symm
  | newestFirst => rfl

end History

/-! ### The candidates of the selector -/

namespace Selector

variable {job : Job} {ctx : Context} {dependencies : Bool} {strategy : Strategy}
  {origin : BuildRef}

/-- The offer when a number is taken off a queue of the job that stands behind other records. -/
def popPending (job : Job) (as : List Attachment) (pending : List BuildNumber) : Offer :=
  popQueue job (replaceQueue ⟨job.name, pending⟩ as)

theorem popPending_nil (job : Job) (as : List Attachment) :
    popPending job as [] = ⟨.ok none, withoutQueues as⟩ := by
  rw [popPending, popQueue, firstQueue?_replaceQueue, dropQueue_replaceQueue]

theorem popPending_cons (job : Job) (n : BuildNumber) (pending : List BuildNumber)
    (as : List Attachment) :
    popPending job as (n :: pending) =
      ⟨.ok (job.build? n), replaceQueue ⟨job.name, pending⟩ as⟩ := by
  rw [popPending, popQueue, firstQueue?_replaceQueue]
  exact congrArg _ (setQueue_replaceQueue _ _ _)

theorem nextWith_triggering (nested : Selector → Context → Logged Offer) (job : Job)
    (dependencies : Bool) (strategy : Strategy) :
    nextWith nested job (triggering dependencies strategy) =
      nextTriggering dependencies strategy job := by
  funext ctx
  rw [nextWith]

theorem next_triggering (dependencies : Bool) (strategy : Strategy) (job : Job) :
    (triggering dependencies strategy).next job = nextTriggering dependencies strategy job := by
  funext ctx
  rw [next]
  cases ctx.levels with
  | zero => rw [nextAt, nextWith_triggering]
  | succ levels => rw [nextAt, nextWith_triggering]

theorem nextTriggering_of_origin_eq_none (horigin : ctx.origin = none) (as : List Attachment) :
    nextTriggering dependencies strategy job (ctx.moved none as) =
      (fun _ => ⟨.ok none, as⟩) <$>
        notice "No originating build, cannot follow upstream causes" := by
  have hstart : isResuming job (ctx.moved none as) = false := rfl
  have horigin : (ctx.moved none as).origin = none := horigin
  rw [nextTriggering, hstart, horigin]
  rfl

/-- The first time, what a search finds is queued. -/
theorem nextTriggering_start (horigin : ctx.origin = some origin) (as : List Attachment) :
    nextTriggering dependencies strategy job (ctx.moved none as) =
      popPending job as <$>
        ctx.history.triggering job dependencies (strategy.order ctx.settings) origin := by
  have hstart : isResuming job (ctx.moved none as) = false := rfl
  have horigin : (ctx.moved none as).origin = some origin := horigin
  rw [nextTriggering, hstart, horigin]
  rfl

theorem nextTriggering_resume (b : Build) (pending : List BuildNumber) (as : List Attachment) :
    nextTriggering dependencies strategy job
        (ctx.moved (some b) (replaceQueue ⟨job.name, pending⟩ as)) =
      pure (popPending job as pending) := by
  have hresuming : isResuming job
      (ctx.moved (some b) (replaceQueue ⟨job.name, pending⟩ as)) = true := by
    simp [isResuming, firstQueue?_replaceQueue]
  rw [nextTriggering, hresuming]
  rfl

/-- A queue of the job is emptied from the front, also if its first number is taken off at once. -/
theorem enumerates_of_popPending {ask : Option Build → List Attachment → Offer}
    {last : Option Build} {as as' : List Attachment} {bs : List Build}
    (hbs : ∀ b ∈ bs, b ∈ job.builds)
    (hfirst : ask last as' = popPending job as (bs.map Build.number))
    (hask : ∀ b pending, ask (some b) (replaceQueue ⟨job.name, pending⟩ as) =
      popPending job as pending) :
    Enumerates ask last as' bs (withoutQueues as) := by
  induction bs generalizing last as' with
  | nil => exact .done (hfirst.trans (popPending_nil job as))
  | cons b bs ih =>
      obtain ⟨hb, hbs⟩ := List.forall_mem_cons.1 hbs
      rw [List.map_cons, popPending_cons, Job.build?_number hb] at hfirst
      exact .more hfirst (ih hbs (hask b _))

theorem enumerates_nextTriggering (as : List Attachment) (horigin : ctx.origin = some origin) :
    Enumerates (asking (nextTriggering dependencies strategy job) ctx) none as
      (ctx.history.triggeringBuilds job dependencies (strategy.order ctx.settings) origin)
      (withoutQueues as) := by
  refine enumerates_of_popPending (fun b hb => (History.mem_triggeringBuilds_iff.1 hb).1) ?_ ?_
  · rw [asking, nextTriggering_start horigin, Logged.value_map, History.value_triggering]
  · intro b pending
    rw [asking, nextTriggering_resume, Logged.value_pure]

/-- In a run that accepts nothing the selector offers the numbers of the job's builds that are
met when triggers are followed from the origin, each once and in order, and then nothing; no queue
is left on the context. -/
theorem run_triggering (job : Job) (ctx : Context) (dependencies : Bool) (strategy : Strategy)
    (origin : BuildRef) (horigin : ctx.origin = some origin)
    (hrejects : ∀ b ∈ job.builds, ctx.accepts b = false) :
    let s := triggering dependencies strategy
    let choice := (s.select job ctx).value
    ∃ (rounds : List Round) (offered : List Build),
      Run (s.next job) { ctx with lastMatch := none } rounds choice ∧
      rounds.map Round.answer = offered.map (fun b => .ok (some b)) ++ [.ok none] ∧
      (∀ n, n ∈ offered.map Build.number ↔
        ctx.history.Meets job dependencies origin n ∧ (job.build? n).isSome) ∧
      (offered.map Build.number).Pairwise (strategy.order ctx.settings).precedes ∧
      choice.result = .ok none ∧
      ∀ a ∈ choice.context.attachments, a.record.isQueue = false := by
  intro s choice
  let offered :=
    ctx.history.triggeringBuilds job dependencies (strategy.order ctx.settings) origin
  have hmem {b : Build} : b ∈ offered ↔ b ∈ job.builds ∧ _ := History.mem_triggeringBuilds_iff
  have hpairwise : offered.Pairwise _ := History.pairwise_triggeringBuilds _ _ _ _ _
  have hrejected : ∀ b ∈ offered, ctx.accepts b = false := fun b hb => hrejects b (hmem.1 hb).1
  have hnone : offered.find? ctx.accepts = none :=
    List.find?_eq_none.2 fun b hb => by simp [hrejected b hb]
  have hlist : Enumerates (asking (s.next job) ctx) none ctx.attachments offered
      (withoutQueues ctx.attachments) := by
    rw [next_triggering]
    exact enumerates_nextTriggering _ horigin
  have hlength : (answersTo ctx.accepts offered).length ≤ job.builds.length + 1 :=
    Nat.le_trans (length_answersTo_le _ _)
      (Nat.add_le_add_right History.length_triggeringBuilds_le 1)
  obtain ⟨rounds, final, hrun, hanswers, hchoice, hfinal⟩ :=
    hlist.exists_run_pickFrom s.label hlength
  rw [hnone] at hchoice hfinal
  refine ⟨rounds, offered, hrun, ?_, fun n => ?_, hpairwise.map _ fun _ _ => id, ?_, ?_⟩
  · rw [hanswers, answersTo_of_rejects hrejected]
  · rw [List.mem_map, Job.isSome_build?_iff]
    constructor
    · rintro ⟨b, hb, rfl⟩
      obtain ⟨hjob, hmet⟩ := hmem.1 hb
      exact ⟨hmet, b, hjob, rfl⟩
    · rintro ⟨hmet, b, hjob, rfl⟩
      exact ⟨b, hmem.2 ⟨hjob, hmet⟩, rfl⟩
  · exact congrArg Choice.result hchoice
  · have hattachments : choice.context.attachments = final :=
      congrArg (fun c => c.context.attachments) hchoice
    rw [hattachments, hfinal rfl]
    exact fun a => isQueue_of_mem_withoutQueues

end Selector

/-! ### Builds that triggered each other -/

def Build.ofTriggers (job : JobName) (number : BuildNumber) (triggers : List BuildRef) : Build :=
  ⟨job, number, none, some .success, triggers.map .triggered, .empty⟩

def Job.ofBuild (b : Build) : Job :=
  ((Job.empty b.job none .empty).insert b).2

/-- A configuration of the job `lib`. -/
def Job.library : Job where
  name := "lib/linux"
  root := some "lib"
  builds := [3, 2, 1].map fun number => .ofTriggers "lib/linux" number []
  permalinks := .empty
  descending := by decide
  owned := by decide

/-- An application and its deployment, of which each triggered the other. One cause is the library
under the name of its root, one is gone, and an older library went into the application. -/
def History.looped : History :=
  let app := Build.ofTriggers "app" 7 [⟨"deploy", 4⟩, ⟨"lib", 3⟩]
  let app := { app with dependencies := Table.empty.insert "lib/linux" 1 }
  let deploy := Build.ofTriggers "deploy" 4 [⟨"app", 7⟩, ⟨"gone", 1⟩]
  ((empty.insert .library).insert (.ofBuild app)).insert (.ofBuild deploy)

/-- The deployment asks for a library, and no filter would have any. -/
def Context.looped : Context :=
  { Context.fresh .looped with origin := some ⟨"deploy", 4⟩, filter := .or [] }

namespace Selector

theorem run_triggering_looped :
    let s := triggering true .newest
    let choice := (s.select .library .looped).value
    Context.looped.origin = some ⟨"deploy", 4⟩ ∧
    (∀ b ∈ Job.library.builds, Context.looped.accepts b = false) ∧
    ∃ (rounds : List Round) (offered : List Build),
      Run (s.next .library) { Context.looped with lastMatch := none } rounds choice ∧
      rounds.map Round.answer = offered.map (fun b => .ok (some b)) ++ [.ok none] ∧
      (∀ n, n ∈ offered.map Build.number ↔ n = 3 ∨ n = 1) ∧
      (offered.map Build.number).Pairwise (· > ·) ∧ choice.result = .ok none ∧
      ∀ a ∈ choice.context.attachments, a.record.isQueue = false := by
  have hrejects : ∀ b ∈ Job.library.builds, Context.looped.accepts b = false := by decide
  obtain ⟨rounds, offered, hrun, hanswers, hmem, horder, hresult, hqueues⟩ :=
    run_triggering .library .looped true .newest ⟨"deploy", 4⟩ rfl hrejects
  refine ⟨rfl, hrejects, rounds, offered, hrun, hanswers, fun n => ?_, horder, hresult, hqueues⟩
  -- What is met is decided by the search.
  have hmet : ∀ b ∈ Job.library.builds,
      History.looped.Meets .library true ⟨"deploy", 4⟩ b.number ↔ b.number = 3 ∨ b.number = 1 := by
    decide
  have hbuilds : ∀ n, n = 3 ∨ n = 1 → (Job.library.build? n).isSome := by
    rintro _ (rfl | rfl)
    · rfl
    · rfl
  rw [hmem]
  constructor
  · rintro ⟨hn, hsome⟩
    obtain ⟨b, hb, rfl⟩ := Job.isSome_build?_iff.1 hsome
    exact (hmet b hb).1 hn
  · intro hn
    obtain ⟨b, hb, rfl⟩ := Job.isSome_build?_iff.1 (hbuilds n hn)
    exact ⟨(hmet b hb).2 hn, hbuilds _ hn⟩

end Selector

end BuildPicker
