import BuildPicker.Proofs.Selection.Requests

/-!
Queues from call to call.

A triggering selector leaves its queue on the context between two calls, where other
calls come upon it: they may be about another job or go in the other order, or they are
made on a fork. Whatever callers do, a context carries one queue at most. Its numbers
stand in one of the two orders, and each of them is that of a build of the queue's job.
-/

namespace BuildPicker

/-! ### The queues among attachments -/

/-- The queues among attachments, in the order in which they are attached. -/
def queues (as : List Attachment) : List TriggerQueue :=
  as.filterMap fun a => a.record.queue?

theorem queues_append (as as' : List Attachment) : queues (as ++ as') = queues as ++ queues as' :=
  List.filterMap_append

theorem firstQueue?_eq_head? (as : List Attachment) : firstQueue? as = (queues as).head? :=
  List.head?_filterMap.symm

theorem exists_queue {r : Record} (hr : r.isQueue = true) : ∃ q, r = .queue q := by
  cases r with
  | queue q => exact ⟨q, rfl⟩
  | copied => cases hr
  | shared => cases hr

theorem queues_cons_of_isQueue {a : Attachment} {as : List Attachment} {q : TriggerQueue}
    (ha : a.record = .queue q) : queues (a :: as) = q :: queues as := by
  rw [queues, List.filterMap_cons, ha]
  rfl

theorem queues_cons_of_not_isQueue {a : Attachment} (as : List Attachment)
    (ha : a.record.isQueue = false) : queues (a :: as) = queues as := by
  rw [queues, List.filterMap_cons, queue?_eq_none ha]
  rfl

/-- Another queue in the record of the first one leaves those behind it as they are. -/
theorem queues_setQueue {as : List Attachment} {q q' : TriggerQueue} {rest : List TriggerQueue}
    (h : queues as = q :: rest) : queues (setQueue q' as) = q' :: rest := by
  induction as with
  | nil => cases h
  | cons a as ih =>
      by_cases ha : a.record.isQueue = true
      · obtain ⟨q₀, hq₀⟩ := exists_queue ha
        rw [queues_cons_of_isQueue hq₀, List.cons.injEq] at h
        rw [setQueue, if_pos ha, queues_cons_of_isQueue rfl, h.2]
      · have hother : a.record.isQueue = false := Bool.eq_false_iff.2 ha
        rw [queues_cons_of_not_isQueue as hother] at h
        rw [setQueue, if_neg ha, queues_cons_of_not_isQueue _ hother, ih h]

theorem queues_dropQueue (as : List Attachment) : queues (dropQueue as) = (queues as).tail := by
  induction as with
  | nil => rfl
  | cons a as ih =>
      by_cases ha : a.record.isQueue = true
      · obtain ⟨q, hq⟩ := exists_queue ha
        have hdrop : dropQueue (a :: as) = as := by simp [dropQueue, ha]
        rw [hdrop, queues_cons_of_isQueue hq, List.tail_cons]
      · have hother : a.record.isQueue = false := Bool.eq_false_iff.2 ha
        have hdrop : dropQueue (a :: as) = a :: dropQueue as := by simp [dropQueue, hother]
        rw [hdrop, queues_cons_of_not_isQueue _ hother, queues_cons_of_not_isQueue _ hother, ih]

theorem queues_withoutQueues (as : List Attachment) : queues (withoutQueues as) = [] :=
  List.filterMap_eq_nil_iff.2 fun _ ha => queue?_eq_none (isQueue_of_mem_withoutQueues ha)

theorem queues_replaceQueue (q : TriggerQueue) (as : List Attachment) :
    queues (replaceQueue q as) = [q] := by
  rw [replaceQueue_eq, queues_append, queues_withoutQueues]
  rfl

theorem Attachment.queue?_forked (a : Attachment) :
    a.forked.record.queue? = a.record.queue? := by
  rcases a with ⟨handle, record⟩
  cases record with
  | queue => rfl
  | copied => rfl
  | shared => rfl

theorem queues_fork (ctx : Context) : queues ctx.fork.attachments = queues ctx.attachments := by
  change (ctx.attachments.map Attachment.forked).filterMap _ = _
  rw [List.filterMap_map]
  exact List.filterMap_congr fun a _ => a.queue?_forked

/-! ### What all queues have in common -/

/-- The numbers of a queue stand in one of the two orders, and the job that it is for is in the
history and has a build for each of them. -/
structure TriggerQueue.IsValid (h : History) (q : TriggerQueue) : Prop where
  ordered : ∃ order : TriggerOrder, q.pending.Pairwise order.precedes
  present : ∃ job, h.job? q.job = some job ∧ ∀ n ∈ q.pending, ∃ b ∈ job.builds, b.number = n

/-- There is at most one queue among attachments, and it is a valid one. -/
structure HoldsOneQueue (h : History) (as : List Attachment) : Prop where
  length_le_one : (queues as).length ≤ 1
  isValid : ∀ q ∈ queues as, q.IsValid h

section

variable {h : History} {job : Job} {as : List Attachment} {q : TriggerQueue}

theorem TriggerQueue.IsValid.tail {name : JobName} {n : BuildNumber} {pending : List BuildNumber}
    (hq : IsValid h ⟨name, n :: pending⟩) : IsValid h ⟨name, pending⟩ where
  ordered := by
    rcases hq.ordered with ⟨order, hordered⟩
    exact ⟨order, hordered.of_cons⟩
  present := by
    rcases hq.present with ⟨job, hjob, hbuilds⟩
    exact ⟨job, hjob, fun m hm => hbuilds m (List.mem_cons_of_mem n hm)⟩

/-- What a search of the history puts into a queue for a job of the history. -/
theorem History.isValid_triggering (hjob : h.job? job.name = some job) (dependencies : Bool)
    (order : TriggerOrder) (origin : BuildRef) :
    TriggerQueue.IsValid h
      ⟨job.name, (h.triggering job dependencies order origin).value⟩ where
  ordered := by
    rw [value_triggering]
    exact ⟨order, (h.pairwise_triggeringBuilds job dependencies order origin).map _ fun _ _ => id⟩
  present := by
    refine ⟨job, hjob, fun n hn => ?_⟩
    rw [value_triggering, List.mem_map] at hn
    rcases hn with ⟨b, hb, rfl⟩
    exact ⟨b, (mem_triggeringBuilds_iff.1 hb).1, rfl⟩

namespace HoldsOneQueue

theorem of_queues_eq_nil (hnil : queues as = []) : HoldsOneQueue h as := by
  constructor
  · rw [hnil]
    exact Nat.zero_le 1
  · rw [hnil]
    nofun

theorem of_queues_eq_singleton (hq : queues as = [q]) (hvalid : q.IsValid h) :
    HoldsOneQueue h as := by
  constructor
  · rw [hq]
    exact Nat.le_refl 1
  · rw [hq]
    exact List.forall_mem_singleton.2 hvalid

theorem queues_eq (hone : HoldsOneQueue h as) :
    queues as = [] ∨ ∃ q, queues as = [q] ∧ q.IsValid h := by
  cases hqueues : queues as with
  | nil => exact .inl rfl
  | cons q rest =>
      have hlength := hone.length_le_one
      rw [hqueues, List.length_cons] at hlength
      have hrest : rest = [] := List.eq_nil_of_length_eq_zero (by omega)
      exact .inr ⟨q, by rw [hrest], hone.isValid q (hqueues ▸ List.mem_cons_self)⟩

/-- A queue is left with the numbers behind the first one, or detached if there is none. -/
theorem popQueue (hone : HoldsOneQueue h as) (job : Job) :
    HoldsOneQueue h (Selector.popQueue job as).attachments := by
  rcases hone.queues_eq with hnil | ⟨⟨name, pending⟩, hq, hvalid⟩
  · rw [Selector.popQueue, firstQueue?_eq_head?, hnil]
    apply of_queues_eq_nil
    rw [List.head?_nil, queues_dropQueue, hnil, List.tail_nil]
  · rw [Selector.popQueue, firstQueue?_eq_head?, hq]
    cases pending with
    | nil =>
        apply of_queues_eq_nil
        rw [List.head?_cons, queues_dropQueue, hq, List.tail_cons]
    | cons n pending => exact of_queues_eq_singleton (queues_setQueue hq) hvalid.tail

end HoldsOneQueue

end

/-! ### Asking for candidates -/

theorem History.job?_name {h : History} {name : JobName} {job : Job}
    (hjob : h.job? name = some job) : h.job? job.name = some job := by
  have hname : job.name = name := h.named _ (mem_entries_of_job? hjob)
  rwa [hname]

theorem Request.job?_of_findJob {r : Request} {h : History} {job : Job}
    (hfind : r.findJob h = .ok job) : h.job? job.name = some job := by
  unfold findJob at hfind
  split at hfind
  · cases hfind
  · split at hfind
    · cases hfind
    · next hjob =>
        cases hfind
        exact History.job?_name hjob

namespace HoldsOneQueue

variable {job : Job}

theorem nextTriggering {ctx : Context} (hone : HoldsOneQueue ctx.history ctx.attachments)
    (hjob : ctx.history.job? job.name = some job) (dependencies : Bool) (strategy : Strategy) :
    HoldsOneQueue ctx.history
      (Selector.nextTriggering dependencies strategy job ctx).value.attachments := by
  unfold Selector.nextTriggering
  split
  · exact hone.popQueue job
  · split
    · exact hone
    · next origin _ =>
        -- The new queue takes the place of any other, also of one for another job.
        have hvalid := History.isValid_triggering hjob dependencies
          (strategy.order ctx.settings) origin
        exact (of_queues_eq_singleton (queues_replaceQueue _ _) hvalid).popQueue job

/-- Only a triggering selector touches the records, and a parameter may lead to one. -/
theorem nextWith {nested : Selector → Context → Logged Offer}
    (hnested : ∀ s ctx, HoldsOneQueue ctx.history ctx.attachments →
      ctx.history.job? job.name = some job →
      HoldsOneQueue ctx.history (nested s ctx).value.attachments)
    (s : Selector) {ctx : Context} (hone : HoldsOneQueue ctx.history ctx.attachments)
    (hjob : ctx.history.job? job.name = some job) :
    HoldsOneQueue ctx.history (s.nextWith nested job ctx).value.attachments := by
  cases s with
  | buildNumber | displayName | permalink | status =>
      rw [Selector.nextWith]
      exact hone
  | triggering dependencies strategy =>
      rw [Selector.nextWith]
      exact hone.nextTriggering hjob dependencies strategy
  | fallback entries =>
      rw [Selector.nextWith]
      split
      · exact hone
      · exact hone
  | parameterized parameter =>
      rw [Selector.nextWith, Logged.value_bind]
      split
      · exact hone
      · next s _ => exact hnested s ctx hone hjob

theorem nextAt (levels : Nat) (s : Selector) (ctx : Context)
    (hone : HoldsOneQueue ctx.history ctx.attachments)
    (hjob : ctx.history.job? job.name = some job) :
    HoldsOneQueue ctx.history (Selector.nextAt job levels s ctx).value.attachments := by
  induction levels generalizing s ctx with
  | zero =>
      rw [Selector.nextAt]
      exact nextWith (fun _ _ hone _ => hone) s hone hjob
  | succ levels ih =>
      rw [Selector.nextAt]
      exact nextWith (fun s ctx => ih s { ctx with levels := levels }) s hone hjob

theorem next {ctx : Context} (hone : HoldsOneQueue ctx.history ctx.attachments)
    (hjob : ctx.history.job? job.name = some job) (s : Selector) :
    HoldsOneQueue ctx.history (s.next job ctx).value.attachments :=
  nextAt ctx.levels s ctx hone hjob

/-! ### Whole selections -/

/-- Where a loop ends, the records are those that the last answer left. -/
theorem run {s : Selector} {ctx : Context} {rounds : List Round} {choice : Choice}
    (hrun : Run (s.next job) ctx rounds choice)
    (hone : HoldsOneQueue ctx.history ctx.attachments)
    (hjob : ctx.history.job? job.name = some job) :
    HoldsOneQueue ctx.history choice.context.attachments := by
  induction hrun with
  | failed hnext | exhausted hnext | accepted hnext =>
      have hoffer := hone.next hjob s
      rwa [hnext] at hoffer
  | declined hnext _ _ ih =>
      have hoffer := hone.next hjob s
      rw [hnext] at hoffer
      exact ih hoffer hjob

theorem select {ctx : Context} (hone : HoldsOneQueue ctx.history ctx.attachments)
    (hjob : ctx.history.job? job.name = some job) (s : Selector) :
    HoldsOneQueue ctx.history (s.select job ctx).value.context.attachments := by
  rcases s.exists_run_select job ctx with ⟨rounds, hrun⟩
  have hend := run hrun hone hjob
  exact hend

/-- A request selects among the builds of a job of the history, and else leaves the context. -/
theorem execute {ctx : Context} (hone : HoldsOneQueue ctx.history ctx.attachments) (r : Request) :
    HoldsOneQueue ctx.history (r.execute ctx).value.context.attachments := by
  cases hfind : r.findJob ctx.history with
  | error e =>
      rw [Request.value_execute_of_error hfind]
      exact hone
  | ok job =>
      have hjob : ctx.history.job? job.name = some job := Request.job?_of_findJob hfind
      rw [Request.value_execute_of_ok hfind]
      have hprepared : HoldsOneQueue (r.prepared ctx).history (r.prepared ctx).attachments := hone
      exact hprepared.select hjob r.chosenSelector.value

end HoldsOneQueue

/-! ### Contexts of callers -/

/-- Whether a caller names a job of the history. -/
def Operation.IsWithin (h : History) : Operation → Prop
  | next _ job | select _ job => h.job? job.name = some job
  | execute _ | setLastMatch _ | setFilter _ => True

/-- The contexts to which callers come from a fresh one, by operations on jobs of the history and
by forks. -/
inductive Context.Reached (h : History) : Context → Prop
  | fresh (origin : Option BuildRef) (vars : Variables) (settings : Settings) (verbose : Bool) :
      Reached h { Context.fresh h with origin, vars, settings, verbose }
  | operation {ctx : Context} {op : Operation} (hctx : Reached h ctx) (hop : op.IsWithin h) :
      Reached h (op.context ctx)
  | fork {ctx : Context} (hctx : Reached h ctx) : Reached h ctx.fork

namespace Context

variable {h : History} {ctx : Context}

theorem Reached.history_eq (hctx : Reached h ctx) : ctx.history = h := by
  induction hctx with
  | fresh => rfl
  | @operation ctx op _ _ ih =>
      have hrenewed := congrArg history (op.renewed_context ctx)
      exact hrenewed.trans ih
  | fork _ ih => exact ih

theorem Reached.holdsOneQueue (hctx : Reached h ctx) : HoldsOneQueue h ctx.attachments := by
  induction hctx with
  | fresh => exact .of_queues_eq_nil rfl
  | @operation ctx op hctx hop hone =>
      obtain rfl := hctx.history_eq
      cases op with
      | execute r => exact hone.execute r
      | next s job => exact hone.next hop s
      | select s job => exact hone.select hop s
      | setLastMatch | setFilter => exact hone
  | @fork ctx _ hone =>
      constructor
      · rw [queues_fork]
        exact hone.length_le_one
      · rw [queues_fork]
        exact hone.isValid

/-- Whatever callers do with contexts, each of them carries one queue at most. What is left in a
queue stands in ascending or in descending order, and each number is that of a build which the job
of the queue has. -/
theorem Reached.queue_ordered (hctx : Reached h ctx) :
    (queues ctx.attachments).length ≤ 1 ∧
    ∀ q ∈ queues ctx.attachments,
      (q.pending.Pairwise (· < ·) ∨ q.pending.Pairwise (· > ·)) ∧
      ∃ job, h.job? q.job = some job ∧ ∀ n ∈ q.pending, ∃ b ∈ job.builds, b.number = n := by
  refine ⟨hctx.holdsOneQueue.length_le_one, fun q hq => ?_⟩
  rcases hctx.holdsOneQueue.isValid q hq with ⟨⟨order, hordered⟩, hpresent⟩
  refine ⟨?_, hpresent⟩
  cases order with
  | oldestFirst => exact .inl hordered
  | newestFirst => exact .inr hordered

/-- The first of two libraries has been taken, and the context forked. -/
theorem queue_ordered_looped :
    let s := Selector.triggering true .newest
    let started := { fresh .looped with origin := some ⟨"deploy", 4⟩ }
    let ctx := ((Operation.next s .library).context started).fork
    Reached .looped ctx ∧ queues ctx.attachments = [⟨"lib/linux", [1]⟩] ∧
    (queues ctx.attachments).length ≤ 1 ∧
    ∃ job, History.looped.job? "lib/linux" = some job ∧ ∃ b ∈ job.builds, b.number = 1 := by
  intro s started ctx
  have hjob : History.looped.job? "lib/linux" = some .library := by decide
  have hctx : Reached .looped ctx := .fork (.operation (.fresh _ _ _ _) hjob)
  have hqueues : queues ctx.attachments = [⟨"lib/linux", [1]⟩] := by
    rw [queues_fork, Operation.context, Selector.next_triggering]
    decide
  rcases hctx.queue_ordered with ⟨hlength, hvalid⟩
  rcases hvalid ⟨"lib/linux", [1]⟩ (hqueues ▸ List.mem_cons_self) with ⟨-, job, hjob, hbuilds⟩
  exact ⟨hctx, hqueues, hlength, job, hjob, hbuilds 1 List.mem_cons_self⟩

end Context

end BuildPicker
