import BuildPicker.Proofs.Selection.Leftovers
import BuildPicker.Proofs.Selection.Responses
import Mathlib.Data.List.Induction

/-!
Verbosities of requests.

A request that gives a verbosity puts it on the context once it has found its job,
and there it stays, for the requests that follow and give none. Apart from this
nothing of a request is seen in the lines of a later one, which are those of a fresh
context with the verbosity that the context has come to.
-/

namespace BuildPicker

/-- The context after some requests, one after the other. -/
def Context.executed (ctx : Context) (rs : List Request) : Context :=
  rs.foldl (fun ctx r => (r.execute ctx).value.context) ctx

theorem Context.executed_concat (ctx : Context) (rs : List Request) (r : Request) :
    ctx.executed (rs ++ [r]) = (r.execute (ctx.executed rs)).value.context := by
  rw [executed, List.foldl_append]
  rfl

theorem Context.renewed_executed (ctx : Context) (rs : List Request) :
    (ctx.executed rs).renewed = ctx.renewed := by
  induction rs using List.reverseRecOn with
  | nil => rfl
  | append_singleton rs r ih => rw [executed_concat, r.renewed_execute, ih]

namespace Request

variable {r : Request} {ctx ctx' : Context} {job : Job}

/-! ### What one request writes -/

/-- The lines of a request on the console. -/
def lines (r : Request) (ctx : Context) : List String :=
  ((Session.start ctx).execute 0 ctx r).2.console

theorem lines_eq (r : Request) (ctx : Context) :
    r.lines ctx = (r.execute ctx).log.shown (r.execute ctx).value.context.verbose := rfl

theorem verbose_execute_of_ok (hjob : r.findJob ctx.history = .ok job) :
    (r.execute ctx).value.context.verbose = r.verbose.getD ctx.verbose := by
  obtain ⟨as, hcontext⟩ := r.chosenSelector.value.exists_moved_of_select job (r.prepared ctx)
  rw [value_execute_of_ok hjob]
  dsimp only
  rw [hcontext]
  rfl

theorem log_execute_of_ok (hjob : r.findJob ctx.history = .ok job) :
    (r.execute ctx).log = r.chosenSelector.log ++ (r.chosenFilter.log ++
      (r.chosenSelector.value.select job (r.prepared ctx)).log) := by
  rw [execute, hjob]
  simp only [Logged.log_bind, Logged.log_pure, List.append_nil]
  rfl

/-- A request writes the same lines on a context with the same basis, and if the verbosity is the
same too, the console shows the same of them. -/
theorem lines_congr (r : Request) (hrenewed : ctx.renewed = ctx'.renewed)
    (hverbose : ctx.verbose = ctx'.verbose) : r.lines ctx = r.lines ctx' := by
  have hhistory : ctx.history = ctx'.history := (congrArg Context.history hrenewed :)
  rw [lines_eq, lines_eq]
  cases hjob : r.findJob ctx.history with
  | error e =>
      rw [execute_of_error hjob, execute_of_error (hhistory ▸ hjob)]
      rfl
  | ok job =>
      have hjob' : r.findJob ctx'.history = .ok job := hhistory ▸ hjob
      have hbasis : (r.prepared ctx).basis = (r.prepared ctx').basis :=
        (congrArg (fun c => (r.prepared c).basis) hrenewed :)
      have hlog := congrArg Logged.log (r.chosenSelector.value.result_select_congr job hbasis)
      rw [Logged.log_map, Logged.log_map] at hlog
      rw [verbose_execute_of_ok hjob, verbose_execute_of_ok hjob', hverbose,
        log_execute_of_ok hjob, log_execute_of_ok hjob', hlog]

/-! ### Requests on one context -/

/-- The request is refused for its job, or it gives no other verbosity than that of the context. -/
def KeepsVerbose (r : Request) (ctx : Context) : Prop :=
  ∀ job, r.findJob ctx.history = .ok job → ∀ verbose ∈ r.verbose, verbose = ctx.verbose

theorem verbose_execute_eq_iff :
    (r.execute ctx).value.context.verbose = ctx.verbose ↔ r.KeepsVerbose ctx := by
  unfold KeepsVerbose
  cases hjob : r.findJob ctx.history with
  | error e =>
      rw [execute_of_error hjob]
      exact iff_of_true rfl nofun
  | ok job =>
      rw [verbose_execute_of_ok hjob]
      cases r.verbose with
      | none => simp
      | some verbose => simp

theorem keepsVerbose_congr (hrenewed : ctx.renewed = ctx'.renewed)
    (hverbose : ctx.verbose = ctx'.verbose) : r.KeepsVerbose ctx ↔ r.KeepsVerbose ctx' := by
  have hhistory : ctx.history = ctx'.history := (congrArg Context.history hrenewed :)
  rw [KeepsVerbose, KeepsVerbose, hhistory, hverbose]

end Request

namespace Context

variable {ctx : Context} {rs : List Request}

theorem verbose_executed_of_keepsVerbose (hrs : ∀ r ∈ rs, r.KeepsVerbose ctx) :
    (ctx.executed rs).verbose = ctx.verbose := by
  induction rs using List.reverseRecOn with
  | nil => rfl
  | append_singleton rs r ih =>
      obtain ⟨hrs, hr⟩ := List.forall_mem_append.1 hrs
      have hverbose := ih hrs
      have hkeeps : r.KeepsVerbose (ctx.executed rs) :=
        (Request.keepsVerbose_congr (ctx.renewed_executed rs) hverbose).2
          (hr r List.mem_cons_self)
      rw [executed_concat, Request.verbose_execute_eq_iff.2 hkeeps, hverbose]

/-- If no request has changed the verbosity, none gives another one. -/
theorem keepsVerbose_of_verbose_executed
    (hrs : ∀ before r after, rs = before ++ r :: after →
      (ctx.executed (before ++ [r])).verbose = (ctx.executed before).verbose) :
    ∀ r ∈ rs, r.KeepsVerbose ctx := by
  induction rs using List.reverseRecOn with
  | nil => exact nofun
  | append_singleton rs r ih =>
      have hbefore : ∀ r ∈ rs, r.KeepsVerbose ctx := ih fun before r' after hsplit =>
        hrs before r' (after ++ [r]) (by rw [hsplit, List.append_assoc, List.cons_append])
      have hlast := hrs rs r [] rfl
      rw [executed_concat, Request.verbose_execute_eq_iff] at hlast
      rw [List.forall_mem_append, List.forall_mem_singleton]
      exact ⟨hbefore, (Request.keepsVerbose_congr (ctx.renewed_executed rs)
        (verbose_executed_of_keepsVerbose hbefore)).1 hlast⟩

/-- Requests on one context leave its verbosity alone, and those without a verbosity of their own
write what they write on a fresh context with the first verbosity, just if none of them finds its
job and gives another verbosity. -/
theorem verbose_executed_iff (ctx : Context) (rs : List Request) :
    (∀ before r after, rs = before ++ r :: after →
      (ctx.executed (before ++ [r])).verbose = (ctx.executed before).verbose ∧
      (r.verbose = none →
        r.lines (ctx.executed before) = r.lines { ctx.renewed with verbose := ctx.verbose })) ↔
    ∀ r ∈ rs, r.KeepsVerbose ctx := by
  constructor
  · intro hrs
    exact keepsVerbose_of_verbose_executed fun before r after hsplit =>
      (hrs before r after hsplit).1
  · rintro hkeeps before r after rfl
    have hbefore : (ctx.executed before).verbose = ctx.verbose :=
      verbose_executed_of_keepsVerbose fun r' hr' => hkeeps r' (List.mem_append_left _ hr')
    have hr : r.KeepsVerbose ctx := hkeeps r (List.mem_append_right _ List.mem_cons_self)
    have hrenewed := ctx.renewed_executed before
    refine ⟨?_, fun _ => r.lines_congr hrenewed hbefore⟩
    rw [executed_concat, Request.verbose_execute_eq_iff]
    exact (Request.keepsVerbose_congr hrenewed hbefore).2 hr

/-- A quiet context with one build. -/
def single : Context :=
  .fresh (History.empty.insert (.ofBuild (.ofTriggers "app" 7 [])))

/-- A request that gives the verbosity of the context, and a verbose one for a job that is not
there, before one with no verbosity. -/
theorem verbose_executed_iff_single :
    let quiet : Request := ⟨some "app", some (.status .stable), some .acceptAll, some false⟩
    let lost : Request := ⟨some "lib", none, none, some true⟩
    let plain : Request := { quiet with verbose := none }
    (single.executed [quiet, lost, plain]).verbose = false ∧
    plain.lines (single.executed [quiet, lost]) = plain.lines single := by
  intro quiet lost plain
  have hquiet : quiet.KeepsVerbose single := fun _ _ _ hverbose =>
    (Option.some.inj hverbose).symm
  have hlost : lost.KeepsVerbose single := by
    intro job hjob
    rw [show lost.findJob single.history = .error (.jobNotFound "lib") by decide] at hjob
    cases hjob
  have hplain : plain.KeepsVerbose single := fun _ _ => nofun
  have hkeeps : ∀ r ∈ [quiet, lost, plain], r.KeepsVerbose single :=
    List.forall_mem_cons.2 ⟨hquiet, List.forall_mem_cons.2 ⟨hlost,
      List.forall_mem_singleton.2 hplain⟩⟩
  have hrs := (verbose_executed_iff single [quiet, lost, plain]).2 hkeeps
  have hfirst := hrs [] quiet [lost, plain] rfl
  have hsecond := hrs [quiet] lost [plain] rfl
  have hthird := hrs [quiet, lost] plain [] rfl
  exact ⟨hthird.1.trans (hsecond.1.trans hfirst.1), hthird.2 rfl⟩

/-- After a verbose request, the same request with no verbosity is verbose as well. -/
theorem not_verbose_executed_single :
    let plain : Request := ⟨some "app", some (.status .stable), some .acceptAll, none⟩
    let verbose : Request := { plain with verbose := some true }
    single.verbose = false ∧ (single.executed [verbose]).verbose = true ∧
    plain.lines single = [] ∧
    plain.lines (single.executed [verbose]) =
      ["Latest build by status (Stable): app #7 found", "app #7: satisfied conditions."] := by
  decide

end Context

end BuildPicker
