import BuildPicker.Selection.Session
import BuildPicker.Proofs.Selection.Calls

/-!
Verbosity.

Nothing that a selection computes looks at the verbosity of its context: from one
candidate to the next, through the entries of fallbacks and through parameters, two
selections that differ in it alone take the same steps and write the same lines.
The verbosity only decides which of the lines the console shows. It is the same in
all calls of a selection, so it makes no difference that it is looked at in the end.
-/

namespace BuildPicker

def Context.withVerbose (ctx : Context) (verbose : Bool) : Context :=
  { ctx with verbose }

def Choice.withVerbose (choice : Choice) (verbose : Bool) : Choice :=
  { choice with context := choice.context.withVerbose verbose }

/-! ### Candidates and selections -/

/-- A selector that offers the same and writes the same, verbose or not. -/
def IgnoresVerbose (next : Context → Logged Offer) : Prop :=
  ∀ ctx verbose, next (ctx.withVerbose verbose) = next ctx

namespace IgnoresVerbose

variable {next : Context → Logged Offer} (hnext : IgnoresVerbose next)

include hnext

theorem pick_withVerbose (label : String) (rounds : Nat) (ctx : Context) (verbose : Bool) :
    pick next label rounds (ctx.withVerbose verbose) =
      (·.withVerbose verbose) <$> pick next label rounds ctx := by
  induction rounds generalizing ctx with
  | zero => rfl
  | succ rounds ih =>
      rw [pick, pick, hnext, map_bind]
      refine bind_congr fun offer => ?_
      obtain ⟨result, as⟩ := offer
      cases result with
      | error e => rfl
      | ok b? =>
          cases b? with
          | none => rfl
          | some b =>
              have hrest := ih { ctx with attachments := as, lastMatch := some b }
              simp only [map_bind]
              refine bind_congr fun _ => bind_congr fun accepted => ?_
              cases accepted with
              | true => rfl
              | false =>
                  simp only [Bool.false_eq_true, if_false, map_bind]
                  exact bind_congr fun _ => hrest

theorem pickFrom_withVerbose (label : String) (job : Job) (ctx : Context) (verbose : Bool) :
    pickFrom next label job (ctx.withVerbose verbose) =
      (·.withVerbose verbose) <$> pickFrom next label job ctx :=
  hnext.pick_withVerbose label _ { ctx with lastMatch := none } verbose

end IgnoresVerbose

namespace Selector

variable {nested : Selector → Context → Logged Offer} {job : Job}

theorem ignoresVerbose_single (template : String)
    (lookup : String → Except SelectionError (Option Build)) (job : Job) :
    IgnoresVerbose fun ctx => return ⟨← nextSingle template lookup job ctx, ctx.attachments⟩ :=
  fun _ _ => rfl

theorem ignoresVerbose_nextTriggering (dependencies : Bool) (strategy : Strategy) (job : Job) :
    IgnoresVerbose (nextTriggering dependencies strategy job) :=
  fun _ _ => rfl

theorem firstChoice_withVerbose {entries : List (Selector × Filter)}
    (hentries : ∀ entry ∈ entries, IgnoresVerbose (nextWith nested job entry.1)) (ctx : Context)
    (verbose : Bool) :
    firstChoice nested job (ctx.withVerbose verbose) entries =
      firstChoice nested job ctx entries := by
  induction entries with
  | nil => rw [firstChoice, firstChoice]
  | cons entry entries ih =>
      obtain ⟨s, f⟩ := entry
      obtain ⟨hs, hentries⟩ := List.forall_mem_cons.1 hentries
      -- A fork has the verbosity of its context.
      have hattempt := hs.pickFrom_withVerbose s.label job (ctx.attempt f) verbose
      rw [firstChoice, firstChoice, ← ih hentries]
      refine bind_congr fun _ => ?_
      exact (congrArg (· >>= _) hattempt).trans (bind_map_left ..)

theorem ignoresVerbose_nextWith (hnested : ∀ s, IgnoresVerbose (nested s)) (s : Selector) :
    IgnoresVerbose (nextWith nested job s) := by
  intro ctx verbose
  induction s using Selector.induction generalizing ctx verbose with
  | buildNumber template =>
      rw [nextWith, nextWith]
      exact ignoresVerbose_single template (byNumber job) job ctx verbose
  | displayName template =>
      rw [nextWith, nextWith]
      exact ignoresVerbose_single template (byDisplayName job) job ctx verbose
  | permalink template =>
      rw [nextWith, nextWith]
      exact ignoresVerbose_single template (byPermalink job) job ctx verbose
  | status s =>
      rw [nextWith, nextWith]
      rfl
  | triggering dependencies strategy =>
      rw [nextWith, nextWith]
      exact ignoresVerbose_nextTriggering dependencies strategy job ctx verbose
  | fallback entries hentries =>
      rw [nextWith, nextWith, firstChoice_withVerbose hentries ctx verbose]
      rfl
  | parameterized parameter =>
      rw [nextWith, nextWith]
      refine bind_congr fun s? => ?_
      cases s? with
      | none => rfl
      | some s => exact hnested s ctx verbose

theorem ignoresVerbose_nextAt (job : Job) (levels : Nat) (s : Selector) :
    IgnoresVerbose (nextAt job levels s) := by
  induction levels generalizing s with
  | zero =>
      rw [nextAt]
      exact ignoresVerbose_nextWith (fun _ _ _ => rfl) s
  | succ levels ih =>
      rw [nextAt]
      exact ignoresVerbose_nextWith (fun s ctx => ih s { ctx with levels := levels }) s

theorem ignoresVerbose_next (s : Selector) (job : Job) : IgnoresVerbose (s.next job) :=
  fun ctx => ignoresVerbose_nextAt job ctx.levels s ctx

/-- A selection on a context with another verbosity differs in the verbosity that it leaves. -/
theorem select_withVerbose (s : Selector) (job : Job) (ctx : Context) (verbose : Bool) :
    s.select job (ctx.withVerbose verbose) = (·.withVerbose verbose) <$> s.select job ctx :=
  (s.ignoresVerbose_next job).pickFrom_withVerbose s.label job ctx verbose

end Selector

/-! ### What the console shows -/

theorem Log.shown_true (log : Log) : log.shown true = log.map Line.text := by
  simp [shown]

theorem Log.shown_false (log : Log) :
    log.shown false = (log.filter fun line => line.level = .notice).map Line.text := by
  simp [shown]

namespace Session

/-- A quiet session and a verbose one after the same computation on one context: the contexts are
the same but for the verbosity, and the quiet console has the notices of the log, the verbose one
all of its lines. -/
structure Mutes (quiet verbose : Session) (log : Log) : Prop where
  contexts : quiet.contexts = verbose.contexts.map (·.withVerbose false)
  cells : quiet.cells = verbose.cells
  handles : quiet.handles = verbose.handles
  notices : quiet.console = (log.filter fun line => line.level = .notice).map Line.text
  lines : verbose.console = log.map Line.text
  sublist : quiet.console.Sublist verbose.console

theorem mutes_put_start (ctx after : Context) (log : Log) :
    Mutes ((start (ctx.withVerbose false)).put 0 (after.withVerbose false) log)
      ((start (ctx.withVerbose true)).put 0 (after.withVerbose true) log) log where
  contexts := rfl
  cells := rfl
  handles := rfl
  notices := log.shown_false
  lines := log.shown_true
  sublist := by
    change (log.shown false).Sublist (log.shown true)
    rw [Log.shown_false, Log.shown_true]
    exact List.filter_sublist.map _

/-- Verbosity has no part in what is selected or accepted. On two contexts that differ in it alone,
a selection has the same result and leaves the same last match and the same records, and a filter
has the same verdict; of the lines that the verbose console shows, the quiet one shows the notices.
All calls of a selection see its verbosity, so their lines are shown alike. -/
theorem mutes_withVerbose (ctx : Context) (job : Job) (s : Selector) (f : Filter) (b : Build) :
    let quiet := ctx.withVerbose false
    let verbose := ctx.withVerbose true
    let selected := (start quiet).select 0 quiet s job
    let selected' := (start verbose).select 0 verbose s job
    let judged := (start quiet).accepts 0 quiet f b
    let judged' := (start verbose).accepts 0 verbose f b
    (selected.1 = selected'.1 ∧ Mutes selected.2 selected'.2 (s.select job ctx).log) ∧
    (judged.1 = judged'.1 ∧
      Mutes judged.2 judged'.2 (Filter.judge ctx.vars ctx.levels b f).log) ∧
    ∃ tree : CallTree, tree.call = .select s ctx ∧ tree.IsMade job ∧
      ∀ c, tree.Contains c → c.context.verbose = ctx.verbose := by
  intro quiet verbose selected selected' judged judged'
  let choice := (s.select job ctx).value
  have hselect (v : Bool) : (start (ctx.withVerbose v)).select 0 (ctx.withVerbose v) s job =
      (choice.result, (start (ctx.withVerbose v)).put 0 (choice.context.withVerbose v)
        (s.select job ctx).log) := by
    rw [Session.select, s.select_withVerbose]
    exact congrArg (fun log => (_, put _ 0 _ log)) (Logged.log_map _ _)
  have hselected : selected = _ := hselect false
  have hselected' : selected' = _ := hselect true
  obtain ⟨tree, hcall, hmade⟩ : (Call.select s ctx).Ends job := Call.select_ends s ctx
  refine ⟨?_, ⟨rfl, mutes_put_start ctx ctx _⟩, tree, hcall, hmade, fun c hc => ?_⟩
  · rw [hselected, hselected']
    exact ⟨rfl, mutes_put_start ctx _ _⟩
  · have hsurroundings := hmade.surroundings_eq hc
    rw [hcall] at hsurroundings
    exact congrArg Surroundings.verbose hsurroundings

end Session

end BuildPicker
