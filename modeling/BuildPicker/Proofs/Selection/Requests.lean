import BuildPicker.Selection.Request
import BuildPicker.Proofs.Selection.Candidates

/-!
Requests on a context that is used again.

A request leaves its filter, its verbosity, its last match and its records on the
context, and callers may ask for candidates and set things in between. None of
this reaches the outcome of a later request: the outcome rests on the history, the
origin, the variables and the settings, and these stay as they are.
-/

namespace BuildPicker

namespace Context

/-- A fresh context that keeps what selections rest on. A context that stands at no parameter, as
those of callers do, has all levels before it like a fresh one. -/
def renewed (ctx : Context) : Context :=
  { Context.fresh ctx.history with
    origin := ctx.origin
    vars := ctx.vars
    settings := ctx.settings
    levels := ctx.levels }

theorem renewed_eq_fresh {ctx : Context} (hlevels : ctx.levels = maxLevels) :
    ctx.renewed = { Context.fresh ctx.history with
      origin := ctx.origin, vars := ctx.vars, settings := ctx.settings } := by
  rw [renewed, hlevels]
  rfl

end Context

/-- A selection on contexts with the same basis has the same result. -/
theorem Selector.value_result_select_congr (s : Selector) (job : Job) {ctx ctx' : Context}
    (hbasis : ctx.basis = ctx'.basis) :
    (s.select job ctx).value.result = (s.select job ctx').value.result := by
  rw [s.value_result_select, s.value_result_select, hbasis]

namespace Request

variable {r : Request} {ctx : Context}

/-- The context in which the selection of a request takes place. -/
def prepared (r : Request) (ctx : Context) : Context :=
  { ctx with filter := r.chosenFilter.value, verbose := r.verbose.getD ctx.verbose }

/-- What a request makes of the result of its selection. -/
def outcome (r : Request) (job : Job) :
    Except SelectionError (Option Build) → Except SelectionError Build
  | .error e => .error e
  | .ok none =>
    .error (.noBuildFound job.name r.chosenSelector.value.label r.chosenFilter.value.label)
  | .ok (some b) => .ok b

theorem value_execute_of_error {e : SelectionError} (hjob : r.findJob ctx.history = .error e) :
    (r.execute ctx).value = ⟨.error e, ctx⟩ := by
  rw [execute, hjob]
  rfl

theorem value_execute_of_ok {job : Job} (hjob : r.findJob ctx.history = .ok job) :
    (r.execute ctx).value =
      let choice := (r.chosenSelector.value.select job (r.prepared ctx)).value
      ⟨r.outcome job choice.result, choice.context⟩ := by
  rw [execute, hjob]
  simp only [Logged.value_bind, Logged.value_pure]
  rfl

theorem value_result_execute_renewed (r : Request) (ctx : Context) :
    (r.execute ctx.renewed).value.result = (r.execute ctx).value.result := by
  cases hjob : r.findJob ctx.history with
  | error e =>
      have hjob' : r.findJob ctx.renewed.history = .error e := hjob
      rw [value_execute_of_error hjob, value_execute_of_error hjob']
  | ok job =>
      have hjob' : r.findJob ctx.renewed.history = .ok job := hjob
      have hbasis : (r.prepared ctx.renewed).basis = (r.prepared ctx).basis := rfl
      rw [value_execute_of_ok hjob, value_execute_of_ok hjob']
      exact congrArg (r.outcome job) (Selector.value_result_select_congr _ _ hbasis)

theorem renewed_execute (r : Request) (ctx : Context) :
    (r.execute ctx).value.context.renewed = ctx.renewed := by
  cases hjob : r.findJob ctx.history with
  | error e => rw [value_execute_of_error hjob]
  | ok job =>
      rw [value_execute_of_ok hjob]
      obtain ⟨as, hcontext⟩ := r.chosenSelector.value.exists_moved_of_select job (r.prepared ctx)
      dsimp only
      rw [hcontext]
      rfl

end Request

/-! ### Operations of callers -/

/-- What callers do with a context. -/
inductive Operation
  | execute (r : Request)
  | next (s : Selector) (job : Job)
  | select (s : Selector) (job : Job)
  | setLastMatch (b? : Option Build)
  | setFilter (f : Filter)

namespace Operation

/-- The context after the operation. -/
def context (op : Operation) (ctx : Context) : Context :=
  match op with
  | execute r => (r.execute ctx).value.context
  | next s job => { ctx with attachments := (s.next job ctx).value.attachments }
  | select s job => (s.select job ctx).value.context
  | setLastMatch b? => { ctx with lastMatch := b? }
  | setFilter f => { ctx with filter := f }

/-- The outcome of a request. -/
def outcome? (op : Operation) (ctx : Context) : Option (Except SelectionError Build) :=
  match op with
  | execute r => some (r.execute ctx).value.result
  | _ => none

/-- The outcomes of the requests among operations on one context. -/
def outcomes : List Operation → Context → List (Except SelectionError Build)
  | [], _ => []
  | op :: ops, ctx => (op.outcome? ctx).toList ++ outcomes ops (op.context ctx)

theorem renewed_context (op : Operation) (ctx : Context) :
    (op.context ctx).renewed = ctx.renewed := by
  cases op with
  | execute r => exact r.renewed_execute ctx
  | select s job =>
      obtain ⟨as, hcontext⟩ := s.exists_moved_of_select job ctx
      rw [context, hcontext]
      rfl
  | next | setLastMatch | setFilter => rfl

theorem outcome?_renewed (op : Operation) (ctx : Context) :
    op.outcome? ctx.renewed = op.outcome? ctx := by
  cases op with
  | execute r => exact congrArg some (r.value_result_execute_renewed ctx)
  | next | select | setLastMatch | setFilter => rfl

theorem outcomes_eq (ops : List Operation) (ctx : Context) :
    outcomes ops ctx = ops.filterMap fun op => op.outcome? ctx.renewed := by
  induction ops generalizing ctx with
  | nil => rfl
  | cons op ops ih =>
      rw [outcomes, ih, renewed_context, ← outcome?_renewed]
      rw [List.filterMap_cons]
      cases op.outcome? ctx.renewed with
      | none => rfl
      | some result => rfl

/-- Whatever callers do with a context, each of their requests has the outcome that it has on a
fresh context with the same history, origin, variables and settings, which stands at no parameter
if the context does not. -/
theorem outcomes_eq_filterMap_renewed (ops : List Operation) (ctx : Context) :
    (outcomes ops ctx = ops.filterMap fun op => op.outcome? ctx.renewed) ∧
    (ctx.levels = maxLevels → outcomes ops ctx = ops.filterMap fun op =>
      op.outcome? { Context.fresh ctx.history with
        origin := ctx.origin, vars := ctx.vars, settings := ctx.settings }) := by
  refine ⟨outcomes_eq ops ctx, fun hlevels => ?_⟩
  rw [outcomes_eq, Context.renewed_eq_fresh hlevels]

end Operation

end BuildPicker
