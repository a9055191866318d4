import BuildPicker.Proofs.Selection.Algebra
import BuildPicker.Proofs.Selection.Replies

/-!
Selections with one counter of the levels.

The levels of a selection are handed down from selector to selector. One may also keep
them on one counter, which stands on the context that all work on: it is lowered on the
way into a selector that is read from a parameter, and raised on the way out from
wherever it was left. Each candidate, each filter and each round then finds the counter
as the one before has left it, and only the attempts of a fallback work on contexts of
their own, which are given up. `Yields` tells how selectors select with such a counter.
They come to what they come to without it, and the counter is left as it was found.
-/

namespace BuildPicker

/-- What is answered, with the context that goes on from there. -/
def Offer.choice (offer : Offer) (ctx : Context) : Choice :=
  ⟨offer.result, { ctx with attachments := offer.attachments }⟩

theorem Offer.exists_of_eq_choice {offer : Offer} {ctx after : Context}
    {result : Except SelectionError (Option Build)} (h : ⟨result, after⟩ = offer.choice ctx) :
    ∃ as, offer = ⟨result, as⟩ ∧ after = { ctx with attachments := as } := by
  cases h
  exact ⟨_, rfl, rfl⟩

/-- An answer in the context below, with the counter raised again. -/
theorem Offer.choice_of_levels_eq_succ {ctx : Context} {n : Nat} (hlevels : ctx.levels = n + 1)
    (offer : Offer) :
    offer.choice ctx =
      let below := offer.choice { ctx with levels := n }
      ⟨below.result, { below.context with levels := below.context.levels + 1 }⟩ := by
  show offer.choice ctx =
    ⟨offer.result, { ctx with levels := n + 1, attachments := offer.attachments }⟩
  rw [← hlevels]
  rfl

namespace Selector

/-! ### Selecting with a counter -/

/-- What there is to do in a selection. -/
inductive Task
  /-- The next candidate of a selector. -/
  | next (s : Selector)
  /-- The first choice among the entries of a fallback. -/
  | entries (es : List (Selector × Filter))
  /-- The rounds of the loop that are left. -/
  | loop (s : Selector)
  | select (s : Selector)

/-- Selecting with one counter, the levels of the context: `Yields job task ctx choice` says that
the task, which finds the context `ctx`, comes to a result and leaves a context as `choice` has
them. -/
inductive Yields (job : Job) : Task → Context → Choice → Prop
  | buildNumber (template : String) (ctx : Context) :
      Yields job (.next (.buildNumber template)) ctx
        ⟨(nextSingle template (byNumber job) job ctx).value, ctx⟩
  | displayName (template : String) (ctx : Context) :
      Yields job (.next (.displayName template)) ctx
        ⟨(nextSingle template (byDisplayName job) job ctx).value, ctx⟩
  | permalink (template : String) (ctx : Context) :
      Yields job (.next (.permalink template)) ctx
        ⟨(nextSingle template (byPermalink job) job ctx).value, ctx⟩
  | status (s : Status) (ctx : Context) :
      Yields job (.next (.status s)) ctx ⟨.ok (nextByStatus s job ctx), ctx⟩
  | triggering (dependencies : Bool) (strategy : Strategy) (ctx : Context) :
      Yields job (.next (.triggering dependencies strategy)) ctx
        ((nextTriggering dependencies strategy job ctx).value.choice ctx)
  /-- A fallback has no other candidate. -/
  | spent {entries : List (Selector × Filter)} {ctx : Context}
      (hlast : ctx.lastMatch.isSome = true) :
      Yields job (.next (.fallback entries)) ctx ⟨.ok none, ctx⟩
  | fallback {entries : List (Selector × Filter)} {ctx : Context} {choice : Choice}
      (hlast : ctx.lastMatch.isSome = false)
      (hentries : Yields job (.entries entries) ctx choice) :
      Yields job (.next (.fallback entries)) ctx choice
  | unresolved {parameter : String} {ctx : Context}
      (hresolve : (resolve ctx.vars parameter).value = none) :
      Yields job (.next (.parameterized parameter)) ctx ⟨.ok none, ctx⟩
  /-- On the last level no further selector is followed, and the counter is not touched. -/
  | exhausted {parameter : String} {s : Selector} {ctx : Context}
      (hresolve : (resolve ctx.vars parameter).value = some s) (hlevels : ctx.levels = 0) :
      Yields job (.next (.parameterized parameter)) ctx ⟨.ok none, ctx⟩
  /-- Else the counter is lowered for the selector that is read, and raised from where this one
  leaves it, which must be below the limit. -/
  | followed {parameter : String} {s : Selector} {ctx after : Context} {n : Nat}
      {result : Except SelectionError (Option Build)}
      (hresolve : (resolve ctx.vars parameter).value = some s) (hlevels : ctx.levels = n + 1)
      (hs : Yields job (.next s) { ctx with levels := n } ⟨result, after⟩)
      (hraise : after.levels < maxLevels) :
      Yields job (.next (.parameterized parameter)) ctx
        ⟨result, { after with levels := after.levels + 1 }⟩
  | noEntry (ctx : Context) : Yields job (.entries []) ctx ⟨.ok none, ctx⟩
  /-- The first entry that selects a build or fails ends a fallback. -/
  | taken {s : Selector} {f : Filter} {rest : List (Selector × Filter)} {ctx attempt : Context}
      {result : Except SelectionError (Option Build)}
      (hs : Yields job (.select s) (ctx.attempt f) ⟨result, attempt⟩)
      (hresult : result ≠ .ok none) :
      Yields job (.entries ((s, f) :: rest)) ctx ⟨result, ctx⟩
  | passed {s : Selector} {f : Filter} {rest : List (Selector × Filter)} {ctx attempt : Context}
      {choice : Choice} (hs : Yields job (.select s) (ctx.attempt f) ⟨.ok none, attempt⟩)
      (hrest : Yields job (.entries rest) ctx choice) :
      Yields job (.entries ((s, f) :: rest)) ctx choice
  | failed {s : Selector} {ctx after : Context} {e : SelectionError}
      (hnext : Yields job (.next s) ctx ⟨.error e, after⟩) :
      Yields job (.loop s) ctx ⟨.error e, after⟩
  | ended {s : Selector} {ctx after : Context}
      (hnext : Yields job (.next s) ctx ⟨.ok none, after⟩) :
      Yields job (.loop s) ctx ⟨.ok none, { after with lastMatch := none }⟩
  /-- The filter in force judges with the counter too. -/
  | accepted {s : Selector} {ctx after : Context} {b : Build} {n : Nat}
      (hnext : Yields job (.next s) ctx ⟨.ok (some b), after⟩)
      (hb : Filter.Judges after.vars b after.filter after.levels true n) :
      Yields job (.loop s) ctx ⟨.ok (some b), { after with lastMatch := some b, levels := n }⟩
  | declined {s : Selector} {ctx after : Context} {b : Build} {n : Nat} {choice : Choice}
      (hnext : Yields job (.next s) ctx ⟨.ok (some b), after⟩)
      (hb : Filter.Judges after.vars b after.filter after.levels false n)
      (hrest : Yields job (.loop s) { after with lastMatch := some b, levels := n } choice) :
      Yields job (.loop s) ctx choice
  | select {s : Selector} {ctx : Context} {choice : Choice}
      (hloop : Yields job (.loop s) { ctx with lastMatch := none } choice) :
      Yields job (.select s) ctx choice

/-- What a task comes to where the levels are handed down. -/
def Task.ComesTo (job : Job) (ctx : Context) : Task → Choice → Prop
  | next s, choice => choice = (s.next job ctx).value.choice ctx
  | entries es, choice =>
    choice = ⟨(firstChoice (nextBelow job ctx.levels) job ctx es).value, ctx⟩
  | loop s, choice => ∃ rounds, Run (s.next job) ctx rounds choice
  | select s, choice => choice = (s.select job ctx).value

variable {job : Job} {s : Selector} {ctx : Context} {entries : List (Selector × Filter)}
  {choice : Choice}

/-! ### The counter is left as it was found -/

theorem choice_next_of_lastMatch (hlast : ctx.lastMatch.isSome = true) :
    ((fallback entries).next job ctx).value.choice ctx = ⟨.ok none, ctx⟩ := by
  rw [next, nextAt_eq, nextWith, if_pos hlast]
  rfl

theorem choice_next_fallback (hlast : ctx.lastMatch.isSome = false) :
    ((fallback entries).next job ctx).value.choice ctx =
      ⟨(firstChoice (nextBelow job ctx.levels) job ctx entries).value, ctx⟩ := by
  rw [next, nextAt_eq, nextWith, if_neg (Bool.eq_false_iff.1 hlast)]
  rfl

/-- With one counter for all, a task comes to what it comes to on its own levels. -/
theorem Yields.comesTo {task : Task} (h : Yields job task ctx choice) :
    task.ComesTo job ctx choice := by
  induction h with
  | buildNumber | displayName | permalink | status =>
      rw [Task.ComesTo, next, nextAt_eq, nextWith]
      rfl
  | triggering => rw [Task.ComesTo, next, nextAt_eq, nextWith]
  | spent hlast => exact (choice_next_of_lastMatch hlast).symm
  | fallback hlast _ ih => exact ih.trans (choice_next_fallback hlast).symm
  | unresolved hresolve =>
      rw [Task.ComesTo, value_next_of_resolve_eq_none hresolve]
      rfl
  | exhausted hresolve hlevels =>
      rw [Task.ComesTo, value_next_of_levels_eq_zero hresolve hlevels]
      rfl
  | followed hresolve hlevels _ _ ih =>
      rw [Task.ComesTo] at ih
      rw [Task.ComesTo, value_next_parameterized hresolve hlevels,
        Offer.choice_of_levels_eq_succ hlevels, ← ih]
  | noEntry ctx =>
      rw [Task.ComesTo, firstChoice]
      rfl
  | taken _ hresult ih =>
      rw [Task.ComesTo, value_firstChoice_cons, Call.value_result_attempt, ← ih]
      split
      · next hnone => exact absurd hnone hresult
      · rfl
  | passed _ _ ihs ihrest =>
      rw [Task.ComesTo, value_firstChoice_cons, Call.value_result_attempt, ← ihs]
      exact ihrest
  | failed _ ih =>
      rcases Offer.exists_of_eq_choice ih with ⟨as, hnext, rfl⟩
      exact ⟨_, .failed hnext⟩
  | ended _ ih =>
      rcases Offer.exists_of_eq_choice ih with ⟨as, hnext, rfl⟩
      exact ⟨_, .exhausted hnext⟩
  | accepted _ hb ih =>
      rcases Offer.exists_of_eq_choice ih with ⟨as, hnext, rfl⟩
      rcases Filter.judges_iff.1 hb with ⟨haccepts, rfl⟩
      exact ⟨_, .accepted hnext haccepts.symm⟩
  | declined _ hb _ ih ihrest =>
      rcases Offer.exists_of_eq_choice ih with ⟨as, hnext, rfl⟩
      rcases Filter.judges_iff.1 hb with ⟨haccepts, rfl⟩
      rcases ihrest with ⟨rounds, hrest⟩
      exact ⟨_, .declined hnext haccepts.symm hrest⟩
  | @select s ctx choice _ ih =>
      rcases ih with ⟨rounds, hrun⟩
      rcases s.exists_run_select job ctx with ⟨_, hselect⟩
      exact (hrun.unique hselect).2

/-! ### Every task comes to an end -/

section

variable {levels : Nat} (hnext : ∀ ctx : Context, ctx.levels = levels →
  Yields job (.next s) ctx ((s.next job ctx).value.choice ctx))

include hnext

/-- A loop ends if its selector answers wherever the enumeration stands. -/
theorem yields_loop_of_next {rounds : List Round} (hlevels : ctx.levels = levels)
    (hrun : Run (s.next job) ctx rounds choice) : Yields job (.loop s) ctx choice := by
  induction hrun with
  | failed hoffer =>
      have hanswer := hnext _ hlevels
      rw [hoffer] at hanswer
      exact .failed hanswer
  | exhausted hoffer =>
      have hanswer := hnext _ hlevels
      rw [hoffer] at hanswer
      exact .ended hanswer
  | accepted hoffer hb =>
      have hanswer := hnext _ hlevels
      rw [hoffer] at hanswer
      exact .accepted hanswer (Filter.judges_iff.2 ⟨hb.symm, rfl⟩)
  | declined hoffer hb _ ih =>
      have hanswer := hnext _ hlevels
      rw [hoffer] at hanswer
      exact .declined hanswer (Filter.judges_iff.2 ⟨hb.symm, rfl⟩) (ih hlevels)

theorem yields_select_of_next (hlevels : ctx.levels = levels) :
    Yields job (.select s) ctx (s.select job ctx).value := by
  rcases s.exists_run_select job ctx with ⟨rounds, hrun⟩
  exact .select (yields_loop_of_next hnext hlevels hrun)

end

/-- A fallback comes to its choice if a selection by each of its entries ends. -/
theorem yields_entries_of_select (hentries : ∀ entry ∈ entries,
      Yields job (.select entry.1) (ctx.attempt entry.2)
        (entry.1.select job (ctx.attempt entry.2)).value) :
    Yields job (.entries entries) ctx
      ⟨(firstChoice (nextBelow job ctx.levels) job ctx entries).value, ctx⟩ := by
  induction entries with
  | nil =>
      rw [firstChoice]
      exact .noEntry ctx
  | cons entry entries ih =>
      rcases entry with ⟨s, f⟩
      rcases List.forall_mem_cons.1 hentries with ⟨hs, hrest⟩
      rw [value_firstChoice_cons, Call.value_result_attempt]
      generalize (s.select job (ctx.attempt f)).value = selected at hs
      rcases selected with ⟨result, attempt⟩
      split
      · next hnone =>
          rcases (hnone : result = .ok none) with rfl
          exact .passed hs (ih hrest)
      · next hresult => exact .taken hs hresult

/-- On one level a selector selects with smaller ones, and a parameter leads to the level below. -/
theorem yields_next_of_deeper {levels : Nat} (hbound : levels ≤ maxLevels)
    (hdeeper : ∀ n, levels = n + 1 → ∀ (s : Selector) (ctx : Context), ctx.levels = n →
      Yields job (.next s) ctx ((s.next job ctx).value.choice ctx))
    (s : Selector) (ctx : Context) (hlevels : ctx.levels = levels) :
    Yields job (.next s) ctx ((s.next job ctx).value.choice ctx) := by
  induction s using Selector.induction generalizing ctx with
  | buildNumber template =>
      rw [next, nextAt_eq, nextWith]
      exact .buildNumber template ctx
  | displayName template =>
      rw [next, nextAt_eq, nextWith]
      exact .displayName template ctx
  | permalink template =>
      rw [next, nextAt_eq, nextWith]
      exact .permalink template ctx
  | status s =>
      rw [next, nextAt_eq, nextWith]
      exact .status s ctx
  | triggering dependencies strategy =>
      rw [next, nextAt_eq, nextWith]
      exact .triggering dependencies strategy ctx
  | fallback entries ih =>
      cases hlast : ctx.lastMatch.isSome with
      | true =>
          rw [choice_next_of_lastMatch hlast]
          exact .spent hlast
      | false =>
          rw [choice_next_fallback hlast]
          -- The context of an attempt begins with the counter of the fallback.
          exact .fallback hlast (yields_entries_of_select fun entry hentry =>
            yields_select_of_next (ih entry hentry) hlevels)
  | parameterized parameter =>
      cases hresolve : (resolve ctx.vars parameter).value with
      | none =>
          rw [value_next_of_resolve_eq_none hresolve]
          exact .unresolved hresolve
      | some s =>
          cases hn : ctx.levels with
          | zero =>
              rw [value_next_of_levels_eq_zero hresolve hn]
              exact .exhausted hresolve hn
          | succ n =>
              have hs := hdeeper n (hlevels.symm.trans hn) s { ctx with levels := n } rfl
              have hraise : n < maxLevels := by omega
              rw [value_next_parameterized hresolve hn, Offer.choice_of_levels_eq_succ hn]
              exact .followed hresolve hn hs hraise

theorem yields_next (hbound : ctx.levels ≤ maxLevels) (s : Selector) :
    Yields job (.next s) ctx ((s.next job ctx).value.choice ctx) := by
  generalize hlevels : ctx.levels = levels at hbound
  induction levels generalizing s ctx with
  | zero => exact yields_next_of_deeper hbound (fun _ hn => nomatch hn) s ctx hlevels
  | succ levels ih =>
      refine yields_next_of_deeper hbound (fun n hn s ctx hctx => ?_) s ctx hlevels
      obtain rfl := Nat.succ.inj hn
      exact ih s hctx (Nat.le_of_succ_le hbound)

/-- Unless the counter begins above the limit, each task can be done with it, and comes to what it
comes to on its own levels. -/
theorem yields_iff {task : Task} (hbound : ctx.levels ≤ maxLevels) :
    Yields job task ctx choice ↔ task.ComesTo job ctx choice := by
  refine ⟨Yields.comesTo, fun h => ?_⟩
  have hnext (s : Selector) (inner : Context) (hlevels : inner.levels = ctx.levels) :
      Yields job (.next s) inner ((s.next job inner).value.choice inner) :=
    yields_next (hlevels.trans_le hbound) s
  cases task with
  | next s =>
      obtain rfl := h
      exact hnext s ctx rfl
  | entries entries =>
      obtain rfl := h
      exact yields_entries_of_select fun entry _ => yields_select_of_next (hnext entry.1) rfl
  | loop s =>
      obtain ⟨rounds, hrun⟩ := h
      exact yields_loop_of_next (hnext s) rfl hrun
  | select s =>
      obtain rfl := h
      exact yields_select_of_next (hnext s) rfl

end Selector

end BuildPicker
