import BuildPicker.Proofs.Selection.Candidates

/-!
The calls of a selection.

Asking for a candidate, selecting and judging call one another, and also through
selectors and filters that are read from variables, which may lead back to
themselves. `Call.Makes` gives the calls that a call makes itself, for the loop of
a selection from its run and so without a bound. Every call has exactly one tree
of calls. The tree is finite, as the levels that a parameter may still lead to go
down, and on one level the selectors and filters get smaller.
-/

namespace BuildPicker

open BuildPicker.Text

/-- What all calls of a selection have in common. -/
structure Surroundings where
  history : History
  origin : Option BuildRef
  vars : Variables
  settings : Settings
  verbose : Bool

def Context.surroundings (ctx : Context) : Surroundings :=
  ⟨ctx.history, ctx.origin, ctx.vars, ctx.settings, ctx.verbose⟩

/-- A call of one of the functions that a selection goes through. -/
inductive Call
  | next (s : Selector) (ctx : Context)
  | select (s : Selector) (ctx : Context)
  | judge (f : Filter) (b : Build) (ctx : Context)

namespace Call

variable {job : Job}

def context : Call → Context
  | next _ ctx | select _ ctx | judge _ _ ctx => ctx

/-- Whether the calls that this one makes stand behind a parameter. -/
def isParameterized : Call → Bool
  | next (.parameterized _) _ | judge (.parameterized _) _ _ => true
  | _ => false

/-! ### The calls that a call makes -/

/-- The selections of a fallback: one for each entry, up to the first that has a result. -/
def ofEntries (job : Job) (ctx : Context) : List (Selector × Filter) → List Call
  | [] => []
  | (s, f) :: rest =>
    select s (ctx.attempt f) ::
      match (s.select job (ctx.attempt f)).value.result with
      | .ok none => ofEntries job ctx rest
      | _ => []

/-- What is asked of a selector to find the next candidate. -/
def ofNext (job : Job) (ctx : Context) : Selector → List Call
  | .fallback entries => if ctx.lastMatch.isSome then [] else ofEntries job ctx entries
  | .parameterized parameter =>
    match (Selector.resolve ctx.vars parameter).value, ctx.levels with
    | some s, levels + 1 => [next s { ctx with levels }]
    | _, _ => []
  | _ => []

/-- The verdicts of filters one after the other, up to the first that is `last`. -/
def ofFilters (ctx : Context) (b : Build) (last : Bool) : List Filter → List Call
  | [] => []
  | f :: rest =>
    judge f b ctx ::
      if { ctx with filter := f }.accepts b = last then [] else ofFilters ctx b last rest

def ofJudge (ctx : Context) (b : Build) : Filter → List Call
  | .acceptAll | .displayName _ => []
  | .and filters => ofFilters ctx b false filters
  | .or filters => ofFilters ctx b true filters
  | .not f => [judge f b ctx]
  | .parameterized parameter =>
    let expression := ctx.vars.expand parameter
    if isBlankText expression || isUnresolved expression then []
    else match Filter.decode expression, ctx.levels with
      | .ok f, levels + 1 => [judge f b { ctx with levels }]
      | _, _ => []

/-- In a round of the loop a candidate is asked for and, if there is one, judged. -/
def ofRound (s : Selector) (r : Round) : List Call :=
  next s r.context :: (selected? r.answer).toList.map fun b =>
    judge r.context.filter b (r.context.moved (some b) r.offer.attachments)

/-- The calls that a call makes itself, in their order. -/
inductive Makes (job : Job) : Call → List Call → Prop
  | next (s : Selector) (ctx : Context) : Makes job (.next s ctx) (ofNext job ctx s)
  | select {s : Selector} {ctx : Context} {rounds : List Round} {choice : Choice}
      (hrun : Run (s.next job) { ctx with lastMatch := none } rounds choice) :
      Makes job (.select s ctx) (rounds.flatMap (ofRound s))
  | judge (f : Filter) (b : Build) (ctx : Context) : Makes job (.judge f b ctx) (ofJudge ctx b f)

/-! ### Calls and levels -/

theorem mem_ofEntries {ctx : Context} {entries : List (Selector × Filter)} {c : Call}
    (hc : c ∈ ofEntries job ctx entries) :
    ∃ entry ∈ entries, c = select entry.1 (ctx.attempt entry.2) := by
  induction entries with
  | nil => cases hc
  | cons entry entries ih =>
      obtain ⟨s, f⟩ := entry
      rw [ofEntries] at hc
      obtain rfl | hc := List.mem_cons.1 hc
      · exact ⟨(s, f), List.mem_cons_self, rfl⟩
      · split at hc
        · obtain ⟨entry, hentry, rfl⟩ := ih hc
          exact ⟨entry, List.mem_cons_of_mem _ hentry, rfl⟩
        · cases hc

theorem mem_ofFilters {ctx : Context} {b : Build} {last : Bool} {filters : List Filter} {c : Call}
    (hc : c ∈ ofFilters ctx b last filters) : ∃ f ∈ filters, c = judge f b ctx := by
  induction filters with
  | nil => cases hc
  | cons f filters ih =>
      rw [ofFilters] at hc
      obtain rfl | hc := List.mem_cons.1 hc
      · exact ⟨f, List.mem_cons_self, rfl⟩
      · split at hc
        · cases hc
        · obtain ⟨g, hg, rfl⟩ := ih hc
          exact ⟨g, List.mem_cons_of_mem _ hg, rfl⟩

/-- In a round the selector is asked and the filter in force judges, in the context of the run
with other records. -/
theorem mem_ofRound {next : Context → Logged Offer} {s : Selector} {ctx : Context}
    {rounds : List Round} {choice : Choice} (hrun : Run next ctx rounds choice) {c : Call}
    (hc : c ∈ rounds.flatMap (ofRound s)) :
    ∃ last as, c = .next s (ctx.moved last as) ∨
      ∃ b, c = .judge ctx.filter b (ctx.moved last as) := by
  obtain ⟨r, hr, hc⟩ := List.mem_flatMap.1 hc
  obtain ⟨last, as, hcontext⟩ := hrun.exists_moved hr
  rw [ofRound, hcontext, List.mem_cons, List.mem_map] at hc
  obtain rfl | ⟨b, -, rfl⟩ := hc
  · exact ⟨last, as, .inl rfl⟩
  · exact ⟨some b, r.offer.attachments, .inr ⟨b, rfl⟩⟩

theorem mem_ofNext_fallback {ctx : Context} {entries : List (Selector × Filter)} {c : Call}
    (hc : c ∈ ofNext job ctx (.fallback entries)) :
    ∃ entry ∈ entries, c = select entry.1 (ctx.attempt entry.2) := by
  rw [ofNext] at hc
  split at hc
  · cases hc
  · exact mem_ofEntries hc

theorem mem_ofNext_parameterized {ctx : Context} {parameter : String} {c : Call}
    (hc : c ∈ ofNext job ctx (.parameterized parameter)) :
    ∃ s levels, ctx.levels = levels + 1 ∧ c = next s { ctx with levels } := by
  rw [ofNext] at hc
  split at hc
  · next s levels _ hlevels => exact ⟨s, levels, hlevels, List.mem_singleton.1 hc⟩
  · cases hc

theorem mem_ofJudge_parameterized {ctx : Context} {b : Build} {parameter : String} {c : Call}
    (hc : c ∈ ofJudge ctx b (.parameterized parameter)) :
    ∃ f levels, ctx.levels = levels + 1 ∧ c = judge f b { ctx with levels } := by
  rw [ofJudge] at hc
  split at hc
  · cases hc
  · split at hc
    · next f levels _ hlevels => exact ⟨f, levels, hlevels, List.mem_singleton.1 hc⟩
    · cases hc

/-- How many levels a call takes off those of the calls that it makes. -/
def step (c : Call) : Nat :=
  if c.isParameterized then 1 else 0

/-- A call is made where the caller stands: it may have another filter, other records and fewer
levels. -/
theorem Makes.context_eq {c : Call} {calls : List Call} (h : Makes job c calls) :
    ∀ d ∈ calls, d.context.surroundings = c.context.surroundings ∧
      d.context.levels + c.step = c.context.levels := by
  intro d hd
  cases h with
  | next s ctx =>
      cases s with
      | fallback entries =>
          obtain ⟨entry, -, rfl⟩ := mem_ofNext_fallback hd
          exact ⟨rfl, rfl⟩
      | parameterized parameter =>
          obtain ⟨s, levels, hlevels, rfl⟩ := mem_ofNext_parameterized hd
          exact ⟨rfl, hlevels.symm⟩
      | buildNumber | displayName | permalink | status | triggering => cases hd
  | select hrun =>
      obtain ⟨last, as, rfl | ⟨b, rfl⟩⟩ := mem_ofRound hrun hd
      · exact ⟨rfl, rfl⟩
      · exact ⟨rfl, rfl⟩
  | judge f b ctx =>
      cases f with
      | acceptAll | displayName => cases hd
      | and filters | or filters =>
          obtain ⟨f, -, rfl⟩ := mem_ofFilters hd
          exact ⟨rfl, rfl⟩
      | not f =>
          obtain rfl := List.mem_singleton.1 hd
          exact ⟨rfl, rfl⟩
      | parameterized parameter =>
          obtain ⟨f, levels, hlevels, rfl⟩ := mem_ofJudge_parameterized hd
          exact ⟨rfl, hlevels.symm⟩

/-- A call makes the same calls each time. -/
theorem Makes.unique {c : Call} {calls calls' : List Call} (h : Makes job c calls)
    (h' : Makes job c calls') : calls = calls' := by
  cases h with
  | next => cases h' with | next => rfl
  | select hrun =>
      cases h' with
      | select hrun' => rw [(hrun.unique hrun').1]
  | judge => cases h' with | judge => rfl

end Call

/-! ### Trees of calls -/

/-- A call with the trees of the calls that it makes. -/
inductive CallTree
  | node (call : Call) (below : List CallTree)

namespace CallTree

variable {job : Job}

def call : CallTree → Call
  | node call _ => call

/-- The calls in the tree are those that are made. -/
inductive IsMade (job : Job) : CallTree → Prop
  | node {call : Call} {below : List CallTree} (hmakes : call.Makes job (below.map CallTree.call))
      (hbelow : ∀ t ∈ below, IsMade job t) : IsMade job (node call below)

mutual

/-- How many parameters are followed at most on a way down the tree. -/
def depth : CallTree → Nat
  | node call below => depthBelow call.step below

def depthBelow (step : Nat) : List CallTree → Nat
  | [] => 0
  | t :: below => max (t.depth + step) (depthBelow step below)

end

theorem depthBelow_le_iff {step n : Nat} {below : List CallTree} :
    depthBelow step below ≤ n ↔ ∀ t ∈ below, t.depth + step ≤ n := by
  induction below with
  | nil => simp [depthBelow]
  | cons t below ih => rw [depthBelow, Nat.max_le, ih, List.forall_mem_cons]

/-- No more parameters are followed than the context of the call allows. -/
theorem IsMade.depth_le {t : CallTree} (h : t.IsMade job) : t.depth ≤ t.call.context.levels := by
  induction h with
  | @node call below hmakes _ ih =>
      rw [depth, depthBelow_le_iff]
      intro t ht
      have hlevels := (hmakes.context_eq t.call (List.mem_map_of_mem ht)).2
      have hdepth := ih t ht
      rw [CallTree.call]
      omega

/-- The call at the root and those below it. -/
inductive Contains : CallTree → Call → Prop
  | here (call : Call) (below : List CallTree) : Contains (node call below) call
  | deeper {call c : Call} {below : List CallTree} {t : CallTree} (ht : t ∈ below)
      (hc : Contains t c) : Contains (node call below) c

/-- All calls in a tree are made in the same surroundings. -/
theorem IsMade.surroundings_eq {t : CallTree} (h : t.IsMade job) {c : Call} (hc : t.Contains c) :
    c.context.surroundings = t.call.context.surroundings := by
  induction hc with
  | here => rfl
  | deeper ht _ ih =>
      cases h with
      | node hmakes hbelow =>
          exact (ih (hbelow _ ht)).trans (hmakes.context_eq _ (List.mem_map_of_mem ht)).1

theorem eq_of_map_call_eq {below below' : List CallTree}
    (hinj : ∀ t ∈ below, ∀ t' ∈ below', t.call = t'.call → t = t')
    (hcalls : below.map CallTree.call = below'.map CallTree.call) : below = below' := by
  induction below generalizing below' with
  | nil => simpa using hcalls.symm
  | cons t below ih =>
      cases below' with
      | nil => simp at hcalls
      | cons t' below' =>
          obtain ⟨hcall, hrest⟩ := List.cons.inj hcalls
          obtain rfl := hinj t List.mem_cons_self t' List.mem_cons_self hcall
          rw [ih (fun u hu u' hu' => hinj u (List.mem_cons_of_mem _ hu) u'
            (List.mem_cons_of_mem _ hu')) hrest]

/-- A call has only one tree. -/
theorem IsMade.unique {t t' : CallTree} (h : t.IsMade job) (h' : t'.IsMade job)
    (hcall : t.call = t'.call) : t = t' := by
  induction h generalizing t' with
  | @node call below hmakes _ ih =>
      cases h' with
      | @node call' below' hmakes' hbelow' =>
          obtain rfl : call = call' := hcall
          have hbelow : below = below' :=
            eq_of_map_call_eq (fun t ht t' ht' => ih t ht (hbelow' t' ht'))
              (hmakes.unique hmakes')
          rw [hbelow]

end CallTree

/-! ### Every call has a tree -/

/-- A call comes to an end: there is a tree of the calls that are made. -/
def Call.Ends (job : Job) (c : Call) : Prop :=
  ∃ t : CallTree, t.call = c ∧ t.IsMade job

namespace Call

variable {job : Job}

theorem Makes.ends {c : Call} {calls : List Call} (hmakes : Makes job c calls)
    (hcalls : ∀ d ∈ calls, d.Ends job) : c.Ends job := by
  have hbelow : ∃ below : List CallTree,
      below.map CallTree.call = calls ∧ ∀ t ∈ below, t.IsMade job := by
    clear hmakes
    induction calls with
    | nil => exact ⟨[], rfl, by simp⟩
    | cons d calls ih =>
        obtain ⟨⟨t, rfl, ht⟩, hrest⟩ := List.forall_mem_cons.1 hcalls
        obtain ⟨below, rfl, hbelow⟩ := ih hrest
        exact ⟨t :: below, rfl, List.forall_mem_cons.2 ⟨ht, hbelow⟩⟩
  obtain ⟨below, rfl, hbelow⟩ := hbelow
  exact ⟨.node c below, rfl, .node hmakes hbelow⟩

/-- On one level a filter judges by smaller ones, and a parameter leads to the level below. -/
theorem judge_ends_of_deeper {b : Build} {ctx : Context}
    (hdeeper : ∀ f levels, ctx.levels = levels + 1 → (judge f b { ctx with levels }).Ends job)
    (f : Filter) : (judge f b ctx).Ends job := by
  refine (Makes.judge f b ctx).ends fun d hd => ?_
  induction f using Filter.induction generalizing d with
  | acceptAll | displayName => cases hd
  | and filters ih | or filters ih =>
      obtain ⟨f, hf, rfl⟩ := mem_ofFilters hd
      exact (Makes.judge f b ctx).ends (ih f hf)
  | not f ih =>
      obtain rfl := List.mem_singleton.1 hd
      exact (Makes.judge f b ctx).ends ih
  | parameterized parameter =>
      obtain ⟨f, levels, hlevels, rfl⟩ := mem_ofJudge_parameterized hd
      exact hdeeper f levels hlevels

theorem judge_ends (f : Filter) (b : Build) (ctx : Context) : (judge f b ctx).Ends job := by
  obtain ⟨levels, hlevels⟩ : ∃ n, ctx.levels = n := ⟨_, rfl⟩
  induction levels generalizing f ctx with
  | zero => exact judge_ends_of_deeper (fun _ _ h => by omega) f
  | succ levels ih => exact judge_ends_of_deeper (fun f n h => ih f _ (by simp; omega)) f

/-- A selection ends when its selector does wherever the enumeration stands. -/
theorem select_ends_of_next {s : Selector} {ctx : Context}
    (hnext : ∀ last as, (next s (ctx.moved last as)).Ends job) : (select s ctx).Ends job := by
  obtain ⟨rounds, hrun⟩ := s.exists_run_select job ctx
  refine (Makes.select hrun).ends fun d hd => ?_
  obtain ⟨last, as, rfl | ⟨b, rfl⟩⟩ := mem_ofRound hrun hd
  · exact hnext last as
  · exact judge_ends _ b _

/-- On one level a selector selects with smaller ones, and a parameter leads to the level below. -/
theorem next_ends_of_deeper {levels : Nat}
    (hdeeper : ∀ s ctx n, levels = n + 1 → ctx.levels = n → (next s ctx).Ends job)
    (s : Selector) (ctx : Context) (hlevels : ctx.levels = levels) : (next s ctx).Ends job := by
  induction s using Selector.induction generalizing ctx with
  | buildNumber | displayName | permalink | status | triggering =>
      exact (Makes.next _ ctx).ends fun d hd => by cases hd
  | fallback entries ih =>
      refine (Makes.next _ ctx).ends fun d hd => ?_
      obtain ⟨entry, hentry, rfl⟩ := mem_ofNext_fallback hd
      -- An attempt has other records and another filter, but the levels of the fallback.
      exact select_ends_of_next fun last as => ih entry hentry _ hlevels
  | parameterized parameter =>
      refine (Makes.next _ ctx).ends fun d hd => ?_
      obtain ⟨s, n, hpositive, rfl⟩ := mem_ofNext_parameterized hd
      exact hdeeper s _ n (hlevels.symm.trans hpositive) rfl

theorem next_ends (s : Selector) (ctx : Context) : (next s ctx).Ends job := by
  obtain ⟨levels, hlevels⟩ : ∃ n, ctx.levels = n := ⟨_, rfl⟩
  induction levels generalizing s ctx with
  | zero => exact next_ends_of_deeper (fun _ _ _ h => by omega) s ctx hlevels
  | succ levels ih => exact next_ends_of_deeper (fun s ctx n h => by grind) s ctx hlevels

theorem select_ends (s : Selector) (ctx : Context) : (select s ctx).Ends job :=
  select_ends_of_next fun _ _ => next_ends s _

end Call

end BuildPicker
