import BuildPicker.Selection.Session
import BuildPicker.Proofs.Selection.Failure
import BuildPicker.Proofs.Selection.Requests
import BuildPicker.Proofs.Selection.Triggering
import BuildPicker.Proofs.Text.Trim

/-!
What requests end in.

A request is refused before anything is touched if it names no job, or none that the
history has. Otherwise it ends as its selection does: with the build selected, with
the complaint that none was found, or with the error of a build number. The filter
that the context had before has no part in this.
-/

namespace BuildPicker

open BuildPicker.Text

/-! ### Ends of a loop -/

/-- A loop ends without a build exactly if it hears no error, and no build that the filter in force
accepts. -/
theorem Run.result_eq_none_iff {next : Context → Logged Offer} {ctx : Context}
    {rounds : List Round} {choice : Choice} (hrun : Run next ctx rounds choice) :
    choice.result = .ok none ↔
      ∀ round ∈ rounds, ∃ b?, round.answer = .ok b? ∧ ∀ b ∈ b?, ctx.accepts b = false := by
  induction hrun with
  | failed => simp [Round.answer]
  | exhausted => simp [Round.answer]
  | @accepted ctx b as _ hb =>
      have hb' : ctx.accepts b = true := hb
      simp [Round.answer, hb']
  | @declined ctx b as _ _ _ hb _ ih =>
      have hb' : ctx.accepts b = false := hb
      rw [ih, List.forall_mem_cons]
      simp [Round.answer, hb']
      rfl

namespace Selector

variable {s : Selector} {job : Job} {ctx : Context}

/-- A selection fails only because of a build number. -/
theorem exists_notANumber_of_select {e : SelectionError}
    (he : (s.select job ctx).value.result = .error e) : ∃ value, e = .notANumber value := by
  rcases (Call.select_ends s ctx : (Call.select s ctx).Ends job) with ⟨tree, hcall, hmade⟩
  have hreply : (tree.call.reply job).error? = some e := by
    rw [hcall]
    exact Call.Reply.error?_choice_eq_some_iff.2 he
  rcases hmade.exists_misses hreply with ⟨_, -, _, _, -, hvalue, -⟩
  exact ⟨_, hvalue⟩

end Selector

namespace Request

variable {r : Request} {ctx : Context} {h : History} {job : Job} {e : SelectionError}

/-! ### The job of a request -/

theorem findJob_of_blank (hblank : ∀ given ∈ r.job, isBlankText given = true) :
    r.findJob h = .error .missingJobName := by
  unfold findJob
  cases hjob : r.job with
  | none => rfl
  | some given =>
      have htrim : trim given = "" := trim_eq_empty_iff.2 (hblank given hjob)
      rw [Option.map_some, htrim]
      rfl

/-- The job is looked up under the name given, trimmed. -/
theorem findJob_of_named {given : String} (hgiven : given ∈ r.job)
    (hblank : isBlankText given = false) :
    r.findJob h = match h.job? (trim given) with
      | none => .error (.jobNotFound (trim given))
      | some job => .ok job := by
  have hjob : r.job = some given := hgiven
  have htrim : trim given ≠ "" := by
    intro hempty
    rw [trim_eq_empty_iff.1 hempty] at hblank
    cases hblank
  have hname : (r.job.map trim).filter (! ·.isEmpty) = some (trim given) := by
    rw [hjob, Option.map_some, Option.filter_some, if_pos (by simpa using htrim)]
  cases hlookup : h.job? (trim given) with
  | none => simp only [findJob, hname, hlookup]
  | some job => simp only [findJob, hname, hlookup]

theorem blank_or_named (r : Request) :
    (∀ given ∈ r.job, isBlankText given = true) ∨ ∃ given ∈ r.job, isBlankText given = false := by
  cases r.job with
  | none => exact .inl nofun
  | some given =>
      cases hblank : isBlankText given with
      | true => exact .inl (by simpa using hblank)
      | false => exact .inr ⟨given, rfl, hblank⟩

theorem findJob_eq_missing_iff :
    r.findJob h = .error .missingJobName ↔ ∀ given ∈ r.job, isBlankText given = true := by
  constructor
  · intro hmissing
    rcases r.blank_or_named with hblank | ⟨given, hgiven, hblank⟩
    · exact hblank
    · rw [findJob_of_named hgiven hblank] at hmissing
      split at hmissing
      · cases hmissing
      · cases hmissing
  · exact findJob_of_blank

theorem findJob_eq_notFound_iff {name : JobName} :
    r.findJob h = .error (.jobNotFound name) ↔
      ∃ given ∈ r.job, isBlankText given = false ∧ trim given = name ∧ h.job? name = none := by
  constructor
  · intro hfind
    rcases r.blank_or_named with hblank | ⟨given, hgiven, hblank⟩
    · rw [findJob_of_blank hblank] at hfind
      cases hfind
    · rw [findJob_of_named hgiven hblank] at hfind
      split at hfind
      · next hnone =>
          cases hfind
          exact ⟨given, hgiven, hblank, rfl, hnone⟩
      · cases hfind
  · rintro ⟨given, hgiven, hblank, rfl, hnone⟩
    rw [findJob_of_named hgiven hblank, hnone]

/-! ### Refused requests -/

/-- A request that is refused leaves the context alone and writes nothing. -/
theorem execute_of_error (hjob : r.findJob ctx.history = .error e) :
    r.execute ctx = ⟨⟨.error e, ctx⟩, []⟩ := by
  rw [execute, hjob]
  rfl

/-- So nothing is seen of it in a session, neither in its contexts nor on its console. -/
theorem session_execute_of_error {session : Session} {i : Nat}
    (hctx : session.contexts[i]? = some ctx) (hjob : r.findJob ctx.history = .error e) :
    session.execute i ctx r = (.error e, session) := by
  rcases List.getElem?_eq_some_iff.1 hctx with ⟨hi, rfl⟩
  rw [Session.execute, execute_of_error hjob]
  show (_, session.put i session.contexts[i] []) = _
  rw [Session.put, List.set_getElem_self, Log.shown_nil, List.append_nil]

/-! ### Requests for a job of the history -/

theorem value_chosenSelector (r : Request) :
    r.chosenSelector.value = r.selector.getD .default := by
  unfold chosenSelector
  cases r.selector with
  | none => rfl
  | some s => rfl

theorem value_chosenFilter (r : Request) : r.chosenFilter.value = r.filter.getD .acceptAll := by
  unfold chosenFilter
  cases r.filter with
  | none => rfl
  | some f => rfl

section

variable {result : Except SelectionError (Option Build)}

theorem outcome_eq_ok_iff {b : Build} : r.outcome job result = .ok b ↔ result = .ok (some b) := by
  match result with
  | .error e => simp [outcome]
  | .ok none => simp [outcome]
  | .ok (some b') => simp [outcome]

theorem outcome_eq_error_iff :
    r.outcome job result = .error e ↔
      result = .error e ∨ result = .ok none ∧
        .noBuildFound job.name r.chosenSelector.value.label r.chosenFilter.value.label = e := by
  match result with
  | .error e' => simp [outcome]
  | .ok none => simp [outcome]
  | .ok (some b) => simp [outcome]

end

theorem prepared_eq (r : Request) (ctx : Context) :
    r.prepared ctx =
      { ctx with filter := r.filter.getD .acceptAll, verbose := r.verbose.getD ctx.verbose } := by
  rw [prepared, value_chosenFilter]

/-- The selection of a request for a job. -/
def selection (r : Request) (job : Job) (ctx : Context) : Choice :=
  ((r.selector.getD .default).select job (r.prepared ctx)).value

theorem exists_run_selection (r : Request) (job : Job) (ctx : Context) :
    ∃ rounds, Run ((r.selector.getD .default).next job) { r.prepared ctx with lastMatch := none }
        rounds (r.selection job ctx) ∧
      (r.selection job ctx).context.lastMatch = selected? (r.selection job ctx).result := by
  rcases (r.selector.getD .default).exists_run_select job (r.prepared ctx) with ⟨rounds, hrun⟩
  rcases (r.selector.getD .default).exists_moved_of_select job (r.prepared ctx) with
    ⟨as, hcontext⟩
  exact ⟨rounds, hrun, congrArg Context.lastMatch hcontext⟩

section

variable (hjob : r.findJob ctx.history = .ok job)
include hjob

theorem value_execute_eq_selection :
    (r.execute ctx).value =
      ⟨r.outcome job (r.selection job ctx).result, (r.selection job ctx).context⟩ := by
  rw [value_execute_of_ok hjob, selection, value_chosenSelector]

theorem result_execute_eq_ok_iff {b : Build} :
    (r.execute ctx).value.result = .ok b ↔ (r.selection job ctx).result = .ok (some b) := by
  rw [value_execute_eq_selection hjob]
  exact outcome_eq_ok_iff

theorem mem_and_accepts_of_result_execute {b : Build} (hb : (r.execute ctx).value.result = .ok b) :
    b ∈ job.builds ∧ (r.prepared ctx).accepts b = true :=
  Selector.mem_and_accepts_of_select ((result_execute_eq_ok_iff hjob).1 hb)

/-- A request that found its job fails as its selection, or because that ended without a build. -/
theorem result_execute_eq_error_iff_selection :
    (r.execute ctx).value.result = .error e ↔
      ((∃ value, e = .notANumber value) ∧ (r.selection job ctx).result = .error e) ∨
        (e = .noBuildFound job.name (r.selector.getD .default).label
            (r.filter.getD .acceptAll).label ∧ (r.selection job ctx).result = .ok none) := by
  rw [value_execute_eq_selection hjob, outcome_eq_error_iff, value_chosenSelector,
    value_chosenFilter]
  constructor
  · rintro (he | ⟨hnone, rfl⟩)
    · exact .inl ⟨Selector.exists_notANumber_of_select he, he⟩
    · exact .inr ⟨rfl, hnone⟩
  · rintro (⟨-, he⟩ | ⟨rfl, hnone⟩)
    · exact .inl he
    · exact .inr ⟨hnone, rfl⟩

theorem result_execute_eq_noBuildFound_iff :
    (r.execute ctx).value.result = .error (.noBuildFound job.name (r.selector.getD .default).label
      (r.filter.getD .acceptAll).label) ↔ (r.selection job ctx).result = .ok none := by
  rw [result_execute_eq_error_iff_selection hjob]
  simp

end

/-! ### Every request -/

/-- Only the search for the job fails with an error that is not one of a selection. -/
theorem result_execute_eq_error_iff (hnotFound : ∀ name s f, e ≠ .noBuildFound name s f)
    (hnumber : ∀ value, e ≠ .notANumber value) :
    (r.execute ctx).value.result = .error e ↔ r.findJob ctx.history = .error e := by
  cases hjob : r.findJob ctx.history with
  | error e' =>
      rw [value_execute_of_error hjob]
      show Except.error e' = .error e ↔ _
      rw [Except.error.injEq, Except.error.injEq]
  | ok job =>
      rw [result_execute_eq_error_iff_selection hjob]
      simp [hnotFound, hnumber]

theorem result_execute_eq_missing_iff :
    (r.execute ctx).value.result = .error .missingJobName ↔
      ∀ given ∈ r.job, isBlankText given = true := by
  rw [result_execute_eq_error_iff (by simp) (by simp)]
  exact findJob_eq_missing_iff

theorem result_execute_eq_notFound_iff {name : JobName} :
    (r.execute ctx).value.result = .error (.jobNotFound name) ↔
      ∃ given ∈ r.job, isBlankText given = false ∧ trim given = name ∧
        ctx.history.job? name = none := by
  rw [result_execute_eq_error_iff (by simp) (by simp)]
  exact findJob_eq_notFound_iff

/-- What is returned is accepted by the filter of the request. -/
theorem accepts_of_result_execute {b : Build} (hb : (r.execute ctx).value.result = .ok b) :
    (r.prepared ctx).accepts b = true := by
  cases hjob : r.findJob ctx.history with
  | error e =>
      rw [value_execute_of_error hjob] at hb
      cases hb
  | ok job => exact (mem_and_accepts_of_result_execute hjob hb).2

/-- A request fails for want of a job exactly if it names none or one that the history does not
have, and then nothing has been touched: not the context, and neither the others of its session
nor the console. Otherwise it ends as the loop over the offers of its selector, or of the default
one, does under its filter, or that which accepts all: with the build selected, with the complaint
that none was found if no build offered was accepted, or with the error of a build number. The
filter that the context had before lets nothing through that the filter of the request rejects. -/
theorem execute_classified (r : Request) (ctx : Context) :
    let response := (r.execute ctx).value
    let s := r.selector.getD .default
    let f := r.filter.getD .acceptAll
    let prepared := { ctx with filter := f, verbose := r.verbose.getD ctx.verbose }
    (response.result = .error .missingJobName ↔ ∀ given ∈ r.job, isBlankText given = true) ∧
    (∀ name, response.result = .error (.jobNotFound name) ↔
      ∃ given ∈ r.job, isBlankText given = false ∧ trim given = name ∧
        ctx.history.job? name = none) ∧
    (∀ e, e = .missingJobName ∨ (∃ name, e = .jobNotFound name) → response.result = .error e →
      r.execute ctx = ⟨⟨.error e, ctx⟩, []⟩ ∧
      ∀ (session : Session) (i : Nat), session.contexts[i]? = some ctx →
        session.execute i ctx r = (.error e, session)) ∧
    (∀ given ∈ r.job, isBlankText given = false →
      ∀ job, ctx.history.job? (trim given) = some job →
        ∃ rounds choice, Run (s.next job) { prepared with lastMatch := none } rounds choice ∧
          (s.select job prepared).value = choice ∧ response.context = choice.context ∧
          (∀ b, response.result = .ok b ↔ choice.result = .ok (some b)) ∧
          (∀ b, response.result = .ok b → b ∈ job.builds ∧ prepared.accepts b = true) ∧
          (response.result = .error (.noBuildFound job.name s.label f.label) ↔
            ∀ round ∈ rounds, ∃ b?, round.answer = .ok b? ∧
              ∀ b ∈ b?, prepared.accepts b = false) ∧
          ∀ e, response.result = .error e →
            (e = .noBuildFound job.name s.label f.label ∧ response.context.lastMatch = none) ∨
              ((∃ value, e = .notANumber value) ∧ choice.result = .error e)) ∧
    ∀ earlier b, (r.execute { ctx with filter := earlier }).value.result = .ok b →
      prepared.accepts b = true := by
  intro response s f prepared
  have hprepared : r.prepared ctx = prepared := r.prepared_eq ctx
  refine ⟨result_execute_eq_missing_iff, fun name => result_execute_eq_notFound_iff, ?_, ?_, ?_⟩
  · intro e he herror
    have hjob : r.findJob ctx.history = .error e := by
      rcases he with rfl | ⟨name, rfl⟩
      · exact (result_execute_eq_error_iff (by simp) (by simp)).1 herror
      · exact (result_execute_eq_error_iff (by simp) (by simp)).1 herror
    exact ⟨execute_of_error hjob, fun session i hctx => session_execute_of_error hctx hjob⟩
  · intro given hgiven hblank job hlookup
    have hjob : r.findJob ctx.history = .ok job := by
      rw [findJob_of_named hgiven hblank, hlookup]
    rcases r.exists_run_selection job ctx with ⟨rounds, hrun, hlast⟩
    have hcontext : response.context = (r.selection job ctx).context :=
      congrArg Response.context (value_execute_eq_selection hjob)
    rw [← hprepared]
    refine ⟨rounds, r.selection job ctx, hrun, rfl, hcontext,
      fun b => result_execute_eq_ok_iff hjob,
      fun b => mem_and_accepts_of_result_execute hjob, ?_, ?_⟩
    · exact (result_execute_eq_noBuildFound_iff hjob).trans hrun.result_eq_none_iff
    · intro e he
      rcases (result_execute_eq_error_iff_selection hjob).1 he with hnumber | ⟨rfl, hnone⟩
      · exact .inr hnumber
      · refine .inl ⟨rfl, ?_⟩
        rw [hcontext, hlast, hnone]
        rfl
  · intro earlier b hb
    have haccepts := accepts_of_result_execute hb
    rwa [prepared_eq] at haccepts

/-- On a context whose filter rejects all: a library is found under a name with blanks around it
and its second build is selected, but no library of another name is found. -/
theorem execute_classified_looped :
    let r : Request := ⟨some " lib/linux ", none, some (.displayName "#2"), none⟩
    let other : Request := { r with job := some "library" }
    let b := Build.ofTriggers "lib/linux" 2 []
    isBlankText " lib/linux " = false ∧
    Context.looped.history.job? (trim " lib/linux ") = some .library ∧
    (r.execute .looped).value.result = .ok b ∧
    (Selector.default.select .library (r.prepared .looped)).value.result = .ok (some b) ∧
    b ∈ Job.library.builds ∧ { Context.looped with filter := .displayName "#2" }.accepts b = true ∧
    (other.execute .looped).value.result = .error (.jobNotFound "library") ∧
    other.execute .looped = ⟨⟨.error (.jobNotFound "library"), .looped⟩, []⟩ := by
  intro r other b
  have hblank : isBlankText " lib/linux " = false := by decide
  have hlookup : Context.looped.history.job? (trim " lib/linux ") = some .library := by decide
  have hresult : (r.execute .looped).value.result = .ok b := by decide
  rcases execute_classified r .looped with ⟨-, -, -, hfound, -⟩
  rcases hfound _ rfl hblank _ hlookup with ⟨rounds, _, -, rfl, -, hiff, hmem, -, -⟩
  rcases execute_classified other .looped with ⟨-, hnotFound, hrefused, -, -⟩
  have hother : (other.execute .looped).value.result = .error (.jobNotFound "library") :=
    (hnotFound "library").2 ⟨_, rfl, by decide, by decide, by decide⟩
  exact ⟨hblank, hlookup, hresult, (hiff b).1 hresult, (hmem b hresult).1, (hmem b hresult).2,
    hother, (hrefused _ (.inr ⟨_, rfl⟩) hother).1⟩

end Request

end BuildPicker
