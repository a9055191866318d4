import BuildPicker.Proofs.Selection.Substitution

/-!
Fallbacks within fallbacks.

What a fallback selects is what the first entry that selects a build selects, and
the entries are tried independently of each other. So a fallback in an entry may be
replaced by its own entries, each with the filter of the entry besides its own. What
an entry selects has passed the filter in force already, so the loop that goes
through the candidates of a fallback never declines any.
-/

namespace BuildPicker

namespace Selector

variable {nested : Selector → Basis → Except SelectionError (List Build)} {job : Job}

/-! ### The first selection among entries -/

theorem firstOf_assoc (found found' otherwise : Except SelectionError (Option Build)) :
    firstOf (firstOf found found') otherwise = firstOf found (firstOf found' otherwise) := by
  cases found with
  | error e => rfl
  | ok b? =>
      cases b? with
      | none => rfl
      | some b => rfl

theorem firstSelection_append (basis : Basis) (entries entries' : List (Selector × Filter)) :
    firstSelection nested job basis (entries ++ entries') =
      firstOf (firstSelection nested job basis entries)
        (firstSelection nested job basis entries') := by
  induction entries with
  | nil =>
      rw [List.nil_append, firstSelection]
      rfl
  | cons entry entries ih =>
      rcases entry with ⟨s, f⟩
      rw [List.cons_append, firstSelection_cons, firstSelection_cons, firstOf_assoc, ih]

/-- What an entry selects, the filter in force has accepted together with that of the entry. -/
theorem accepts_of_firstSelection {basis : Basis} {entries : List (Selector × Filter)} {b : Build}
    (h : firstSelection nested job basis entries = .ok (some b)) : basis.accepts b = true := by
  induction entries with
  | nil =>
      rw [firstSelection] at h
      cases h
  | cons entry entries ih =>
      rcases entry with ⟨s, f⟩
      rw [firstSelection_cons] at h
      cases hs : candidatesWith nested job s (basis.narrowedBy f) with
      | error e =>
          rw [hs] at h
          cases h
      | ok bs =>
          rw [hs] at h
          cases hfound : bs.find? (basis.narrowedBy f).accepts with
          | none =>
              apply ih
              rwa [Except.map, hfound] at h
          | some b' =>
              rw [Except.map, hfound] at h
              cases h
              have hb : (basis.narrowedBy f).accepts b = true := List.find?_some hfound
              rw [basis.accepts_narrowedBy, Bool.and_eq_true] at hb
              exact hb.1

/-- The filter in force changes nothing in what a fallback offers. -/
theorem map_find?_fallback (basis : Basis) (entries : List (Selector × Filter)) :
    (candidatesWith nested job (fallback entries) basis).map (List.find? basis.accepts) =
      firstSelection nested job basis entries := by
  rw [candidatesWith]
  cases hfound : firstSelection nested job basis entries with
  | error e => rfl
  | ok b? =>
      cases b? with
      | none => rfl
      | some b =>
          have hb := accepts_of_firstSelection hfound
          exact congrArg Except.ok (List.find?_cons_of_pos hb)

/-- Only one answer is heard from a fallback. -/
theorem answersFrom_fallback (basis : Basis) (entries : List (Selector × Filter)) :
    answersFrom basis.accepts (candidatesWith nested job (fallback entries) basis) =
      [firstSelection nested job basis entries] := by
  rw [candidatesWith]
  cases hfound : firstSelection nested job basis entries with
  | error e => rfl
  | ok b? =>
      cases b? with
      | none => rfl
      | some b =>
          have hb := accepts_of_firstSelection hfound
          exact congrArg (List.cons _) (if_pos hb)

/-- A filter besides the one in force may as well stand with each of the entries. -/
theorem firstSelection_narrowedBy (hnested : RespectsAgreement nested) (basis : Basis)
    (f : Filter) (entries : List (Selector × Filter)) :
    firstSelection nested job (basis.narrowedBy f) entries =
      firstSelection nested job basis
        (entries.map fun entry => (entry.1, f.narrowedBy entry.2)) := by
  induction entries with
  | nil => rw [List.map_nil, firstSelection, firstSelection]
  | cons entry entries ih =>
      rcases entry with ⟨s, g⟩
      have hassoc := Filter.agrees_narrowedBy_assoc basis.vars basis.filter f g
      have haccepts : ((basis.narrowedBy f).narrowedBy g).accepts =
          (basis.narrowedBy (f.narrowedBy g)).accepts :=
        basis.accepts_withFilter_congr hassoc
      have hcandidates : candidatesWith nested job s ((basis.narrowedBy f).narrowedBy g) =
          candidatesWith nested job s (basis.narrowedBy (f.narrowedBy g)) :=
        candidatesWith_withFilter_congr hnested s basis _ _ hassoc
      rw [List.map_cons, firstSelection_cons, firstSelection_cons, haccepts, hcandidates, ih]

theorem firstSelection_flatten (hnested : RespectsAgreement nested) (basis : Basis) (f : Filter)
    (before inner after : List (Selector × Filter)) :
    firstSelection nested job basis (before ++ (fallback inner, f) :: after) =
      firstSelection nested job basis
        (before ++ (inner.map fun entry => (entry.1, f.narrowedBy entry.2)) ++ after) := by
  rw [firstSelection_append, firstSelection_cons, map_find?_fallback,
    firstSelection_narrowedBy hnested, firstSelection_append, firstSelection_append,
    firstOf_assoc]

/-! ### Selections with fallbacks -/

theorem value_result_select_fallback (entries : List (Selector × Filter)) (job : Job)
    (ctx : Context) :
    ((fallback entries).select job ctx).value.result =
      firstSelection (candidatesBelow job ctx.levels) job ctx.basis entries := by
  rw [value_result_select, candidates, candidatesAt_eq]
  exact map_find?_fallback ctx.basis entries

theorem value_next_fallback (entries : List (Selector × Filter)) (job : Job) (ctx : Context) :
    ((fallback entries).next job ctx).value =
      ⟨if ctx.lastMatch.isSome then .ok none
        else firstSelection (candidatesBelow job ctx.levels) job ctx.basis entries,
        ctx.attachments⟩ := by
  have hentries : ∀ entry ∈ entries, ∀ (ctx' : Context) as,
      Offers job (asking (nextWith (nextBelow job ctx.levels) job entry.1) ctx') as
        (candidatesWith (candidatesBelow job ctx.levels) job entry.1 ctx'.basis) := by
    intro entry _ ctx' as
    rw [← nextAt_eq, ← candidatesAt_eq]
    exact offers_nextAt ctx.levels entry.1 ctx' as
  have hchoice := (value_firstChoice hentries ctx).1
  rw [next, nextAt_eq, nextWith]
  split
  · rfl
  · exact congrArg (Offer.mk · ctx.attachments) hchoice

/-- A fallback offers no build that the filter in force declines. -/
theorem all_accepts_next_fallback (entries : List (Selector × Filter)) (job : Job)
    (ctx : Context) :
    (selected? ((fallback entries).next job ctx).value.result).all ctx.accepts = true := by
  rw [value_next_fallback, Option.all_eq_true]
  intro b hb
  dsimp only at hb
  split at hb
  · cases hb
  · cases hfound : firstSelection (candidatesBelow job ctx.levels) job ctx.basis entries with
    | error e =>
        rw [hfound] at hb
        cases hb
    | ok b? =>
        rw [hfound] at hb
        have hb? : b? = some b := hb
        rw [hb?] at hfound
        exact accepts_of_firstSelection hfound

/-- The loop over the candidates of a fallback ends in its first round. -/
theorem exists_run_select_fallback (entries : List (Selector × Filter)) (job : Job)
    (ctx : Context) :
    ∃ round, Run ((fallback entries).next job) { ctx with lastMatch := none } [round]
      ((fallback entries).select job ctx).value := by
  rcases ((fallback entries).offers_next job ctx ctx.attachments).exists_run
      (fallback entries).label with ⟨rounds, as, hrun, hanswers, -⟩
  rw [candidates, candidatesAt_eq] at hanswers
  have hone := congrArg List.length (hanswers.trans (answersFrom_fallback ctx.basis entries))
  rw [List.length_map, List.length_singleton] at hone
  rcases List.length_eq_one_iff.1 hone with ⟨round, rfl⟩
  exact ⟨round, hrun⟩

/-- A fallback in an entry of a fallback may be replaced by its entries, each with the filter of
the replaced one besides its own: the same build is selected, or none, or the selection fails with
the same error. A fallback offers, wherever the enumeration stands, only what the filter in force
accepts, so the loop of a selection hears one answer from it and declines none. -/
theorem select_fallback_flatten (job : Job) (ctx : Context) (f : Filter)
    (before inner after : List (Selector × Filter)) :
    ((fallback (before ++ (fallback inner, f) :: after)).select job ctx).value.result =
      ((fallback (before ++ (inner.map fun entry => (entry.1, f.narrowedBy entry.2)) ++
        after)).select job ctx).value.result ∧
    ∀ entries : List (Selector × Filter),
      (selected? ((fallback entries).next job ctx).value.result).all ctx.accepts = true ∧
      ∃ round, Run ((fallback entries).next job) { ctx with lastMatch := none } [round]
        ((fallback entries).select job ctx).value := by
  have hnested := respectsAgreement_candidatesBelow job ctx.levels
  refine ⟨?_, fun entries => ⟨?_, ?_⟩⟩
  · rw [value_result_select_fallback, value_result_select_fallback,
      firstSelection_flatten hnested]
  · exact all_accepts_next_fallback entries job ctx
  · exact exists_run_select_fallback entries job ctx

end Selector

end BuildPicker
