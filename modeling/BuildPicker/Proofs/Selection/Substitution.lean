import BuildPicker.Proofs.Selection.Candidates
import BuildPicker.Proofs.Selection.Verdict

/-!
Substitution of filters.

A selector hands the filter in force on to the selectors within it, narrowed by the
filters of their entries, and looks at it for nothing but verdicts. So filters that
come to the same verdicts may take each other's place, and how a filter has been
put together from several makes no difference.
-/

namespace BuildPicker

namespace Filter

variable {vars : Variables} {f f' g g' : Filter}

/-- Whether two filters accept the same builds, however many parameters may be followed. -/
def Agrees (vars : Variables) (f g : Filter) : Prop :=
  ∀ levels b, (judge vars levels b f).value = (judge vars levels b g).value

theorem Agrees.refl (vars : Variables) (f : Filter) : f.Agrees vars f :=
  fun _ _ => rfl

theorem Agrees.narrowedBy (hf : f.Agrees vars f') (hg : g.Agrees vars g') :
    (f.narrowedBy g).Agrees vars (f'.narrowedBy g') := by
  intro levels b
  rw [value_judge_narrowedBy, value_judge_narrowedBy, hf levels b, hg levels b]

/-- It makes no difference in which order filters are narrowed down. -/
theorem agrees_narrowedBy_assoc (vars : Variables) (f g g' : Filter) :
    ((f.narrowedBy g).narrowedBy g').Agrees vars (f.narrowedBy (g.narrowedBy g')) := by
  intro levels b
  rw [value_judge_narrowedBy, value_judge_narrowedBy, value_judge_narrowedBy,
    value_judge_narrowedBy, Bool.and_assoc]

end Filter

/-- The same with another filter instead of the one in force. -/
def Basis.withFilter (basis : Basis) (f : Filter) : Basis :=
  { basis with filter := f }

theorem Basis.accepts_withFilter_congr (basis : Basis) {f g : Filter}
    (hfg : f.Agrees basis.vars g) :
    (basis.withFilter f).accepts = (basis.withFilter g).accepts :=
  funext fun b => hfg basis.levels b

theorem Basis.accepts_narrowedBy (basis : Basis) (f : Filter) (b : Build) :
    (basis.narrowedBy f).accepts b =
      (basis.accepts b && (basis.withFilter f).accepts b) :=
  Filter.value_judge_narrowedBy basis.vars basis.levels b basis.filter f

namespace Selector

variable {nested : Selector → Basis → Except SelectionError (List Build)} {job : Job}

/-- Whether the candidates of selectors that are read from parameters do not depend on which of
several agreeing filters is in force. -/
def RespectsAgreement (nested : Selector → Basis → Except SelectionError (List Build)) : Prop :=
  ∀ s (basis : Basis) f g, f.Agrees basis.vars g →
    nested s (basis.withFilter f) = nested s (basis.withFilter g)

theorem firstSelection_withFilter_congr {entries : List (Selector × Filter)}
    (hentries : ∀ entry ∈ entries, ∀ (basis : Basis) f g, f.Agrees basis.vars g →
      candidatesWith nested job entry.1 (basis.withFilter f) =
        candidatesWith nested job entry.1 (basis.withFilter g))
    (basis : Basis) {f g : Filter} (hfg : f.Agrees basis.vars g) :
    firstSelection nested job (basis.withFilter f) entries =
      firstSelection nested job (basis.withFilter g) entries := by
  induction entries with
  | nil => rw [firstSelection, firstSelection]
  | cons entry entries ih =>
      rcases entry with ⟨s, f'⟩
      rcases List.forall_mem_cons.1 hentries with ⟨hs, hrest⟩
      have hnarrowed : (f.narrowedBy f').Agrees basis.vars (g.narrowedBy f') :=
        hfg.narrowedBy (.refl _ f')
      have haccepts := basis.accepts_withFilter_congr hnarrowed
      have hcandidates := hs basis _ _ hnarrowed
      rw [firstSelection_cons, firstSelection_cons, ih hrest]
      change firstOf ((candidatesWith nested job s (basis.withFilter (f.narrowedBy f'))).map
        (List.find? (basis.withFilter (f.narrowedBy f')).accepts)) _ = _
      rw [haccepts, hcandidates]
      rfl

/-- The candidates of a selector are the same under filters that agree. -/
theorem candidatesWith_withFilter_congr (hnested : RespectsAgreement nested) (s : Selector) :
    ∀ (basis : Basis) f g, f.Agrees basis.vars g →
      candidatesWith nested job s (basis.withFilter f) =
        candidatesWith nested job s (basis.withFilter g) := by
  induction s using Selector.induction with
  | buildNumber | displayName | permalink | triggering =>
      intro basis f g _
      rw [candidatesWith, candidatesWith]
      rfl
  | status s =>
      intro basis f g _
      rw [candidatesWith, candidatesWith]
  | fallback entries hentries =>
      intro basis f g hfg
      rw [candidatesWith, candidatesWith, firstSelection_withFilter_congr hentries basis hfg]
  | parameterized parameter =>
      intro basis f g hfg
      rw [candidatesWith, candidatesWith]
      dsimp only [Basis.withFilter]
      cases (resolve basis.vars parameter).value with
      | none => rfl
      | some s => exact hnested s basis f g hfg

theorem respectsAgreement_candidatesBelow (job : Job) (levels : Nat) :
    RespectsAgreement (candidatesBelow job levels) := by
  induction levels with
  | zero =>
      intro s basis f g _
      rfl
  | succ levels ih =>
      intro s basis f g hfg
      rw [candidatesBelow, candidatesBelow, candidatesAt_eq]
      exact candidatesWith_withFilter_congr ih s { basis with levels := levels } f g hfg

end Selector

end BuildPicker
