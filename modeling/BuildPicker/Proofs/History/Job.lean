import BuildPicker.History.Job
import Mathlib.Data.List.Nodup

/-!
Looking up the builds of a job.

The builds stand newest first and no number comes twice. So a build is found
under its own number, and the builds below its number are those behind it.
-/

namespace BuildPicker

namespace Job

variable {j : Job} {b : Build}

theorem nodup_builds (j : Job) : j.builds.Nodup := by
  refine List.Pairwise.imp ?_ j.descending
  rintro a _ hlt rfl
  exact UInt32.lt_irrefl _ hlt

theorem lt_of_builds_eq {before after : List Build} (h : j.builds = before ++ b :: after) :
    (∀ a ∈ before, b.number < a.number) ∧ ∀ a ∈ after, a.number < b.number := by
  have hdescending := j.descending
  rw [h, List.pairwise_append, List.pairwise_cons] at hdescending
  exact ⟨fun a ha => hdescending.2.2 a ha b List.mem_cons_self, hdescending.2.1.1⟩

theorem mem_of_build? {n : BuildNumber} (hb : j.build? n = some b) :
    b ∈ j.builds ∧ b.number = n :=
  ⟨List.mem_of_find?_eq_some hb, by simpa using List.find?_some hb⟩

theorem build?_number (hb : b ∈ j.builds) : j.build? b.number = some b := by
  obtain ⟨before, after, h⟩ := List.append_of_mem hb
  refine List.find?_eq_some_iff_append.2 ⟨by simp, before, after, h, fun a ha => ?_⟩
  have hlt := (lt_of_builds_eq h).1 a ha
  have hne : a.number ≠ b.number := (UInt32.ne_of_lt hlt).symm
  simpa using hne

theorem build?_eq_none {n : BuildNumber} (h : ∀ a ∈ j.builds, a.number ≠ n) :
    j.build? n = none :=
  List.find?_eq_none.2 fun a ha => by simpa using h a ha

theorem isSome_build?_iff {n : BuildNumber} :
    (j.build? n).isSome ↔ ∃ b ∈ j.builds, b.number = n := by
  simp [build?]

/-! ### Below a number -/

/-- The builds below a number, newest first. -/
def below (j : Job) (n : BuildNumber) : List Build :=
  j.builds.filter fun b => b.number < n

theorem below_number {before after : List Build} (h : j.builds = before ++ b :: after) :
    j.below b.number = after := by
  obtain ⟨hbefore, hafter⟩ := lt_of_builds_eq h
  have hnone : before.filter (fun a => a.number < b.number) = [] :=
    List.filter_eq_nil_iff.2 fun a ha => by simp [UInt32.lt_asymm (hbefore a ha)]
  have hrest : after.filter (fun a => a.number < b.number) = after :=
    List.filter_eq_self.2 fun a ha => by simp [hafter a ha]
  rw [below, h, List.filter_append, hnone, List.nil_append, List.filter_cons_of_neg (by simp),
    hrest]

/-- They are the last ones, since the builds stand in descending order. -/
theorem below_suffix (j : Job) (n : BuildNumber) : j.below n <:+ j.builds := by
  have hdescending := j.descending
  unfold below
  generalize j.builds = builds at hdescending ⊢
  induction hdescending with
  | nil => exact List.suffix_rfl
  | @cons b builds hb _ ih =>
      by_cases hlt : b.number < n
      · have hall : ∀ a ∈ b :: builds, decide (a.number < n) = true := by
          refine List.forall_mem_cons.2 ⟨by simpa using hlt, fun a ha => ?_⟩
          simpa using UInt32.lt_trans (hb a ha) hlt
        exact ⟨[], by rw [List.filter_eq_self.2 hall, List.nil_append]⟩
      · rw [List.filter_cons_of_neg (by simpa using hlt)]
        exact ih.trans (List.suffix_cons b builds)

theorem previousMatching?_eq_find?_below (j : Job) (n : BuildNumber) (p : Build → Bool) :
    j.previousMatching? n p = (j.below n).find? p := by
  simp only [below, List.find?_filter, previousMatching?, Bool.decide_and, Bool.decide_eq_true]

/-- Below a build, the latest with a property is the first one behind it. -/
theorem previousMatching?_of_builds_eq {before after : List Build}
    (h : j.builds = before ++ b :: after) (p : Build → Bool) :
    j.previousMatching? b.number p = after.find? p := by
  rw [previousMatching?_eq_find?_below, below_number h]

end Job

end BuildPicker
