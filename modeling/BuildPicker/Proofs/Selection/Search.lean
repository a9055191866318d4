import BuildPicker.Selection.Triggers
import Mathlib.Algebra.BigOperators.Group.List.Basic
import Mathlib.Algebra.Order.BigOperators.Group.List
import Mathlib.Algebra.Order.Ring.Nat

/-!
The search for the builds that triggered another.

`Follows` is the set of builds that the search leaves, given by its rule alone,
and `Meets` are the numbers met from there. The search finds exactly these,
whatever cycles and gaps the history has. Nothing else is found because all that
is pending belongs to the set. Nothing is missed because each build is left at
most once, so that the rounds suffice to empty the list of pending builds, and
then the visited builds are closed under the rule.
-/

namespace BuildPicker

namespace Job

variable {j : Job}

theorem mem_own_iff {parents : List BuildRef} {n : BuildNumber} :
    n ∈ j.own parents ↔ ∃ p ∈ parents, j.answersTo p.job ∧ p.number = n := by
  simp [Job.own, and_assoc]

theorem mem_onward_iff {visited parents : List BuildRef} {p : BuildRef} :
    p ∈ j.onward visited parents ↔ p ∈ parents ∧ j.answersTo p.job = false ∧ p ∉ visited := by
  simp [Job.onward]

theorem length_onward_le (j : Job) (visited parents : List BuildRef) :
    (j.onward visited parents).length ≤ parents.length :=
  List.length_filter_le _ _

end Job

namespace History

variable {h : History} {j : Job} {dependencies : Bool} {origin : BuildRef}

/-! ### Builds of a history -/

/-- All builds, job by job. -/
def builds (h : History) : List Build :=
  h.jobs.entries.flatMap fun e => e.2.builds

theorem mem_entries_of_job? {name : JobName} (hj : h.job? name = some j) :
    (name, j) ∈ h.jobs.entries := by
  obtain ⟨before, after, hentries, -⟩ := List.lookup_eq_some_iff.1 hj
  rw [hentries]
  simp

/-- A build that is found stands in the history under its own reference. -/
theorem mem_builds_of_build? {r : BuildRef} {b : Build} (hb : h.build? r = some b) :
    b ∈ h.builds ∧ b.ref = r := by
  obtain ⟨j, hj, hfound⟩ := Option.bind_eq_some_iff.1 hb
  have hentry := mem_entries_of_job? hj
  have hmem : b ∈ j.builds := List.mem_of_find?_eq_some hfound
  have hnumber : b.number = r.number := by simpa using List.find?_some hfound
  have hjob : b.job = r.job := (j.owned b hmem).trans (h.named _ hentry)
  exact ⟨List.mem_flatMap.2 ⟨_, hentry, hmem⟩, by rw [Build.ref, hjob, hnumber]⟩

/-! ### What the search is to find -/

/-- The builds that the search leaves: the first one, and with every build of the history its
parents that do not count as builds of the job. -/
inductive Follows (h : History) (j : Job) (dependencies : Bool) (origin : BuildRef) :
    BuildRef → Prop
  | origin : Follows h j dependencies origin origin
  | parent {r p : BuildRef} {b : Build} (hr : Follows h j dependencies origin r)
      (hb : h.build? r = some b) (hp : p ∈ b.parents dependencies)
      (hother : j.answersTo p.job = false) : Follows h j dependencies origin p

/-- The numbers under which the job's builds are parents of builds that the search leaves. -/
def Meets (h : History) (j : Job) (dependencies : Bool) (origin : BuildRef) (n : BuildNumber) :
    Prop :=
  ∃ r b p, h.Follows j dependencies origin r ∧ h.build? r = some b ∧
    p ∈ b.parents dependencies ∧ j.answersTo p.job ∧ p.number = n

/-! ### Rounds of the search -/

section

variable {rounds : Nat} {pending visited : List BuildRef} {r : BuildRef}

@[simp] theorem search_nil :
    (h.search j dependencies rounds [] visited).value = [] := by
  cases rounds with
  | zero => rfl
  | succ rounds => rfl

theorem search_visited (hr : r ∈ visited) :
    (h.search j dependencies (rounds + 1) (r :: pending) visited).value =
      (h.search j dependencies rounds pending visited).value := by
  rw [search, if_pos (List.contains_iff_mem.2 hr)]

theorem search_absent (hr : r ∉ visited) (hb : h.build? r = none) :
    (h.search j dependencies (rounds + 1) (r :: pending) visited).value =
      (h.search j dependencies rounds pending (r :: visited)).value := by
  rw [search, if_neg (by simpa using hr), hb]
  rfl

theorem search_present {b : Build} (hr : r ∉ visited) (hb : h.build? r = some b) :
    (h.search j dependencies (rounds + 1) (r :: pending) visited).value =
      j.own (b.parents dependencies) ++
        (h.search j dependencies rounds
          ((j.onward (r :: visited) (b.parents dependencies)).reverse ++ pending)
          (r :: visited)).value := by
  rw [search, if_neg (by simpa using hr), hb]
  rfl

end

/-! ### Nothing else is found -/

theorem meets_of_mem_search {rounds : Nat} {pending visited : List BuildRef} {n : BuildNumber}
    (hpending : ∀ r ∈ pending, h.Follows j dependencies origin r)
    (hn : n ∈ (h.search j dependencies rounds pending visited).value) :
    h.Meets j dependencies origin n := by
  induction rounds generalizing pending visited with
  | zero => cases hn
  | succ rounds ih =>
      cases pending with
      | nil => simp at hn
      | cons r pending =>
          obtain ⟨hfollows, hpending⟩ := List.forall_mem_cons.1 hpending
          by_cases hr : r ∈ visited
          · rw [search_visited hr] at hn
            exact ih hpending hn
          · cases hb : h.build? r with
            | none =>
                rw [search_absent hr hb] at hn
                exact ih hpending hn
            | some b =>
                rw [search_present hr hb, List.mem_append] at hn
                obtain hn | hn := hn
                · obtain ⟨p, hp, hown, rfl⟩ := Job.mem_own_iff.1 hn
                  exact ⟨r, b, p, hfollows, hb, hp, hown, rfl⟩
                · refine ih (fun p hp => ?_) hn
                  rw [List.mem_append, List.mem_reverse, Job.mem_onward_iff] at hp
                  obtain ⟨hp, hother, -⟩ | hp := hp
                  · exact .parent hfollows hb hp hother
                  · exact hpending p hp

/-! ### Nothing is missed -/

/-- How many parents a build adds when it is left, which is done only once. -/
def parentsLeft (dependencies : Bool) (visited : List BuildRef) (b : Build) : Nat :=
  if b.ref ∈ visited then 0 else (b.parents dependencies).length

/-- How many parents may still be added. -/
def roundsLeft (h : History) (dependencies : Bool) (visited : List BuildRef) : Nat :=
  (h.builds.map (parentsLeft dependencies visited)).sum

theorem searchRounds_eq (h : History) (dependencies : Bool) :
    h.searchRounds dependencies = 1 + h.roundsLeft dependencies [] := by
  have hparents : parentsLeft dependencies [] = fun b => (b.parents dependencies).length := by
    funext b
    exact if_neg List.not_mem_nil
  rw [searchRounds, roundsLeft, builds, hparents, ← List.length_flatMap, List.flatMap_assoc]

theorem parentsLeft_cons_le (dependencies : Bool) (r : BuildRef) (visited : List BuildRef)
    (b : Build) :
    parentsLeft dependencies (r :: visited) b ≤ parentsLeft dependencies visited b := by
  unfold parentsLeft
  split
  · exact Nat.zero_le _
  · next hb => rw [if_neg fun hmem => hb (List.mem_cons_of_mem _ hmem)]

theorem roundsLeft_cons_le (h : History) (dependencies : Bool) (r : BuildRef)
    (visited : List BuildRef) :
    h.roundsLeft dependencies (r :: visited) ≤ h.roundsLeft dependencies visited :=
  List.sum_le_sum fun b _ => parentsLeft_cons_le dependencies r visited b

/-- A build of the history that is left takes the number of its parents off the count. -/
theorem length_parents_add_roundsLeft_le (dependencies : Bool) {b : Build}
    {visited : List BuildRef} (hb : b ∈ h.builds) (hvisited : b.ref ∉ visited) :
    (b.parents dependencies).length + h.roundsLeft dependencies (b.ref :: visited) ≤
      h.roundsLeft dependencies visited := by
  have hleft : parentsLeft dependencies visited b = (b.parents dependencies).length :=
    if_neg hvisited
  have hnone : parentsLeft dependencies (b.ref :: visited) b = 0 :=
    if_pos List.mem_cons_self
  unfold roundsLeft
  rw [← List.sum_map_erase _ hb, ← List.sum_map_erase _ hb, hleft, hnone, Nat.zero_add]
  exact Nat.add_le_add_left
    (List.sum_le_sum fun a _ => parentsLeft_cons_le dependencies b.ref visited a) _

/-- All that is to be followed from visited builds is visited or pending. -/
def IsExplored (h : History) (j : Job) (dependencies : Bool) (visited pending : List BuildRef) :
    Prop :=
  ∀ r ∈ visited, ∀ b, h.build? r = some b → ∀ p ∈ b.parents dependencies,
    j.answersTo p.job = false → p ∈ visited ∨ p ∈ pending

section

variable {visited pending : List BuildRef} {r : BuildRef}

theorem IsExplored.of_mem (hexplored : h.IsExplored j dependencies visited (r :: pending))
    (hr : r ∈ visited) : h.IsExplored j dependencies visited pending := by
  intro q hq b hb p hp hother
  obtain hmem | hmem := hexplored q hq b hb p hp hother
  · exact .inl hmem
  · obtain rfl | hmem := List.mem_cons.1 hmem
    · exact .inl hr
    · exact .inr hmem

theorem IsExplored.cons_absent (hexplored : h.IsExplored j dependencies visited (r :: pending))
    (hb : h.build? r = none) : h.IsExplored j dependencies (r :: visited) pending := by
  intro q hq b hq' p hp hother
  obtain rfl | hq := List.mem_cons.1 hq
  · rw [hb] at hq'
    cases hq'
  · have hmem := hexplored q hq b hq' p hp hother
    rw [List.mem_cons] at hmem ⊢
    grind

theorem IsExplored.cons_present {b : Build}
    (hexplored : h.IsExplored j dependencies visited (r :: pending)) (hb : h.build? r = some b) :
    h.IsExplored j dependencies (r :: visited)
      ((j.onward (r :: visited) (b.parents dependencies)).reverse ++ pending) := by
  intro q hq a ha p hp hother
  rw [List.mem_append, List.mem_reverse, Job.mem_onward_iff]
  obtain rfl | hq := List.mem_cons.1 hq
  · obtain rfl : b = a := Option.some.inj (hb.symm.trans ha)
    by_cases hvisited : p ∈ q :: visited
    · exact .inl hvisited
    · exact .inr (.inl ⟨hp, hother, hvisited⟩)
  · have hmem := hexplored q hq a ha p hp hother
    rw [List.mem_cons] at hmem ⊢
    grind

/-- What a search leaves visited in the end, and what it finds: the parents of all builds that it
comes to visit, as far as they count as builds of the job. -/
structure IsFinal (h : History) (j : Job) (dependencies : Bool) (visited pending : List BuildRef)
    (found : List BuildNumber) (final : List BuildRef) : Prop where
  explored : h.IsExplored j dependencies final []
  of_visited : ∀ r ∈ visited, r ∈ final
  of_pending : ∀ r ∈ pending, r ∈ final
  met : ∀ r ∈ final, r ∉ visited → ∀ b, h.build? r = some b →
    ∀ n ∈ j.own (b.parents dependencies), n ∈ found

namespace IsFinal

variable {found : List BuildNumber} {final : List BuildRef}

theorem of_empty (hexplored : h.IsExplored j dependencies visited []) :
    h.IsFinal j dependencies visited [] found visited where
  explored := hexplored
  of_visited _ hr := hr
  of_pending _ hr := absurd hr List.not_mem_nil
  met _ hr hnot := absurd hr hnot

theorem cons_visited (hfinal : h.IsFinal j dependencies visited pending found final)
    (hr : r ∈ visited) : h.IsFinal j dependencies visited (r :: pending) found final where
  explored := hfinal.explored
  of_visited := hfinal.of_visited
  of_pending := List.forall_mem_cons.2 ⟨hfinal.of_visited r hr, hfinal.of_pending⟩
  met := hfinal.met

theorem cons_absent (hfinal : h.IsFinal j dependencies (r :: visited) pending found final)
    (hb : h.build? r = none) : h.IsFinal j dependencies visited (r :: pending) found final where
  explored := hfinal.explored
  of_visited q hq := hfinal.of_visited q (List.mem_cons_of_mem r hq)
  of_pending :=
    List.forall_mem_cons.2 ⟨hfinal.of_visited r List.mem_cons_self, hfinal.of_pending⟩
  met q hq hvisited a ha := by
    have hne : q ≠ r := by
      rintro rfl
      rw [hb] at ha
      cases ha
    exact hfinal.met q hq (List.not_mem_cons_of_ne_of_not_mem hne hvisited) a ha

theorem cons_present {b : Build} {onward : List BuildRef}
    (hfinal : h.IsFinal j dependencies (r :: visited) (onward ++ pending) found final)
    (hb : h.build? r = some b) :
    h.IsFinal j dependencies visited (r :: pending) (j.own (b.parents dependencies) ++ found)
      final where
  explored := hfinal.explored
  of_visited q hq := hfinal.of_visited q (List.mem_cons_of_mem r hq)
  of_pending := List.forall_mem_cons.2 ⟨hfinal.of_visited r List.mem_cons_self,
    fun q hq => hfinal.of_pending q (List.mem_append_right onward hq)⟩
  met q hq hvisited a ha n hn := by
    rw [List.mem_append]
    by_cases hne : q = r
    · subst hne
      obtain rfl : b = a := Option.some.inj (hb.symm.trans ha)
      exact .inl hn
    · exact .inr
        (hfinal.met q hq (List.not_mem_cons_of_ne_of_not_mem hne hvisited) a ha n hn)

end IsFinal

/-- A search with rounds for all pending builds and all parents that may still be added. -/
theorem exists_isFinal_search {rounds : Nat}
    (hexplored : h.IsExplored j dependencies visited pending)
    (hrounds : pending.length + h.roundsLeft dependencies visited ≤ rounds) :
    ∃ final, h.IsFinal j dependencies visited pending
      (h.search j dependencies rounds pending visited).value final := by
  -- A round takes one build off the pending ones; the parents that it adds were counted before.
  induction rounds generalizing pending visited with
  | zero =>
      obtain rfl : pending = [] := List.length_eq_zero_iff.1 (by omega)
      exact ⟨visited, .of_empty hexplored⟩
  | succ rounds ih =>
      cases pending with
      | nil => exact ⟨visited, .of_empty hexplored⟩
      | cons r pending =>
          rw [List.length_cons] at hrounds
          by_cases hr : r ∈ visited
          · obtain ⟨final, hfinal⟩ := ih (hexplored.of_mem hr) (by omega)
            rw [search_visited hr]
            exact ⟨final, hfinal.cons_visited hr⟩
          · cases hb : h.build? r with
            | none =>
                have hless := h.roundsLeft_cons_le dependencies r visited
                obtain ⟨final, hfinal⟩ := ih (hexplored.cons_absent hb) (by omega)
                rw [search_absent hr hb]
                exact ⟨final, hfinal.cons_absent hb⟩
            | some b =>
                obtain ⟨hmem, rfl⟩ := mem_builds_of_build? hb
                have honward := j.length_onward_le (b.ref :: visited) (b.parents dependencies)
                have hless := length_parents_add_roundsLeft_le dependencies hmem hr
                obtain ⟨final, hfinal⟩ := ih (hexplored.cons_present hb) (by
                  rw [List.length_append, List.length_reverse]
                  omega)
                rw [search_present hr hb]
                exact ⟨final, hfinal.cons_present hb⟩

end

theorem Follows.mem_of_isExplored {r : BuildRef} {final : List BuildRef}
    (hr : h.Follows j dependencies origin r) (hfinal : h.IsExplored j dependencies final [])
    (horigin : origin ∈ final) : r ∈ final := by
  induction hr with
  | origin => exact horigin
  | parent _ hb hp hother ih =>
      exact (hfinal _ ih _ hb _ hp hother).resolve_right List.not_mem_nil

/-- The search finds the numbers under which the job's builds are met, and no others. -/
theorem mem_search_iff {n : BuildNumber} :
    n ∈ (h.search j dependencies (h.searchRounds dependencies) [origin] []).value ↔
      h.Meets j dependencies origin n := by
  constructor
  · exact meets_of_mem_search (List.forall_mem_singleton.2 .origin)
  · rintro ⟨r, b, p, hr, hb, hp, hown, rfl⟩
    have hstart : h.IsExplored j dependencies [] [origin] :=
      fun r hr => absurd hr List.not_mem_nil
    obtain ⟨final, hfinal⟩ := exists_isFinal_search hstart (searchRounds_eq h dependencies).ge
    have horigin := hfinal.of_pending origin List.mem_cons_self
    have hvisited := hr.mem_of_isExplored hfinal.explored horigin
    exact hfinal.met r hvisited List.not_mem_nil b hb _ (Job.mem_own_iff.2 ⟨p, hp, hown, rfl⟩)

instance (n : BuildNumber) : Decidable (h.Meets j dependencies origin n) :=
  decidable_of_iff _ mem_search_iff

end History

end BuildPicker
