import BuildPicker.Proofs.History.Job
import BuildPicker.History.Snapshot
import Mathlib.Data.List.Perm.Basic

/-!
Loading histories.

A snapshot in which no job's name and no number of a job's builds comes twice can be
loaded. A job then has the builds that are listed for it, under its own name, and the
history has the jobs that are listed.
-/

namespace BuildPicker

/-! ### Snapshots that define nothing twice -/

def JobSnapshot.IsUnrepeated (s : JobSnapshot) : Prop :=
  (s.builds.map Build.number).Nodup

structure Snapshot.IsUnrepeated (s : Snapshot) : Prop where
  names : (s.jobs.map JobSnapshot.name).Nodup
  numbers : ∀ t ∈ s.jobs, t.IsUnrepeated

/-! ### Builds of a job -/

/-- A build as the job that it is added to keeps it. -/
def Build.ownedBy (b : Build) (name : JobName) : Build :=
  { b with job := name }

theorem insertBuild_perm {b : Build} {builds : List Build}
    (hnew : ∀ a ∈ builds, a.number ≠ b.number) : (insertBuild b builds).Perm (b :: builds) := by
  induction builds with
  | nil => rfl
  | cons a builds ih =>
      obtain ⟨ha, hnew⟩ := List.forall_mem_cons.1 hnew
      rw [insertBuild, if_neg ha]
      split
      · rfl
      · exact ((ih hnew).cons a).trans (.swap b a builds)

namespace Job

/-- Builds with numbers of their own can be added, whatever their order. -/
theorem exists_addAll {builds : List Build} (hnodup : (builds.map Build.number).Nodup) (j : Job)
    (hnew : ∀ b ∈ builds, ∀ a ∈ j.builds, a.number ≠ b.number) :
    ∃ k, j.addAll builds = .ok k ∧ k.name = j.name ∧ k.root = j.root ∧
      k.permalinks = j.permalinks ∧
      k.builds.Perm (builds.map (·.ownedBy j.name) ++ j.builds) := by
  induction builds generalizing j with
  | nil => exact ⟨j, rfl, rfl, rfl, rfl, .refl _⟩
  | cons b builds ih =>
      obtain ⟨hb, hnew⟩ := List.forall_mem_cons.1 hnew
      rw [List.map_cons, List.nodup_cons] at hnodup
      let next := (j.insert b).2
      have hnext : next.builds.Perm (b.ownedBy j.name :: j.builds) := insertBuild_perm hb
      have hothers : ∀ c ∈ builds, ∀ a ∈ next.builds, a.number ≠ c.number := by
        intro c hc a ha
        obtain rfl | ha := List.mem_cons.1 (hnext.mem_iff.1 ha)
        · intro heq
          exact hnodup.1 (List.mem_map.2 ⟨c, hc, heq.symm⟩)
        · exact hnew c hc a ha
      obtain ⟨k, hk, hname, hroot, hpermalinks, hbuilds⟩ := ih hnodup.2 next hothers
      refine ⟨k, ?_, hname, hroot, hpermalinks, ?_⟩
      · have hinsert : j.insert b = (none, next) := Prod.ext (build?_eq_none hb) rfl
        rw [addAll, hinsert]
        exact hk
      · calc
          k.builds.Perm (builds.map (·.ownedBy j.name) ++ next.builds) := hbuilds
          List.Perm _ (builds.map (·.ownedBy j.name) ++ b.ownedBy j.name :: j.builds) :=
            hnext.append_left _
          List.Perm _ (b.ownedBy j.name :: (builds.map (·.ownedBy j.name) ++ j.builds)) :=
            List.perm_middle

/-- The job has what is listed for it. -/
structure IsLoaded (j : Job) (s : JobSnapshot) : Prop where
  name : j.name = s.name
  root : j.root = s.root
  permalinks : j.permalinks = s.permalinks
  builds : j.builds.Perm (s.builds.map (·.ownedBy s.name))

theorem exists_ofSnapshot {s : JobSnapshot} (h : s.IsUnrepeated) :
    ∃ j, ofSnapshot s = .ok j ∧ j.IsLoaded s := by
  obtain ⟨j, hj, hname, hroot, hpermalinks, hbuilds⟩ :=
    exists_addAll h (empty s.name s.root s.permalinks) fun b _ a ha => absurd ha List.not_mem_nil
  refine ⟨j, hj, hname, hroot, hpermalinks, ?_⟩
  exact hbuilds.trans (.of_eq (List.append_nil _))

end Job

/-! ### Jobs of a history -/

namespace History

theorem job?_insert (h : History) (j : Job) (name : JobName) :
    (h.insert j).job? name = if name = j.name then some j else h.job? name :=
  Table.get?_insert h.jobs j.name name j

/-- One history is the other with the jobs of a list. -/
structure Adds (h : History) (jobs : List JobSnapshot) (k : History) : Prop where
  kept : ∀ name j, h.job? name = some j → k.job? name = some j
  listed : ∀ s ∈ jobs, ∃ j, k.job? s.name = some j ∧ j.IsLoaded s
  only : ∀ name j, k.job? name = some j →
    h.job? name = some j ∨ ∃ s ∈ jobs, s.name = name ∧ j.IsLoaded s

theorem Adds.refl (h : History) : h.Adds [] h where
  kept _ _ hj := hj
  listed _ hs := absurd hs List.not_mem_nil
  only _ _ hj := .inl hj

theorem Adds.cons {h k : History} {j : Job} {s : JobSnapshot} {jobs : List JobSnapshot}
    (hadds : (h.insert j).Adds jobs k) (hj : j.IsLoaded s) (hnew : h.job? s.name = none) :
    h.Adds (s :: jobs) k where
  kept name j' hj' := by
    have hne : name ≠ j.name := by
      rintro rfl
      rw [hj.name, hnew] at hj'
      cases hj'
    exact hadds.kept name j' (by rw [job?_insert, if_neg hne, hj'])
  listed := by
    refine List.forall_mem_cons.2 ⟨⟨j, hadds.kept _ _ ?_, hj⟩, hadds.listed⟩
    rw [job?_insert, if_pos hj.name.symm]
  only name j' hj' := by
    obtain hinsert | ⟨t, ht, hname, hloaded⟩ := hadds.only name j' hj'
    · rw [job?_insert] at hinsert
      split at hinsert
      · next hname =>
          obtain rfl := Option.some.inj hinsert
          exact .inr ⟨s, List.mem_cons_self, hj.name.symm.trans hname.symm, hj⟩
      · exact .inl hinsert
    · exact .inr ⟨t, List.mem_cons_of_mem s ht, hname, hloaded⟩

/-- Jobs with names of their own can be added, whatever their order. -/
theorem exists_adds {jobs : List JobSnapshot} (hnodup : (jobs.map JobSnapshot.name).Nodup)
    (hnumbers : ∀ s ∈ jobs, s.IsUnrepeated) (h : History)
    (hnew : ∀ s ∈ jobs, h.job? s.name = none) : ∃ k, h.addAll jobs = .ok k ∧ h.Adds jobs k := by
  induction jobs generalizing h with
  | nil => exact ⟨h, rfl, .refl h⟩
  | cons s jobs ih =>
      obtain ⟨hs, hnew⟩ := List.forall_mem_cons.1 hnew
      obtain ⟨hsnumbers, hnumbers⟩ := List.forall_mem_cons.1 hnumbers
      rw [List.map_cons, List.nodup_cons] at hnodup
      obtain ⟨j, hj, hloaded⟩ := Job.exists_ofSnapshot hsnumbers
      have hothers : ∀ t ∈ jobs, (h.insert j).job? t.name = none := by
        intro t ht
        have hne : t.name ≠ j.name := fun heq =>
          hnodup.1 (List.mem_map.2 ⟨t, ht, heq.trans hloaded.name⟩)
        rw [job?_insert, if_neg hne, hnew t ht]
      obtain ⟨k, hk, hadds⟩ := ih hnodup.2 hnumbers (h.insert j) hothers
      have hcontains : h.jobs.contains s.name = false := congrArg Option.isSome hs
      refine ⟨k, ?_, hadds.cons hloaded hs⟩
      simp only [addAll, hcontains, Bool.false_eq_true, if_false, hj, hk]

theorem exists_ofSnapshot {s : Snapshot} (h : s.IsUnrepeated) :
    ∃ k, ofSnapshot s = .ok k ∧ empty.Adds s.jobs k :=
  exists_adds h.names h.numbers empty fun _ _ => rfl

end History

end BuildPicker
