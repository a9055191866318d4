import BuildPicker.Proofs.History.Loading
import BuildPicker.Selection.Triggers

/-!
Histories written in another order.

The jobs of a snapshot may be listed in any order, the builds of each job as well,
and the causes of each build also with repetitions. What is loaded are the same jobs
with the same builds in the same order, newest first; only the causes of the builds
still stand as they were written.
-/

namespace BuildPicker

/-! ### Lists in another order -/

/-- A list in another order, with each element replaced by one that is related to it. -/
def IsReorderedBy {α : Type} (R : α → α → Prop) (as bs : List α) : Prop :=
  ∃ cs, as.Perm cs ∧ List.Forall₂ R cs bs

theorem exists_mem_of_forall₂ {α β : Type} {R : α → β → Prop} {as : List α} {bs : List β}
    (h : List.Forall₂ R as bs) {a : α} (ha : a ∈ as) : ∃ b ∈ bs, R a b := by
  induction h with
  | nil => cases ha
  | @cons c b as bs hcb _ ih =>
      obtain rfl | ha := List.mem_cons.1 ha
      · exact ⟨b, List.mem_cons_self, hcb⟩
      · obtain ⟨b', hb', hab'⟩ := ih ha
        exact ⟨b', List.mem_cons_of_mem b hb', hab'⟩

namespace IsReorderedBy

variable {α β : Type} {R : α → α → Prop} {as bs : List α}

theorem symm (hR : ∀ a b, R a b → R b a) (h : IsReorderedBy R as bs) : IsReorderedBy R bs as := by
  obtain ⟨cs, hperm, hforall⟩ := h
  have hflip : List.Forall₂ R bs cs := (hforall.imp hR).flip
  have hcomp : Relation.Comp (List.Forall₂ R) List.Perm bs as := ⟨cs, hflip, hperm.symm⟩
  rwa [List.forall₂_comp_perm_eq_perm_comp_forall₂] at hcomp

theorem perm_left {cs : List α} (hperm : cs.Perm as) (h : IsReorderedBy R as bs) :
    IsReorderedBy R cs bs := by
  obtain ⟨ds, has, hforall⟩ := h
  exact ⟨ds, hperm.trans has, hforall⟩

theorem perm_right {cs : List α} (h : IsReorderedBy R as bs) (hperm : bs.Perm cs) :
    IsReorderedBy R as cs := by
  obtain ⟨ds, has, hforall⟩ := h
  have hcomp : Relation.Comp (List.Forall₂ R) List.Perm ds cs := ⟨bs, hforall, hperm⟩
  rw [List.forall₂_comp_perm_eq_perm_comp_forall₂] at hcomp
  obtain ⟨es, hds, hforall⟩ := hcomp
  exact ⟨es, has.trans hds, hforall⟩

theorem map {S : β → β → Prop} {f : α → β} (hf : ∀ a b, R a b → S (f a) (f b))
    (h : IsReorderedBy R as bs) : IsReorderedBy S (as.map f) (bs.map f) := by
  obtain ⟨cs, hperm, hforall⟩ := h
  refine ⟨cs.map f, hperm.map f, ?_⟩
  rw [List.forall₂_map_left_iff, List.forall₂_map_right_iff]
  exact hforall.imp hf

/-- What related elements have in common is listed in another order only. -/
theorem map_perm {f : α → β} (hf : ∀ a b, R a b → f a = f b) (h : IsReorderedBy R as bs) :
    (as.map f).Perm (bs.map f) := by
  obtain ⟨cs, hperm, hforall⟩ := h.map hf
  rw [List.forall₂_eq_eq_eq] at hforall
  exact hforall ▸ hperm

theorem exists_of_mem (h : IsReorderedBy R as bs) {a : α} (ha : a ∈ as) : ∃ b ∈ bs, R a b := by
  obtain ⟨cs, hperm, hforall⟩ := h
  exact exists_mem_of_forall₂ hforall (hperm.mem_iff.1 ha)

end IsReorderedBy

/-! ### Reorderings of snapshots -/

def Build.withoutCauses (b : Build) : Build :=
  { b with causes := [] }

/-- The same build, with the same causes in any order and any number of times. -/
structure Build.IsReordering (a b : Build) : Prop where
  withoutCauses : a.withoutCauses = b.withoutCauses
  causes : ∀ c, c ∈ a.causes ↔ c ∈ b.causes

structure JobSnapshot.IsReordering (s t : JobSnapshot) : Prop where
  name : s.name = t.name
  root : s.root = t.root
  permalinks : s.permalinks = t.permalinks
  builds : IsReorderedBy Build.IsReordering s.builds t.builds

/-- The same jobs with the same builds, in any order on every level. -/
def Snapshot.IsReordering (s t : Snapshot) : Prop :=
  IsReorderedBy JobSnapshot.IsReordering s.jobs t.jobs

namespace Build.IsReordering

variable {a b : Build}

theorem number (h : a.IsReordering b) : a.number = b.number :=
  (congrArg Build.number h.withoutCauses :)

theorem symm (h : a.IsReordering b) : b.IsReordering a where
  withoutCauses := h.withoutCauses.symm
  causes c := (h.causes c).symm

theorem ownedBy (h : a.IsReordering b) (name : JobName) :
    (a.ownedBy name).IsReordering (b.ownedBy name) where
  withoutCauses := congrArg (·.ownedBy name) h.withoutCauses
  causes := h.causes

theorem mem_parents_iff (h : a.IsReordering b) {dependencies : Bool} {p : BuildRef} :
    p ∈ a.parents dependencies ↔ p ∈ b.parents dependencies := by
  have hrefs : a.dependencyRefs = b.dependencyRefs :=
    (congrArg Build.dependencyRefs h.withoutCauses :)
  simp only [parents, triggers, List.mem_append, List.mem_filterMap, h.causes, hrefs]

end Build.IsReordering

theorem JobSnapshot.IsReordering.symm {s t : JobSnapshot} (h : s.IsReordering t) :
    t.IsReordering s where
  name := h.name.symm
  root := h.root.symm
  permalinks := h.permalinks.symm
  builds := h.builds.symm fun _ _ hab => hab.symm

theorem JobSnapshot.IsReordering.isUnrepeated {s t : JobSnapshot} (h : s.IsReordering t)
    (hs : s.IsUnrepeated) : t.IsUnrepeated :=
  (h.builds.map_perm fun _ _ hab => hab.number).nodup_iff.1 hs

namespace Snapshot.IsReordering

variable {s t : Snapshot}

theorem symm (h : s.IsReordering t) : t.IsReordering s :=
  IsReorderedBy.symm (fun _ _ hab => hab.symm) h

theorem isUnrepeated (h : s.IsReordering t) (hs : s.IsUnrepeated) : t.IsUnrepeated where
  names := (IsReorderedBy.map_perm (fun _ _ hab => hab.name) h).nodup_iff.1 hs.names
  numbers u hu := by
    obtain ⟨v, hv, huv⟩ := h.symm.exists_of_mem hu
    exact huv.symm.isUnrepeated (hs.numbers v hv)

end Snapshot.IsReordering

/-! ### Reorderings of what is loaded -/

structure Job.IsReordering (j k : Job) : Prop where
  name : j.name = k.name
  root : j.root = k.root
  permalinks : j.permalinks = k.permalinks
  builds : IsReorderedBy Build.IsReordering j.builds k.builds

/-- The job without the causes of its builds. -/
def Job.withoutCauses (j : Job) : Job where
  name := j.name
  root := j.root
  builds := j.builds.map Build.withoutCauses
  permalinks := j.permalinks
  descending := List.pairwise_map.2 j.descending
  owned := List.forall_mem_map.2 j.owned

/-- The builds come in one order only, so but for their causes the jobs are equal. -/
theorem Job.IsReordering.withoutCauses {j k : Job} (h : j.IsReordering k) :
    j.withoutCauses = k.withoutCauses := by
  have hbuilds : j.withoutCauses.builds = k.withoutCauses.builds :=
    (h.builds.map_perm fun _ _ hab => hab.withoutCauses).eq_of_pairwise
      (fun a b _ _ hab hba => absurd hba (UInt32.lt_asymm hab))
      j.withoutCauses.descending k.withoutCauses.descending
  rw [Job.mk.injEq]
  exact ⟨h.name, h.root, hbuilds, h.permalinks⟩

theorem Job.IsLoaded.isReordering {j k : Job} {s t : JobSnapshot} (hj : j.IsLoaded s)
    (hk : k.IsLoaded t) (h : s.IsReordering t) : j.IsReordering k where
  name := hj.name.trans (h.name.trans hk.name.symm)
  root := hj.root.trans (h.root.trans hk.root.symm)
  permalinks := hj.permalinks.trans (h.permalinks.trans hk.permalinks.symm)
  builds := by
    have hlisted := h.builds.map (f := (·.ownedBy s.name)) fun _ _ hab => hab.ownedBy s.name
    refine (hlisted.perm_left hj.builds).perm_right ?_
    rw [h.name]
    exact hk.builds.symm

theorem Job.IsReordering.exists_build? {j k : Job} (h : j.IsReordering k) {n : BuildNumber}
    {a : Build} (ha : j.build? n = some a) : ∃ b, k.build? n = some b ∧ a.IsReordering b := by
  obtain ⟨hmem, rfl⟩ := mem_of_build? ha
  obtain ⟨b, hb, hab⟩ := h.builds.exists_of_mem hmem
  exact ⟨b, hab.number ▸ build?_number hb, hab⟩

namespace History

/-- Each job of one history is in the other one, up to the order in which it was written. -/
def IsCovered (h k : History) : Prop :=
  ∀ name j, h.job? name = some j → ∃ j', k.job? name = some j' ∧ j.IsReordering j'

theorem isCovered_of_adds {h k : History} {s t : Snapshot} (hh : empty.Adds s.jobs h)
    (hk : empty.Adds t.jobs k) (hst : s.IsReordering t) : h.IsCovered k := by
  intro name j hj
  obtain hempty | ⟨u, hu, rfl, hloaded⟩ := hh.only name j hj
  · cases hempty
  · obtain ⟨v, hv, huv⟩ := hst.exists_of_mem hu
    obtain ⟨j', hj', hloaded'⟩ := hk.listed v hv
    exact ⟨j', huv.name ▸ hj', hloaded.isReordering hloaded' huv⟩

theorem IsCovered.exists_build? {h k : History} (hcovered : h.IsCovered k) {r : BuildRef}
    {a : Build} (ha : h.build? r = some a) : ∃ b, k.build? r = some b ∧ a.IsReordering b := by
  obtain ⟨j, hj, hfound⟩ := Option.bind_eq_some_iff.1 ha
  obtain ⟨j', hj', hjj'⟩ := hcovered r.job j hj
  obtain ⟨b, hb, hab⟩ := hjj'.exists_build? hfound
  exact ⟨b, Option.bind_eq_some_iff.2 ⟨j', hj', hb⟩, hab⟩

/-- A snapshot without repetitions and any reordering of it can both be loaded. -/
theorem exists_ofSnapshot_of_isReordering {s t : Snapshot} (hs : s.IsUnrepeated)
    (hst : s.IsReordering t) :
    ∃ h k, ofSnapshot s = .ok h ∧ ofSnapshot t = .ok k ∧ h.IsCovered k ∧ k.IsCovered h := by
  obtain ⟨h, hh, hadds⟩ := exists_ofSnapshot hs
  obtain ⟨k, hk, hadds'⟩ := exists_ofSnapshot (hst.isUnrepeated hs)
  exact ⟨h, k, hh, hk, isCovered_of_adds hadds hadds' hst,
    isCovered_of_adds hadds' hadds hst.symm⟩

end History

end BuildPicker
