import BuildPicker.Proofs.History.Loading
import Mathlib.Data.List.Induction

/-!
What becomes of a snapshot.

A snapshot is read in its order: the name of a job, then the builds of the job, then
the next job. Loading goes on as long as nothing is defined twice, and names the first
definition that repeats an earlier one. If there is none, the history has what is listed
and nothing else: every build stands under the job that lists it, whatever job it names
itself.
-/

namespace BuildPicker

instance (s : JobSnapshot) : Decidable s.IsUnrepeated :=
  inferInstanceAs (Decidable (s.builds.map Build.number).Nodup)

instance (s : Snapshot) : Decidable s.IsUnrepeated :=
  decidable_of_iff
    ((s.jobs.map JobSnapshot.name).Nodup ∧ ∀ t ∈ s.jobs, t.IsUnrepeated)
    ⟨fun h => ⟨h.1, h.2⟩, fun h => ⟨h.names, h.numbers⟩⟩

/-! ### The first definition that repeats an earlier one -/

/-- What comes twice in a snapshot, with nothing twice before it. -/
inductive Snapshot.FirstDefect (s : Snapshot) : DuplicateError → Prop
  | job {before after : List JobSnapshot} {t : JobSnapshot} (hjobs : s.jobs = before ++ t :: after)
      (hbefore : IsUnrepeated ⟨before⟩) (hname : t.name ∈ before.map JobSnapshot.name) :
      FirstDefect s (.job t.name)
  | build {before after : List JobSnapshot} {t : JobSnapshot} {earlier later : List Build}
      {b : Build} (hjobs : s.jobs = before ++ t :: after) (hbefore : IsUnrepeated ⟨before⟩)
      (hname : t.name ∉ before.map JobSnapshot.name) (hbuilds : t.builds = earlier ++ b :: later)
      (hearlier : (earlier.map Build.number).Nodup)
      (hnumber : b.number ∈ earlier.map Build.number) :
      FirstDefect s (.build ⟨t.name, b.number⟩)

/-- The first element of a list whose key stands before it already. -/
theorem exists_first_repeated {α β : Type} {key : α → β} {as : List α}
    (h : ¬(as.map key).Nodup) :
    ∃ before a after, as = before ++ a :: after ∧ (before.map key).Nodup ∧
      key a ∈ before.map key := by
  induction as using List.reverseRecOn with
  | nil => exact absurd List.nodup_nil h
  | append_singleton as a ih =>
      by_cases has : (as.map key).Nodup
      · refine ⟨as, a, [], rfl, has, ?_⟩
        by_contra hnew
        apply h
        rw [List.map_append, List.map_singleton, ← List.concat_eq_append]
        exact has.concat hnew
      · obtain ⟨before, b, after, rfl, hbefore, hb⟩ := ih has
        exact ⟨before, b, after ++ [a], by simp, hbefore, hb⟩

namespace Snapshot

theorem FirstDefect.append {jobs : List JobSnapshot} {e : DuplicateError}
    (h : FirstDefect ⟨jobs⟩ e) (more : List JobSnapshot) : FirstDefect ⟨jobs ++ more⟩ e := by
  cases h with
  | @job before after t hjobs hbefore hname =>
      obtain rfl : jobs = before ++ t :: after := hjobs
      exact .job (List.append_assoc before (t :: after) more) hbefore hname
  | @build before after t _ _ _ hjobs hbefore hname hbuilds hearlier hnumber =>
      obtain rfl : jobs = before ++ t :: after := hjobs
      have hmore := List.append_assoc before (t :: after) more
      exact .build hmore hbefore hname hbuilds hearlier hnumber

theorem IsUnrepeated.concat {jobs : List JobSnapshot} {t : JobSnapshot}
    (h : IsUnrepeated ⟨jobs⟩) (hname : t.name ∉ jobs.map JobSnapshot.name)
    (ht : t.IsUnrepeated) : IsUnrepeated ⟨jobs ++ [t]⟩ where
  names := by
    rw [List.map_append, List.map_singleton, ← List.concat_eq_append]
    exact h.names.concat hname
  numbers u hu := by
    obtain hu | hu := List.mem_append.1 hu
    · exact h.numbers u hu
    · obtain rfl := List.mem_singleton.1 hu
      exact ht

/-- By the order of reading: what has been read so far defines nothing twice, or has a first
defect. -/
theorem isUnrepeated_or_exists_firstDefect (s : Snapshot) :
    s.IsUnrepeated ∨ ∃ e, s.FirstDefect e := by
  obtain ⟨jobs⟩ := s
  induction jobs using List.reverseRecOn with
  | nil => exact .inl ⟨List.nodup_nil, by simp⟩
  | append_singleton jobs t ih =>
      obtain hjobs | ⟨e, he⟩ := ih
      · by_cases hname : t.name ∈ jobs.map JobSnapshot.name
        · exact .inr ⟨_, .job rfl hjobs hname⟩
        · by_cases ht : t.IsUnrepeated
          · exact .inl (hjobs.concat hname ht)
          · obtain ⟨earlier, b, later, hbuilds, hearlier, hnumber⟩ := exists_first_repeated ht
            exact .inr ⟨_, .build rfl hjobs hname hbuilds hearlier hnumber⟩
      · exact .inr ⟨e, he.append [t]⟩

end Snapshot

/-! ### Where loading stops -/

namespace Job

theorem addAll_append (j : Job) (bs bs' : List Build) :
    j.addAll (bs ++ bs') = j.addAll bs >>= fun k => k.addAll bs' := by
  induction bs generalizing j with
  | nil => rfl
  | cons b bs ih =>
      rw [List.cons_append, addAll, addAll]
      obtain ⟨_ | old, next⟩ := j.insert b
      · exact ih next
      · rfl

/-- The builds up to the first repeated number are added, and there is one with this number among
them. -/
theorem ofSnapshot_eq_error {t : JobSnapshot} {earlier later : List Build} {b : Build}
    (hbuilds : t.builds = earlier ++ b :: later) (hearlier : (earlier.map Build.number).Nodup)
    (hnumber : b.number ∈ earlier.map Build.number) :
    ofSnapshot t = .error (.build ⟨t.name, b.number⟩) := by
  obtain ⟨k, hk, hname, -, -, hperm⟩ :=
    exists_addAll hearlier (empty t.name t.root t.permalinks) fun _ _ a ha =>
      absurd ha List.not_mem_nil
  obtain ⟨a, ha, hab⟩ := List.mem_map.1 hnumber
  have hmem : a.ownedBy t.name ∈ k.builds :=
    hperm.mem_iff.2 (List.mem_append_left _ (List.mem_map_of_mem ha))
  have hfound : (k.build? b.number).isSome := isSome_build?_iff.2 ⟨_, hmem, hab⟩
  obtain ⟨old, hold⟩ := Option.isSome_iff_exists.1 hfound
  have hinsert : k.insert b = (some old, (k.insert b).2) := Prod.ext hold rfl
  rw [ofSnapshot, hbuilds, addAll_append, hk]
  change k.addAll (b :: later) = _
  rw [addAll, hinsert, hname]
  rfl

end Job

namespace History

theorem addAll_append (h : History) (jobs jobs' : List JobSnapshot) :
    h.addAll (jobs ++ jobs') = h.addAll jobs >>= fun k => k.addAll jobs' := by
  induction jobs generalizing h with
  | nil => rfl
  | cons t jobs ih =>
      rw [List.cons_append, addAll, addAll]
      split
      · rfl
      · split
        · rfl
        · exact ih _

theorem contains_jobs_iff {k : History} {jobs : List JobSnapshot} (hadds : empty.Adds jobs k)
    {name : JobName} : k.jobs.contains name = true ↔ name ∈ jobs.map JobSnapshot.name := by
  change (k.job? name).isSome = true ↔ _
  rw [Option.isSome_iff_exists, List.mem_map]
  constructor
  · rintro ⟨j, hj⟩
    obtain hempty | ⟨t, ht, hname, -⟩ := hadds.only name j hj
    · cases hempty
    · exact ⟨t, ht, hname⟩
  · rintro ⟨t, ht, rfl⟩
    obtain ⟨j, hj, -⟩ := hadds.listed t ht
    exact ⟨j, hj⟩

/-- The jobs before the defect are loaded, and the defect stops the job that it is in. -/
theorem ofSnapshot_eq_error {s : Snapshot} {e : DuplicateError} (h : s.FirstDefect e) :
    ofSnapshot s = .error e := by
  cases h with
  | job hjobs hbefore hname =>
      obtain ⟨k, hk, hadds⟩ := exists_ofSnapshot hbefore
      have hcontains := (contains_jobs_iff hadds).2 hname
      rw [ofSnapshot] at hk ⊢
      rw [hjobs, addAll_append, hk]
      change k.addAll (_ :: _) = _
      rw [addAll, if_pos hcontains]
  | build hjobs hbefore hname hbuilds hearlier hnumber =>
      obtain ⟨k, hk, hadds⟩ := exists_ofSnapshot hbefore
      have hcontains := mt (contains_jobs_iff hadds).1 hname
      rw [ofSnapshot] at hk ⊢
      rw [hjobs, addAll_append, hk]
      change k.addAll (_ :: _) = _
      rw [addAll, if_neg hcontains, Job.ofSnapshot_eq_error hbuilds hearlier hnumber]

end History

/-! ### What is found in a loaded history -/

namespace Job.IsLoaded

variable {j k : Job} {t : JobSnapshot}

/-- Only one job has what is listed. -/
theorem unique (hj : j.IsLoaded t) (hk : k.IsLoaded t) : j = k := by
  have hbuilds : j.builds = k.builds :=
    (hj.builds.trans hk.builds.symm).eq_of_pairwise
      (fun a b _ _ hab hba => absurd hba (UInt32.lt_asymm hab)) j.descending k.descending
  rw [Job.mk.injEq]
  exact ⟨hj.name.trans hk.name.symm, hj.root.trans hk.root.symm, hbuilds,
    hj.permalinks.trans hk.permalinks.symm⟩

theorem build?_eq_some_iff (hj : j.IsLoaded t) {n : BuildNumber} {b : Build} :
    j.build? n = some b ↔ ∃ a ∈ t.builds, a.number = n ∧ a.ownedBy t.name = b := by
  constructor
  · intro hb
    obtain ⟨hmem, rfl⟩ := mem_of_build? hb
    obtain ⟨a, ha, rfl⟩ := List.mem_map.1 (hj.builds.mem_iff.1 hmem)
    exact ⟨a, ha, rfl, rfl⟩
  · rintro ⟨a, ha, rfl, rfl⟩
    exact build?_number (b := a.ownedBy t.name) (hj.builds.mem_iff.2 (List.mem_map_of_mem ha))

end Job.IsLoaded

namespace History

/-- The history has the jobs and the builds of the snapshot, and no others. -/
structure IsFaithful (h : History) (s : Snapshot) : Prop where
  jobs : ∀ name j, h.job? name = some j ↔ ∃ t ∈ s.jobs, t.name = name ∧ j.IsLoaded t
  builds : ∀ r b, h.build? r = some b ↔
    ∃ t ∈ s.jobs, t.name = r.job ∧ ∃ a ∈ t.builds, a.number = r.number ∧ a.ownedBy t.name = b

theorem Adds.isFaithful {h : History} {s : Snapshot} (hadds : empty.Adds s.jobs h) :
    h.IsFaithful s where
  jobs name j := by
    constructor
    · intro hj
      exact (hadds.only name j hj).resolve_left nofun
    · rintro ⟨t, ht, rfl, hloaded⟩
      obtain ⟨k, hk, hkloaded⟩ := hadds.listed t ht
      rw [hk, hloaded.unique hkloaded]
  builds r b := by
    rw [build?, Option.bind_eq_some_iff]
    constructor
    · rintro ⟨j, hj, hb⟩
      obtain ⟨t, ht, hname, hloaded⟩ := (hadds.only r.job j hj).resolve_left nofun
      exact ⟨t, ht, hname, hloaded.build?_eq_some_iff.1 hb⟩
    · rintro ⟨t, ht, hname, hlisted⟩
      obtain ⟨j, hj, hloaded⟩ := hadds.listed t ht
      exact ⟨j, hname ▸ hj, hloaded.build?_eq_some_iff.2 hlisted⟩

/-- A snapshot can be loaded just if no name of a job and no number of a job's builds comes twice.
The history then has the jobs that are listed, each with its root, its permalinks and the builds
that are listed for it, which bear its name; a look-up finds these and nothing else. Otherwise the
first name or number that comes a second time is reported. -/
theorem ofSnapshot_classified (s : Snapshot) :
    ((∃ h, ofSnapshot s = .ok h) ↔ s.IsUnrepeated) ∧
    (∀ h, ofSnapshot s = .ok h → h.IsFaithful s) ∧
    ∀ e, ofSnapshot s = .error e ↔ s.FirstDefect e := by
  obtain hs | ⟨e, he⟩ := s.isUnrepeated_or_exists_firstDefect
  · obtain ⟨k, hk, hadds⟩ := exists_ofSnapshot hs
    refine ⟨⟨fun _ => hs, fun _ => ⟨k, hk⟩⟩, fun h hh => ?_, fun e => ⟨fun he => ?_, fun he => ?_⟩⟩
    · obtain rfl := Except.ok.inj (hk.symm.trans hh)
      exact hadds.isFaithful
    · cases hk.symm.trans he
    · exact ofSnapshot_eq_error he
  · have hfails := ofSnapshot_eq_error he
    refine ⟨⟨fun ⟨h, hh⟩ => ?_, fun hs => ?_⟩, fun h hh => ?_, fun e' => ⟨fun he' => ?_, ?_⟩⟩
    · cases hfails.symm.trans hh
    · obtain ⟨k, hk, -⟩ := exists_ofSnapshot hs
      cases hfails.symm.trans hk
    · cases hfails.symm.trans hh
    · obtain rfl := Except.error.inj (hfails.symm.trans he')
      exact he
    · exact ofSnapshot_eq_error

/-- Builds of one job that name another; a repeated number is met before a repeated name. -/
theorem ofSnapshot_classified_misnamed :
    let build (job : JobName) (number : BuildNumber) : Build :=
      ⟨job, number, none, none, [], .empty⟩
    let app (numbers : List BuildNumber) : JobSnapshot :=
      ⟨"app", none, .empty, numbers.map (build "lib")⟩
    let lib : JobSnapshot := ⟨"lib", some "app", .empty, [build "" 1]⟩
    (∃ h, ofSnapshot ⟨[app [2, 1], lib]⟩ = .ok h ∧ h.build? ⟨"app", 2⟩ = some (build "app" 2) ∧
      h.build? ⟨"lib", 2⟩ = none) ∧
    ofSnapshot ⟨[lib, app [2, 1, 2], lib]⟩ = .error (.build ⟨"app", 2⟩) := by
  intro build app lib
  constructor
  · obtain ⟨hok, hfaithful, -⟩ := ofSnapshot_classified ⟨[app [2, 1], lib]⟩
    obtain ⟨h, hh⟩ := hok.2 (by decide)
    have hbuilds := (hfaithful h hh).builds
    refine ⟨h, hh, (hbuilds _ _).2 ?_, ?_⟩
    · exact ⟨app [2, 1], by simp, rfl, build "lib" 2, by simp [app], rfl, rfl⟩
    · refine Option.eq_none_iff_forall_ne_some.2 fun b hb => ?_
      obtain ⟨t, ht, hname, a, ha, hnumber, -⟩ := (hbuilds _ _).1 hb
      simp only [List.mem_cons, List.not_mem_nil, or_false] at ht
      obtain rfl | rfl := ht
      · exact absurd hname (by decide)
      · obtain rfl := List.mem_singleton.1 ha
        exact absurd hnumber (by decide)
  · have hjobs : [lib, app [2, 1, 2], lib] = [lib] ++ app [2, 1, 2] :: [lib] := rfl
    have hbuilds : (app [2, 1, 2]).builds =
        [build "lib" 2, build "lib" 1] ++ build "lib" 2 :: [] := rfl
    have hdefect : Snapshot.FirstDefect ⟨[lib, app [2, 1, 2], lib]⟩ (.build ⟨"app", 2⟩) :=
      .build hjobs (by decide) (by decide) hbuilds (by decide) (by decide)
    exact ((ofSnapshot_classified _).2.2 _).2 hdefect

end History

end BuildPicker
