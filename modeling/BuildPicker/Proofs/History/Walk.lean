import BuildPicker.Proofs.History.Loading
import Mathlib.Data.List.Induction

/-!
Jobs as they are built up, and walks through their builds.

Whatever was added to a job and in whatever order, the job has under each number the
build that was added last, and lists its builds newest first. A walk from build to build
follows this list: what one step skips is what the step asks for nothing of, so no build
is missed or met again.
-/

namespace BuildPicker

/-! ### Building up -/

theorem find?_insertBuild (b : Build) (builds : List Build) (n : BuildNumber) :
    (insertBuild b builds).find? (fun a => a.number = n) =
      if b.number = n then some b else builds.find? (fun a => a.number = n) := by
  induction builds with
  | nil => grind [insertBuild]
  | cons a builds ih => grind [insertBuild]

namespace Job

/-- What can be done to a job. -/
inductive Edit
  | insert (b : Build)
  | permalink (name : String) (number : BuildNumber)

namespace Edit

/-- The build that is added. -/
def build? : Edit → Option Build
  | insert b => some b
  | permalink _ _ => none

/-- The build that is added last under a number. -/
def latest? (edits : List Edit) (n : BuildNumber) : Option Build :=
  (edits.filterMap build?).reverse.find? fun b => b.number = n

theorem latest?_concat_insert (edits : List Edit) (b : Build) (n : BuildNumber) :
    latest? (edits ++ [insert b]) n = if b.number = n then some b else latest? edits n := by
  have hbuilds : (edits ++ [insert b]).filterMap build? = edits.filterMap build? ++ [b] :=
    List.filterMap_append
  rw [latest?, hbuilds, List.reverse_append, List.reverse_singleton, List.singleton_append]
  by_cases hb : b.number = n
  · rw [List.find?_cons_of_pos (by simpa using hb), if_pos hb]
  · rw [List.find?_cons_of_neg (by simpa using hb), if_neg hb, latest?]

theorem latest?_concat_permalink (edits : List Edit) (name : String) (number n : BuildNumber) :
    latest? (edits ++ [permalink name number]) n = latest? edits n := by
  have hbuilds : (edits ++ [permalink name number]).filterMap build? =
      edits.filterMap build? ++ [] := List.filterMap_append
  rw [latest?, hbuilds, List.append_nil, latest?]

end Edit

def edit (j : Job) : Edit → Job
  | .insert b => (j.insert b).2
  | .permalink name number => j.withPermalink name number

/-- The job after edits, one after the other. -/
def edited (j : Job) (edits : List Edit) : Job :=
  edits.foldl edit j

theorem edited_concat (j : Job) (edits : List Edit) (edit : Edit) :
    j.edited (edits ++ [edit]) = (j.edited edits).edit edit := by
  rw [edited, List.foldl_append]
  rfl

theorem name_edited (j : Job) (edits : List Edit) : (j.edited edits).name = j.name := by
  induction edits using List.reverseRecOn with
  | nil => rfl
  | append_singleton edits edit ih =>
      rw [edited_concat, ← ih]
      cases edit with
      | insert | permalink => rfl

theorem build?_insert (j : Job) (b : Build) (n : BuildNumber) :
    (j.insert b).2.build? n = if b.number = n then some (b.ownedBy j.name) else j.build? n :=
  find?_insertBuild (b.ownedBy j.name) j.builds n

theorem build?_edited (name : JobName) (root : Option JobName) (permalinks : Table BuildNumber)
    (edits : List Edit) (n : BuildNumber) :
    ((empty name root permalinks).edited edits).build? n =
      (Edit.latest? edits n).map (·.ownedBy name) := by
  induction edits using List.reverseRecOn with
  | nil => rfl
  | append_singleton edits edit ih =>
      rw [edited_concat]
      cases edit with
      | permalink => rwa [Edit.latest?_concat_permalink]
      | insert b =>
          have hname : ((empty name root permalinks).edited edits).name = name :=
            name_edited _ edits
          rw [edit, build?_insert, ih, hname, Edit.latest?_concat_insert]
          split
          · rfl
          · rfl

/-! ### Walking -/

/-- From a build on, if there is one, following `next` leads to the builds of a list one after the
other, and to no further one. -/
inductive Visits (next : Build → Option Build) : Option Build → List Build → Prop
  | done : Visits next none []
  | step {b : Build} {bs : List Build} (h : Visits next (next b) bs) :
      Visits next (some b) (b :: bs)

variable {j : Job} {b : Build}

theorem previous?_eq_previousMatching? (j : Job) (n : BuildNumber) :
    j.previous? n = j.previousMatching? n fun _ => true := by
  simp only [previous?, previousMatching?, Bool.and_true]

/-- In the last builds of a job, those with a property are met one after the other. -/
theorem visits_of_suffix (p : Build → Bool) {builds : List Build} (h : builds <:+ j.builds) :
    Visits (fun b => j.previousMatching? b.number p) (builds.find? p) (builds.filter p) := by
  induction builds with
  | nil => exact .done
  | cons a builds ih =>
      obtain ⟨before, hbuilds⟩ := h
      have hrest := ih ⟨before ++ [a], by rw [List.append_assoc, List.singleton_append, hbuilds]⟩
      by_cases ha : p a = true
      · rw [List.find?_cons_of_pos ha, List.filter_cons_of_pos ha]
        refine .step ?_
        rwa [previousMatching?_of_builds_eq hbuilds.symm]
      · rwa [List.find?_cons_of_neg ha, List.filter_cons_of_neg ha]

/-- Step by step, all builds below a number are met. -/
theorem visits_previous? (j : Job) (n : BuildNumber) :
    Visits (fun b => j.previous? b.number) (j.previous? n) (j.below n) := by
  have hvisits := visits_of_suffix (fun _ => true) (j.below_suffix n)
  rw [← previousMatching?_eq_find?_below, List.filter_true] at hvisits
  simpa only [previous?_eq_previousMatching?] using hvisits

/-- A job that is built up from nothing has, under each number, the build that was added last, as
its own; adding another one gives that build back. It lists its builds by descending numbers. To
search below a number is to go from build to build until one has the property, and to search again
from each build that is found leads to all builds with the property, in this order, and ends. -/
theorem edited_classified (name : JobName) (root : Option JobName)
    (permalinks : Table BuildNumber) (edits : List Edit) :
    let j := (empty name root permalinks).edited edits
    (∀ n, j.build? n = (Edit.latest? edits n).map (·.ownedBy name)) ∧
    (∀ n b, j.build? n = some b → b.number = n ∧ b.job = name) ∧
    (∀ b, (j.insert b).1 = (Edit.latest? edits b.number).map (·.ownedBy name)) ∧
    (j.builds.Pairwise (fun a b => b.number < a.number) ∧
      ∀ b, b ∈ j.builds ↔ j.build? b.number = some b) ∧
    (∀ n p, Visits (fun b => j.previous? b.number) (j.previous? n) (j.below n) ∧
      j.previousMatching? n p = (j.below n).find? p) ∧
    ∀ p, Visits (fun b => j.previousMatching? b.number p) (j.lastMatching? p)
      (j.builds.filter p) := by
  intro j
  have hbuild := build?_edited name root permalinks edits
  have hname : j.name = name := name_edited _ edits
  refine ⟨hbuild, fun n b hb => ?_, fun b => hbuild b.number, ⟨j.descending, fun b => ?_⟩,
    fun n p => ⟨j.visits_previous? n, j.previousMatching?_eq_find?_below n p⟩,
    fun p => visits_of_suffix p List.suffix_rfl⟩
  · obtain ⟨hmem, hnumber⟩ := mem_of_build? hb
    exact ⟨hnumber, (j.owned b hmem).trans hname⟩
  · exact ⟨build?_number, fun hb => (mem_of_build? hb).1⟩

/-- A build that takes the place of another, and a search that starts at a number without a
build. -/
theorem edited_classified_replaced :
    let build (number : BuildNumber) (outcome : Option Outcome) : Build :=
      ⟨"lib", number, none, outcome, [], .empty⟩
    let j := (empty "app" none .empty).edited
      [.insert (build 3 none), .permalink "kept" 3, .insert (build 0 (some .failure)),
        .insert (build 3 (some .failure)), .insert (build 2 (some .success))]
    let p (b : Build) : Bool := b.outcome = some .failure
    let kept := (build 3 (some .failure)).ownedBy "app"
    j.build? 3 = some kept ∧ kept.number = 3 ∧ kept.job = "app" ∧
    (j.insert (build 3 none)).1 = kept ∧ kept ∈ j.builds ∧
    j.previousMatching? 1 p = some ((build 0 (some .failure)).ownedBy "app") ∧
    Visits (fun b => j.previousMatching? b.number p) (j.lastMatching? p)
      [kept, (build 0 (some .failure)).ownedBy "app"] := by
  intro build j p kept
  obtain ⟨hbuild, howned, hreplaced, ⟨-, hmem⟩, hsearch, hvisits⟩ :=
    edited_classified "app" none .empty
      [.insert (build 3 none), .permalink "kept" 3, .insert (build 0 (some .failure)),
        .insert (build 3 (some .failure)), .insert (build 2 (some .success))]
  have hkept : j.build? 3 = some kept := (hbuild 3).trans (by decide)
  obtain ⟨hnumber, hjob⟩ := howned 3 kept hkept
  exact ⟨hkept, hnumber, hjob, (hreplaced _).trans (by decide), (hmem kept).2 hkept,
    (hsearch 1 p).2.trans (by decide), hvisits p⟩

end Job

end BuildPicker
