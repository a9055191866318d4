import BuildPicker.History.Permalink

/-!
Jobs with their builds.

The builds of a job stand newest first. This order, and that every build bears
the name of its job, are part of the type; so the latest build of some sort is
the first one found, and the latest before a given number the first one found
below it.
-/

namespace BuildPicker

/-- Puts a build in its place among builds listed newest first, or in the place of the one
with the same number. -/
def insertBuild (b : Build) : List Build → List Build
  | [] => [b]
  | a :: rest =>
    if a.number < b.number then b :: a :: rest
    else if a.number = b.number then b :: rest
    else a :: insertBuild b rest

theorem eq_or_mem_of_mem_insertBuild {a b : Build} {builds : List Build}
    (h : a ∈ insertBuild b builds) : a = b ∨ a ∈ builds := by
  induction builds with
  | nil => simpa [insertBuild] using h
  | cons first rest ih => grind [insertBuild]

theorem descending_insertBuild (b : Build) {builds : List Build}
    (h : builds.Pairwise (fun a b => b.number < a.number)) :
    (insertBuild b builds).Pairwise (fun a b => b.number < a.number) := by
  induction builds with
  | nil => simp [insertBuild]
  | cons first rest ih =>
    rw [List.pairwise_cons] at h
    unfold insertBuild
    split
    · next hlt =>
      refine List.Pairwise.cons (fun a ha => ?_) (List.Pairwise.cons h.1 h.2)
      rcases List.mem_cons.1 ha with rfl | ha
      · exact hlt
      · exact UInt32.lt_trans (h.1 a ha) hlt
    · split
      · next heq => exact List.Pairwise.cons (fun a ha => heq ▸ h.1 a ha) h.2
      · next hnlt hne =>
        refine List.Pairwise.cons (fun a ha => ?_) (ih h.2)
        rcases eq_or_mem_of_mem_insertBuild ha with rfl | ha
        · exact UInt32.lt_of_le_of_ne (UInt32.not_lt.1 hnlt) (fun e => hne e.symm)
        · exact h.1 a ha

structure Job where
  name : JobName
  /-- The job that this one is a configuration of; its builds count as builds of this job when
  triggers are followed. -/
  root : Option JobName
  builds : List Build
  permalinks : Table BuildNumber
  descending : builds.Pairwise (fun a b => b.number < a.number)
  owned : ∀ b ∈ builds, b.job = name
  deriving DecidableEq

namespace Job

/-- A job without builds. -/
def empty (name : JobName) (root : Option JobName) (permalinks : Table BuildNumber) : Job :=
  ⟨name, root, [], permalinks, .nil, by simp⟩

def build? (j : Job) (number : BuildNumber) : Option Build :=
  j.builds.find? fun b => b.number = number

/-- Adds a build under this job's name, and gives the one that had its number before. -/
def insert (j : Job) (b : Build) : Option Build × Job :=
  (j.build? b.number,
    { j with
      builds := insertBuild { b with job := j.name } j.builds
      descending := descending_insertBuild _ j.descending
      owned := fun a ha => by
        rcases eq_or_mem_of_mem_insertBuild ha with rfl | ha
        · rfl
        · exact j.owned a ha })

def withPermalink (j : Job) (name : String) (number : BuildNumber) : Job :=
  { j with permalinks := j.permalinks.insert name number }

def last? (j : Job) : Option Build :=
  j.builds.head?

/-- The latest build below a number. -/
def previous? (j : Job) (number : BuildNumber) : Option Build :=
  j.builds.find? fun b => b.number < number

/-- The latest build with a property. -/
def lastMatching? (j : Job) (p : Build → Bool) : Option Build :=
  j.builds.find? p

/-- The latest build with a property below a number. -/
def previousMatching? (j : Job) (number : BuildNumber) (p : Build → Bool) : Option Build :=
  j.builds.find? fun b => b.number < number && p b

/-- The build that an anchor stands for; the anchors that every job has come first. -/
def permalink? (j : Job) (id : String) : Option Build :=
  match Permalink.ofId? id with
  | some p => j.lastMatching? p.fits
  | none => (j.permalinks.get? id).bind j.build?

/-- Whether a build of the job `name` counts as a build of this one. -/
def answersTo (j : Job) (name : JobName) : Bool :=
  j.name = name || j.root = some name

@[simp] theorem builds_insert (j : Job) (b : Build) :
    (j.insert b).2.builds = insertBuild { b with job := j.name } j.builds := rfl

@[simp] theorem name_insert (j : Job) (b : Build) : (j.insert b).2.name = j.name := rfl

end Job

end BuildPicker
