import BuildPicker.History.Job

/-!
Histories, and the snapshots that they are loaded from.

A history finds jobs by name and builds by reference. A snapshot is a plain
listing of jobs and builds; it makes a history unless a job's name or, within a
job, a build's number comes twice.
-/

namespace BuildPicker

open BuildPicker.Text

/-- Jobs by their names. -/
structure History where
  jobs : Table Job
  named : ∀ e ∈ jobs.entries, e.2.name = e.1

namespace History

def empty : History := ⟨.empty, by simp [Table.empty]⟩

/-- The history with a job under its name, in place of any other of that name. -/
def insert (h : History) (j : Job) : History where
  jobs := h.jobs.insert j.name j
  named e he := by
    rcases Table.eq_or_mem_of_mem_insert he with rfl | he
    · rfl
    · exact h.named e he

def job? (h : History) (name : JobName) : Option Job :=
  h.jobs.get? name

def build? (h : History) (r : BuildRef) : Option Build :=
  (h.job? r.job).bind (·.build? r.number)

end History

structure JobSnapshot where
  name : JobName
  root : Option JobName
  permalinks : Table BuildNumber
  builds : List Build
  deriving DecidableEq

structure Snapshot where
  jobs : List JobSnapshot
  deriving DecidableEq

/-- What a snapshot defines twice. -/
inductive DuplicateError
  | job (name : JobName)
  | build (ref : BuildRef)
  deriving DecidableEq

def DuplicateError.message : DuplicateError → String
  | job name => "job '" ++ name ++ "' is defined more than once"
  | build r =>
    "build #" ++ digits r.number ++ " of job '" ++ r.job ++ "' is defined more than once"

namespace Job

/-- Adds builds in their listed order, each with a number of its own. -/
def addAll (j : Job) : List Build → Except DuplicateError Job
  | [] => .ok j
  | b :: rest =>
    match j.insert b with
    | (some _, _) => .error (.build ⟨j.name, b.number⟩)
    | (none, j') => j'.addAll rest

def ofSnapshot (s : JobSnapshot) : Except DuplicateError Job :=
  (Job.empty s.name s.root s.permalinks).addAll s.builds

end Job

namespace History

/-- Adds jobs in their listed order, each with a name of its own. -/
def addAll (h : History) : List JobSnapshot → Except DuplicateError History
  | [] => .ok h
  | s :: rest =>
    if h.jobs.contains s.name then .error (.job s.name)
    else match Job.ofSnapshot s with
      | .error e => .error e
      | .ok j => (h.insert j).addAll rest

def ofSnapshot (s : Snapshot) : Except DuplicateError History :=
  empty.addAll s.jobs

end History

end BuildPicker
