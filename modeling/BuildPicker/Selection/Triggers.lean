import BuildPicker.History.Snapshot
import BuildPicker.Settings
import BuildPicker.Selection.Log

/-!
The builds of a job that triggered another build, directly or through builds of
other jobs.

The search goes from a build to its parents, the last one first, and visits no
build twice. A build of the wanted job is taken down and not followed further.
Each build of the history is left at most once, so the number of all parents
bounds the number of rounds.
-/

namespace BuildPicker

open BuildPicker.Text

/-- The builds that triggered a build and, with `dependencies`, those that went into it. -/
def Build.parents (b : Build) (dependencies : Bool) : List BuildRef :=
  b.triggers ++ if dependencies then b.dependencyRefs else []

/-- Enough rounds for a search: one for its start and one for each parent in the history. -/
def History.searchRounds (h : History) (dependencies : Bool) : Nat :=
  1 + (h.jobs.entries.flatMap fun e => e.2.builds.flatMap (·.parents dependencies)).length

/-- The parents of a build that count as builds of the job. -/
def Job.own (j : Job) (parents : List BuildRef) : List BuildNumber :=
  (parents.filter fun p => j.answersTo p.job).map BuildRef.number

/-- The parents of a build that are to be followed. -/
def Job.onward (j : Job) (visited parents : List BuildRef) : List BuildRef :=
  parents.filter fun p => !j.answersTo p.job && !visited.contains p

/-- The numbers under which builds of the job are met, from the builds that are pending. -/
def History.search (h : History) (j : Job) (dependencies : Bool) :
    (rounds : Nat) → (pending visited : List BuildRef) → Logged (List BuildNumber)
  | 0, _, _ => return []
  | _ + 1, [], _ => return []
  | rounds + 1, r :: pending, visited =>
    if visited.contains r then h.search j dependencies rounds pending visited
    else match h.build? r with
      | none => do
        detail (r.text ++ " is not in the build history")
        h.search j dependencies rounds pending (r :: visited)
      | some b => do
        let parents := b.parents dependencies
        let onward := j.onward (r :: visited) parents
        let rest ← h.search j dependencies rounds (onward.reverse ++ pending) (r :: visited)
        return j.own parents ++ rest

/-- The numbers of the job's builds that triggered `origin`, in the given order. -/
def History.triggering (h : History) (j : Job) (dependencies : Bool) (order : TriggerOrder)
    (origin : BuildRef) : Logged (List BuildNumber) := do
  let met ← h.search j dependencies (h.searchRounds dependencies) [origin] []
  let numbers := (j.builds.map Build.number).filter met.contains
  let ordered := match order with
    | .newestFirst => numbers
    | .oldestFirst => numbers.reverse
  detail (numeralText ordered.length ++ " upstream build(s) of " ++ j.name ++ " triggered " ++
    origin.text)
  return ordered

end BuildPicker
