import BuildPicker.Table
import BuildPicker.History.BuildRef

/-!
Builds: what is recorded of one run of a job.

A build that has no outcome is still running. Two kinds of link lead to builds of
other jobs: a cause says which build triggered this one, and the dependencies say
which builds went into it.
-/

namespace BuildPicker

open BuildPicker.Text

/-- How a build ended. -/
inductive Outcome
  | aborted
  | failure
  | unstable
  | success
  deriving DecidableEq

namespace Outcome

/-- From the worst to the best. -/
def rank : Outcome → Nat
  | aborted => 0
  | failure => 1
  | unstable => 2
  | success => 3

def order (a b : Outcome) : Ordering :=
  compare a.rank b.rank

def isAtLeast (a b : Outcome) : Bool :=
  b.rank ≤ a.rank

def name : Outcome → String
  | aborted => "aborted"
  | failure => "failure"
  | unstable => "unstable"
  | success => "success"

def label : Outcome → String
  | aborted => "ABORTED"
  | failure => "FAILURE"
  | unstable => "UNSTABLE"
  | success => "SUCCESS"

def all : List Outcome := [aborted, failure, unstable, success]

def ofName? (s : String) : Option Outcome :=
  all.find? fun o => o.name = s

end Outcome

/-- Why a build was started. -/
inductive Cause
  | triggered (source : BuildRef)
  | user (id : Option String)
  | timer
  | other (description : String)
  deriving DecidableEq

/-- The build that triggered, if one did. -/
def Cause.trigger? : Cause → Option BuildRef
  | triggered r => some r
  | _ => none

structure Build where
  job : JobName
  number : BuildNumber
  /-- A name given to the build, shown in place of its number. -/
  givenName : Option String
  outcome : Option Outcome
  causes : List Cause
  /-- For jobs whose builds went into this one, which build it was. -/
  dependencies : Table BuildNumber
  deriving DecidableEq

namespace Build

def ref (b : Build) : BuildRef :=
  ⟨b.job, b.number⟩

def displayName (b : Build) : String :=
  b.givenName.getD ("#" ++ digits b.number)

def fullName (b : Build) : String :=
  b.job ++ " " ++ b.displayName

def isComplete (b : Build) : Bool :=
  b.outcome.isSome

/-- The builds that triggered this one. -/
def triggers (b : Build) : List BuildRef :=
  b.causes.filterMap Cause.trigger?

def dependencyRefs (b : Build) : List BuildRef :=
  b.dependencies.entries.map fun (job, number) => ⟨job, number⟩

end Build

end BuildPicker
