import BuildPicker.History.Build

/-!
The anchors that every job has: each names the latest build of some sort.
-/

namespace BuildPicker

inductive Permalink
  | lastBuild
  | lastStable
  | lastSuccessful
  | lastFailed
  | lastUnstable
  | lastUnsuccessful
  | lastCompleted
  deriving DecidableEq

namespace Permalink

def all : List Permalink :=
  [lastBuild, lastStable, lastSuccessful, lastFailed, lastUnstable, lastUnsuccessful,
    lastCompleted]

def id : Permalink → String
  | lastBuild => "lastBuild"
  | lastStable => "lastStableBuild"
  | lastSuccessful => "lastSuccessfulBuild"
  | lastFailed => "lastFailedBuild"
  | lastUnstable => "lastUnstableBuild"
  | lastUnsuccessful => "lastUnsuccessfulBuild"
  | lastCompleted => "lastCompletedBuild"

def ofId? (s : String) : Option Permalink :=
  all.find? fun p => p.id = s

/-- Whether a build is of the sort that the anchor looks for. -/
def fits (p : Permalink) (b : Build) : Bool :=
  match p with
  | lastBuild => true
  | lastStable => b.outcome = some .success
  | lastSuccessful => b.outcome.any (·.isAtLeast .unstable)
  | lastFailed => b.outcome = some .failure
  | lastUnstable => b.outcome = some .unstable
  | lastUnsuccessful => b.isComplete && b.outcome ≠ some .success
  | lastCompleted => b.isComplete

end Permalink

end BuildPicker
