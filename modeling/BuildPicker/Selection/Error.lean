import BuildPicker.Codec.Error
import BuildPicker.History.BuildRef

/-!
Why a request selects no build.
-/

namespace BuildPicker

inductive SelectionError
  /-- The expanded template of a build number is no integer. -/
  | notANumber (value : String)
  | missingJobName
  | jobNotFound (job : JobName)
  /-- Named by the labels of the selector and of the filter. -/
  | noBuildFound (job : JobName) (selector filter : String)
  | undecodable (cause : DecodeError)
  deriving DecidableEq

namespace SelectionError

/-- A fixed name for the sort of error. -/
def code : SelectionError → String
  | notANumber _ => "NOT_A_NUMBER"
  | missingJobName => "MISSING_JOB_NAME"
  | jobNotFound _ => "JOB_NOT_FOUND"
  | noBuildFound _ _ _ => "NO_BUILD_FOUND"
  | undecodable _ => "DECODE_ERROR"

def message : SelectionError → String
  | notANumber value => "'" ++ value ++ "' is not a valid build number"
  | missingJobName => "job name is not specified"
  | jobNotFound job => "project not found: " ++ job
  | noBuildFound job selector filter =>
    "no build found in '" ++ job ++ "' matching selector " ++ selector ++ " and filter " ++ filter
  | undecodable cause => cause.message

/-- Whether the same request may succeed later, when more builds are there. -/
def isRetryable : SelectionError → Bool
  | noBuildFound _ _ _ => true
  | _ => false

end SelectionError

end BuildPicker
