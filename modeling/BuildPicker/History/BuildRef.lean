import BuildPicker.Text.Blank
import BuildPicker.Text.Numeral

/-!
References to builds: a job's name and a number, written `job#number`.

A job's name may itself hold the separator, so the last one counts.
-/

namespace BuildPicker

open BuildPicker.Text

abbrev JobName := String

abbrev BuildNumber := UInt32

/-- The identity of a build. -/
structure BuildRef where
  job : JobName
  number : BuildNumber
  deriving DecidableEq

namespace BuildRef

def text (r : BuildRef) : String :=
  r.job ++ "#" ++ digits r.number

/-- By job name, then by number. -/
def order (a b : BuildRef) : Ordering :=
  (compare a.job b.job).then (compare a.number b.number)

/-- Why a text is not a reference. -/
inductive ParseError
  | missingSeparator (text : String)
  | invalidNumber (number : String)
  | emptyJob
  deriving DecidableEq

namespace ParseError

def code : ParseError → String
  | missingSeparator _ => "MISSING_SEPARATOR"
  | invalidNumber _ => "INVALID_NUMBER"
  | emptyJob => "EMPTY_JOB"

def message : ParseError → String
  | missingSeparator text => "expected <job>#<number>, got '" ++ text ++ "'"
  | invalidNumber number => "invalid build number '" ++ number ++ "'"
  | emptyJob => "job name is empty"

end ParseError

/-- What stands before and behind the last `separator` of a text. -/
def splitLast? (separator : Char) : List Char → Option (List Char × List Char)
  | [] => none
  | c :: cs =>
    match splitLast? separator cs with
    | some (before, behind) => some (c :: before, behind)
    | none => if c = separator then some ([], cs) else none

/-- A number of 32 bits, after an optional plus sign. -/
def number? (s : String) : Option BuildNumber :=
  (unsigned? s.toList).bind fun n => uint32? n

/-- White space around both parts is dropped; the job is looked at before the number. -/
def parse (s : String) : Except ParseError BuildRef :=
  match splitLast? '#' s.toList with
  | none => .error (.missingSeparator s)
  | some (before, behind) =>
    let job := trim (String.ofList before)
    if job.isEmpty then .error .emptyJob
    else match number? (trim (String.ofList behind)) with
      | none => .error (.invalidNumber (String.ofList behind))
      | some number => .ok ⟨job, number⟩

end BuildRef

end BuildPicker
