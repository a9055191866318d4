import BuildPicker.Filter
import BuildPicker.Settings
import BuildPicker.History.Permalink

/-!
Selectors: which builds of a job are looked at, and in which order.
-/

namespace BuildPicker

open BuildPicker.Text

/-- The sort of builds that a status selector goes through. -/
inductive Status
  | stable
  | successful
  | unstable
  | failed
  | completed
  | any
  deriving DecidableEq

namespace Status

def all : List Status := [stable, successful, unstable, failed, completed, any]

def name : Status → String
  | stable => "stable"
  | successful => "successful"
  | unstable => "unstable"
  | failed => "failed"
  | completed => "completed"
  | any => "any"

def label : Status → String
  | stable => "Stable"
  | successful => "Stable or Unstable"
  | unstable => "Unstable"
  | failed => "Failed"
  | completed => "Completed"
  | any => "Any"

def lowerCase (s : String) : List Char :=
  s.toList.map Char.toLower

/-- The status of a name, in which ASCII letters may have either case. -/
def ofName? (s : String) : Option Status :=
  all.find? fun status => lowerCase status.name = lowerCase s

/-- The anchor that looks for the same sort of builds. -/
def permalink : Status → Permalink
  | stable => .lastStable
  | successful => .lastSuccessful
  | unstable => .lastUnstable
  | failed => .lastFailed
  | completed => .lastCompleted
  | any => .lastBuild

def fits (status : Status) (b : Build) : Bool :=
  status.permalink.fits b

end Status

/-- How a selector orders triggering builds. -/
inductive Strategy
  | globalSetting
  | oldest
  | newest
  deriving DecidableEq

namespace Strategy

def all : List Strategy := [globalSetting, oldest, newest]

def name : Strategy → String
  | globalSetting => "use-global-setting"
  | oldest => "use-oldest"
  | newest => "use-newest"

def ofName? (s : String) : Option Strategy :=
  all.find? fun strategy => strategy.name = s

def order (strategy : Strategy) (settings : Settings) : TriggerOrder :=
  match strategy with
  | globalSetting => settings.triggerOrder
  | oldest => .oldestFirst
  | newest => .newestFirst

end Strategy

inductive Selector
  | buildNumber (template : String)
  | displayName (template : String)
  | permalink (template : String)
  /-- The latest build of a status, then the ones before it. -/
  | status (status : Status)
  /-- The builds that triggered the build which the selection is made for, also through builds
  of other jobs and, with `dependencies`, through the builds that went into them. -/
  | triggering (dependencies : Bool) (strategy : Strategy)
  /-- The build that the first successful entry selects. -/
  | fallback (entries : List (Selector × Filter))
  /-- A selector that is given by an expression or by the name of a variable holding one. -/
  | parameterized (parameter : String)

namespace Selector

def ofBuildNumber (template : String) : Selector :=
  buildNumber (trim template)

def ofDisplayName (template : String) : Selector :=
  displayName (trim template)

def ofPermalink (template : String) : Selector :=
  permalink (trim template)

/-- What is selected when a request names no selector. -/
def default : Selector := status .stable

/-- The name of the selector in messages. -/
def label : Selector → String
  | buildNumber _ => "Specific build number"
  | displayName _ => "Specific display name"
  | permalink _ => "Permalink"
  | status s => "Latest build by status (" ++ s.label ++ ")"
  | triggering _ _ => "Upstream build that triggered this job"
  | fallback _ => "Fallback"
  | parameterized _ => "Specified by a build parameter"

/-! ### Equality -/

mutual

def decEq : (s t : Selector) → Decidable (s = t)
  | buildNumber a, t => match t with
    | buildNumber b => decidable_of_iff (a = b) (by simp)
    | displayName _ | permalink _ | status _ | triggering _ _ | fallback _ | parameterized _ =>
      isFalse (by simp)
  | displayName a, t => match t with
    | displayName b => decidable_of_iff (a = b) (by simp)
    | buildNumber _ | permalink _ | status _ | triggering _ _ | fallback _ | parameterized _ =>
      isFalse (by simp)
  | permalink a, t => match t with
    | permalink b => decidable_of_iff (a = b) (by simp)
    | buildNumber _ | displayName _ | status _ | triggering _ _ | fallback _
    | parameterized _ => isFalse (by simp)
  | status a, t => match t with
    | status b => decidable_of_iff (a = b) (by simp)
    | buildNumber _ | displayName _ | permalink _ | triggering _ _ | fallback _
    | parameterized _ => isFalse (by simp)
  | triggering a x, t => match t with
    | triggering b y => decidable_of_iff (a = b ∧ x = y) (by simp)
    | buildNumber _ | displayName _ | permalink _ | status _ | fallback _ | parameterized _ =>
      isFalse (by simp)
  | fallback as, t => match t with
    | fallback bs => @decidable_of_iff _ (as = bs) (by simp) (decEqEntries as bs)
    | buildNumber _ | displayName _ | permalink _ | status _ | triggering _ _
    | parameterized _ => isFalse (by simp)
  | parameterized a, t => match t with
    | parameterized b => decidable_of_iff (a = b) (by simp)
    | buildNumber _ | displayName _ | permalink _ | status _ | triggering _ _ | fallback _ =>
      isFalse (by simp)

def decEqEntries : (as bs : List (Selector × Filter)) → Decidable (as = bs)
  | [], [] => isTrue rfl
  | [], _ :: _ | _ :: _, [] => isFalse (by simp)
  | (s, f) :: as, (t, g) :: bs =>
    @decidable_of_iff _ ((s = t ∧ f = g) ∧ as = bs) (by simp)
      (@instDecidableAnd _ _ (@instDecidableAnd _ _ (decEq s t) _) (decEqEntries as bs))

end

instance : DecidableEq Selector := decEq

end Selector

end BuildPicker
