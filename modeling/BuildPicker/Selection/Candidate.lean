import BuildPicker.Codec.Selector
import BuildPicker.Selection.Pick
import BuildPicker.Selection.Triggers

/-!
The candidates of a selector, one at a time.

A selector has no state of its own: what it offers next follows from the last
candidate on the context, or from a queue that it has attached there. Only a
build number that is no integer is an error; all else that is missing means that
no candidate is offered.
-/

namespace BuildPicker

open BuildPicker.Text

namespace Selector

/-- What `lookup` finds under the expanded template, if no candidate came before. -/
def nextSingle (template : String) (lookup : String → Except SelectionError (Option Build))
    (job : Job) (ctx : Context) : Logged (Except SelectionError (Option Build)) := do
  if ctx.lastMatch.isSome then return .ok none
  else
    let key := ctx.vars.expand template
    if isUnresolved key then
      detailUnresolved key
      return .ok none
    else match lookup key with
      | .ok none =>
        detail ("No such build " ++ key ++ " in " ++ job.name)
        return .ok none
      | found => return found

/-- The build of a number. Integers that are no build numbers are looked up without success. -/
def byNumber (job : Job) (key : String) : Except SelectionError (Option Build) :=
  match (signed? (trim key).toList).bind int64? with
  | none => .error (.notANumber key)
  | some i => .ok ((uint32? i.toInt).bind job.build?)

/-- The latest build of a display name. -/
def byDisplayName (job : Job) (key : String) : Except SelectionError (Option Build) :=
  .ok (job.lastMatching? fun b => b.displayName = key)

def byPermalink (job : Job) (key : String) : Except SelectionError (Option Build) :=
  .ok (job.permalink? key)

def nextByStatus (status : Status) (job : Job) (ctx : Context) : Option Build :=
  match ctx.lastMatch with
  | none => job.lastMatching? status.fits
  | some last => job.previousMatching? last.number status.fits

/-- Whether the context is in the middle of a queue for the job. -/
def isResuming (job : Job) (ctx : Context) : Bool :=
  ctx.lastMatch.isSome && (firstQueue? ctx.attachments).any (·.job = job.name)

/-- Takes the first build off the first queue; an empty queue is detached. -/
def popQueue (job : Job) (attachments : List Attachment) : Offer :=
  match firstQueue? attachments with
  | some ⟨name, number :: pending⟩ =>
    ⟨.ok (job.build? number), setQueue ⟨name, pending⟩ attachments⟩
  | _ => ⟨.ok none, dropQueue attachments⟩

def nextTriggering (dependencies : Bool) (strategy : Strategy) (job : Job) (ctx : Context) :
    Logged Offer := do
  if isResuming job ctx then return popQueue job ctx.attachments
  else match ctx.origin with
    | none =>
      notice "No originating build, cannot follow upstream causes"
      return ⟨.ok none, ctx.attachments⟩
    | some origin =>
      let order := strategy.order ctx.settings
      let pending ← ctx.history.triggering job dependencies order origin
      return popQueue job (replaceQueue ⟨job.name, pending⟩ ctx.attachments)

/-- The expression that a parameter gives: in itself, or as the name of a variable. -/
def expression? (vars : Variables) (parameter : String) : Logged (Option String) := do
  if isBlankText parameter then
    notice "Parameter name is not specified"
    return none
  else
    let expanded := trim (vars.expand parameter)
    if expanded.toList.head? = some '(' then
      detail (parameter ++ " is considered a selector expression")
      return some expanded
    else if isUnresolved expanded then
      detailUnresolved expanded
      return none
    else if expanded.isEmpty then return none
    else
      detail (expanded ++ " is considered a variable name")
      match vars.get? expanded with
      | some value => return some value
      | none =>
        notice ("Variable " ++ expanded ++ " is not defined")
        return none

/-- The selector that a parameter gives. -/
def resolve (vars : Variables) (parameter : String) : Logged (Option Selector) := do
  match ← expression? vars parameter with
  | none => return none
  | some expression =>
    match decode expression with
    | .ok s => return some s
    | .error e =>
      report ("Failed to resolve selector: " ++ expression) e.message []
      return none

mutual

/-- The next candidate; `nested` goes on with the selectors that are read from parameters. -/
def nextWith (nested : Selector → Context → Logged Offer) (job : Job) :
    Selector → Context → Logged Offer
  | buildNumber template, ctx => do
    return ⟨← nextSingle template (byNumber job) job ctx, ctx.attachments⟩
  | displayName template, ctx => do
    return ⟨← nextSingle template (byDisplayName job) job ctx, ctx.attachments⟩
  | permalink template, ctx => do
    return ⟨← nextSingle template (byPermalink job) job ctx, ctx.attachments⟩
  | status s, ctx => return ⟨.ok (nextByStatus s job ctx), ctx.attachments⟩
  | triggering dependencies strategy, ctx => nextTriggering dependencies strategy job ctx
  | fallback entries, ctx => do
    if ctx.lastMatch.isSome then return ⟨.ok none, ctx.attachments⟩
    else return ⟨← firstChoice nested job ctx entries, ctx.attachments⟩
  | parameterized parameter, ctx => do
    match ← resolve ctx.vars parameter with
    | none =>
      notice "No selector was resolved."
      return ⟨.ok none, ctx.attachments⟩
    | some s => nested s ctx

/-- What the first entry that selects a build selects, each tried on a fork of the context. -/
def firstChoice (nested : Selector → Context → Logged Offer) (job : Job) (ctx : Context) :
    List (Selector × Filter) → Logged (Except SelectionError (Option Build))
  | [] => return .ok none
  | (s, f) :: rest => do
    detail ("Try " ++ s.label)
    let attempt := { ctx.fork with filter := ctx.filter.narrowedBy f }
    let choice ← pickFrom (fun ctx => nextWith nested job s ctx) s.label job attempt
    match choice.result with
    | .ok none => firstChoice nested job ctx rest
    | found => return found

end

/-- The next candidate where `levels` parameters may still be followed. -/
def nextAt (job : Job) : (levels : Nat) → Selector → Context → Logged Offer
  | 0 => nextWith (fun _ ctx => do noticeTooManyLevels; return ⟨.ok none, ctx.attachments⟩) job
  | levels + 1 => nextWith (fun s ctx => nextAt job levels s { ctx with levels := levels }) job

/-- The next candidate of the selector among the builds of a job. -/
def next (s : Selector) (job : Job) (ctx : Context) : Logged Offer :=
  nextAt job ctx.levels s ctx

/-- The first candidate of the selector that the filter in force accepts. -/
def select (s : Selector) (job : Job) (ctx : Context) : Logged Choice :=
  pickFrom (s.next job) s.label job ctx

end Selector

end BuildPicker
