import BuildPicker.Selection.Error
import BuildPicker.Selection.Verdict

/-!
Picking a build: candidates are asked for one after the other, up to the first
that the filter in force accepts.

The last candidate is kept on the context, from which the next one is found.
-/

namespace BuildPicker

/-- What a selector answers when it is asked for a candidate, with the records that the
context goes on with. -/
structure Offer where
  result : Except SelectionError (Option Build)
  attachments : List Attachment

/-- What a selection ends in, with the context that it leaves. -/
structure Choice where
  result : Except SelectionError (Option Build)
  context : Context

/-- Asks for candidates until one is accepted, or none is left, at most `rounds` times.
`label` names the selector in messages. -/
def pick (next : Context → Logged Offer) (label : String) : (rounds : Nat) → Context → Logged Choice
  | 0, ctx => return ⟨.ok none, ctx⟩
  | rounds + 1, ctx => do
    let offer ← next ctx
    let ctx := { ctx with attachments := offer.attachments }
    match offer.result with
    | .error e => return ⟨.error e, ctx⟩
    | .ok none =>
      detail (label ++ ": No more matching builds.")
      return ⟨.ok none, { ctx with lastMatch := none }⟩
    | .ok (some b) =>
      let ctx := { ctx with lastMatch := some b }
      detail (label ++ ": " ++ b.fullName ++ " found")
      if ← ctx.judge b then
        detail (b.fullName ++ ": satisfied conditions.")
        return ⟨.ok (some b), ctx⟩
      else
        detail (b.fullName ++ ": declined by the filter " ++ ctx.filter.label)
        pick next label rounds ctx

/-- A whole selection among the builds of a job. No build of the job is offered twice, so there
is one round for each of them and one in which nothing is offered. -/
def pickFrom (next : Context → Logged Offer) (label : String) (job : Job) (ctx : Context) :
    Logged Choice :=
  pick next label (job.builds.length + 1) { ctx with lastMatch := none }

end BuildPicker
