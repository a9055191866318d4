import BuildPicker.Filter
import BuildPicker.Settings
import BuildPicker.Template
import BuildPicker.History.Snapshot

/-!
The context of a selection.

A context holds what a selection reads, the filter in force, and where the
enumeration of candidates stands: the last candidate, and the records that
selectors and clients attach. A fork is an independent context for a nested
selection. It copies the records that can be copied; the others belong to both
contexts from then on.
-/

namespace BuildPicker

/-- How deep parameters may lead from one selector or filter to another. -/
def maxLevels : Nat := 16

/-- The builds of a job that are still to be offered because they triggered another build. -/
structure TriggerQueue where
  job : JobName
  pending : List BuildNumber
  deriving DecidableEq

/-- How a record of a client that cannot be copied behaves in a fork: it does not offer a copy,
or it fails to make one. Either way it is shared. -/
inductive Sharing
  | uncopied
  | uncopyable
  deriving DecidableEq

/-- What is attached to a context. The value of a shared record is kept outside the contexts,
in the cell with the number given here. -/
inductive Record
  | queue (q : TriggerQueue)
  | copied (value : Int)
  | shared (sharing : Sharing) (cell : Nat)
  deriving DecidableEq

inductive RecordKind
  | queue
  | copied
  | shared (sharing : Sharing)
  deriving DecidableEq

namespace Record

def kind : Record → RecordKind
  | queue _ => .queue
  | copied _ => .copied
  | shared sharing _ => .shared sharing

def queue? : Record → Option TriggerQueue
  | queue q => some q
  | _ => none

def isQueue (r : Record) : Bool :=
  r.kind = .queue

end Record

/-- A record on a context. The handle tells it from all others, if a client was given one. -/
structure Attachment where
  handle : Option Nat
  record : Record
  deriving DecidableEq

/-- The attachment in a fork: a copy is another record, which nobody holds a handle of. -/
def Attachment.forked (a : Attachment) : Attachment :=
  match a.record with
  | .shared _ _ => a
  | record => ⟨none, record⟩

structure Context where
  history : History
  /-- The build that the selection is made for. -/
  origin : Option BuildRef
  vars : Variables
  settings : Settings
  verbose : Bool
  filter : Filter
  /-- The last candidate that a selector offered. -/
  lastMatch : Option Build
  attachments : List Attachment
  /-- How many parameters may still lead on from here. -/
  levels : Nat

/-- The first queue among attachments. -/
def firstQueue? (attachments : List Attachment) : Option TriggerQueue :=
  attachments.findSome? fun a => a.record.queue?

namespace Context

/-- A context with no selection behind it. -/
def fresh (history : History) : Context where
  history := history
  origin := none
  vars := .empty
  settings := .default
  verbose := false
  filter := .acceptAll
  lastMatch := none
  attachments := []
  levels := maxLevels

def fork (ctx : Context) : Context :=
  { ctx with attachments := ctx.attachments.map Attachment.forked }

end Context

/-- The attachments with a queue behind all others, and no other queue. -/
def replaceQueue (q : TriggerQueue) (attachments : List Attachment) : List Attachment :=
  attachments.filter (fun a => !a.record.isQueue) ++ [⟨none, .queue q⟩]

/-- The attachments with another queue in the record of the first one. -/
def setQueue (q : TriggerQueue) : List Attachment → List Attachment
  | [] => []
  | a :: rest =>
    if a.record.isQueue then { a with record := .queue q } :: rest else a :: setQueue q rest

/-- The attachments without the first queue. -/
def dropQueue (attachments : List Attachment) : List Attachment :=
  attachments.eraseP fun a => a.record.isQueue

end BuildPicker
