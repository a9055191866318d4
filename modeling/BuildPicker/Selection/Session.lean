import BuildPicker.Selection.Request

/-!
Sessions: contexts that are forked from one another.

All contexts of a session write to one console. The records that a fork does not
copy belong to several contexts at once, so their values are kept here, and a
change made through one context is seen through the others. A client gets a
handle for each record it adds; handles are numbered through the whole session.
-/

namespace BuildPicker

structure Session where
  contexts : List Context
  cells : List Int
  handles : Nat
  console : List String

namespace Session

def start (ctx : Context) : Session := ⟨[ctx], [], 0, []⟩

/-- The session with another context in the place of the `i`-th, in which the lines of a
computation are written as that context shows them. -/
def put (s : Session) (i : Nat) (ctx : Context) (log : Log) : Session :=
  { s with contexts := s.contexts.set i ctx, console := s.console ++ log.shown ctx.verbose }

/-- Adds a fork of a context as the last one. -/
def fork (s : Session) (ctx : Context) : Session :=
  { s with contexts := s.contexts ++ [ctx.fork] }

/-! ### Picking builds -/

/-- Asks for a candidate; `keep` leaves the last match as it is. -/
def next (s : Session) (i : Nat) (ctx : Context) (selector : Selector) (job : Job)
    (keep : Bool) : Except SelectionError (Option Build) × Session :=
  let ⟨offer, log⟩ := selector.next job ctx
  let lastMatch := match offer.result with
    | .error _ => ctx.lastMatch
    | .ok b? => if keep then ctx.lastMatch else b?
  (offer.result, s.put i { ctx with attachments := offer.attachments, lastMatch } log)

def select (s : Session) (i : Nat) (ctx : Context) (selector : Selector) (job : Job) :
    Except SelectionError (Option Build) × Session :=
  let ⟨choice, log⟩ := selector.select job ctx
  (choice.result, s.put i choice.context log)

def execute (s : Session) (i : Nat) (ctx : Context) (request : Request) :
    Except SelectionError Build × Session :=
  let ⟨response, log⟩ := request.execute ctx
  (response.result, s.put i response.context log)

/-- Whether a filter accepts a build, in the context and at its level. -/
def accepts (s : Session) (i : Nat) (ctx : Context) (filter : Filter) (b : Build) :
    Bool × Session :=
  let ⟨accepted, log⟩ := { ctx with filter := filter }.judge b
  (accepted, s.put i ctx log)

/-! ### Records -/

/-- The value of a record: what it holds, or for a queue how much is left in it. -/
def valueOf (s : Session) : Record → Int
  | .queue q => q.pending.length
  | .copied value => value
  | .shared _ cell => (s.cells[cell]?).getD 0

/-- A new record of a client, with the session that holds its value. Queues are not for clients. -/
def newRecord (s : Session) (kind : RecordKind) (value : Int) : Record × Session :=
  match kind with
  | .shared sharing => (.shared sharing s.cells.length, { s with cells := s.cells ++ [value] })
  | _ => (.copied value, s)

/-- Attaches a new record and gives its handle. -/
def add (s : Session) (i : Nat) (ctx : Context) (kind : RecordKind) (value : Int) :
    Nat × Session :=
  let (record, s) := s.newRecord kind value
  let attachments := ctx.attachments ++ [⟨some s.handles, record⟩]
  (s.handles, { s.put i { ctx with attachments } [] with handles := s.handles + 1 })

/-- Attaches a new record in the place of all others of its kind, and tells if there were any. -/
def replace (s : Session) (i : Nat) (ctx : Context) (kind : RecordKind) (value : Int) :
    Bool × Session :=
  let (record, s) := s.newRecord kind value
  let others := ctx.attachments.filter fun a => a.record.kind ≠ kind
  (others.length ≠ ctx.attachments.length,
    s.put i { ctx with attachments := others ++ [⟨none, record⟩] } [])

/-- Detaches the first record with a property, and tells if there was one. -/
def detach (s : Session) (i : Nat) (ctx : Context) (p : Attachment → Bool) : Bool × Session :=
  (ctx.attachments.any p, s.put i { ctx with attachments := ctx.attachments.eraseP p } [])

/-- Detaches the record of a handle. -/
def remove (s : Session) (i : Nat) (ctx : Context) (handle : Nat) : Bool × Session :=
  s.detach i ctx fun a => a.handle = some handle

/-- The attachments with another value in the first copied record. -/
def setCopied (value : Int) : List Attachment → List Attachment
  | [] => []
  | a :: rest =>
    if a.record.kind = .copied then { a with record := .copied value } :: rest
    else a :: setCopied value rest

/-- Gives another value to the first record of a kind, and tells its value until then. -/
def setFirst (s : Session) (i : Nat) (ctx : Context) (kind : RecordKind) (value : Int) :
    Option Int × Session :=
  match ctx.attachments.find? fun a => a.record.kind = kind with
  | none => (none, s)
  | some a =>
    match a.record with
    | .queue _ => (none, s)
    | .copied _ =>
      (some (s.valueOf a.record),
        s.put i { ctx with attachments := setCopied value ctx.attachments } [])
    | .shared _ cell =>
      (some (s.valueOf a.record), { s with cells := s.cells.set cell value })

end Session

end BuildPicker
