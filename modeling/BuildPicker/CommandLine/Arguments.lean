import BuildPicker.Template
import BuildPicker.Text.Blank
import BuildPicker.History.BuildRef

/-!
The arguments of the command line.

An option is given as `--name value`, `--name=value` or, if it has a letter, as
`-l value`, `-lvalue` or `-l=value`; letters of options without a value may stand
together. A value on its own is taken up when the next known option or the end
comes, so an option that is not known is reported before a bad value in front of
it. Only bindings may be given more than once.
-/

namespace BuildPicker.CommandLine

open BuildPicker.Text

/-- What the command line can be given. -/
inductive Flag
  | history
  | job
  | selector
  | filter
  | origin
  | binding
  | config
  | verbose
  | help
  deriving DecidableEq

namespace Flag

def all : List Flag :=
  [history, job, selector, filter, origin, binding, config, verbose, help]

def name : Flag → String
  | history => "history"
  | job => "job"
  | selector => "selector"
  | filter => "filter"
  | origin => "origin"
  | binding => "var"
  | config => "config"
  | verbose => "verbose"
  | help => "help"

def letter? : Flag → Option Char
  | job => some 'j'
  | selector => some 's'
  | filter => some 'f'
  | verbose => some 'v'
  | help => some 'h'
  | _ => none

def takesValue : Flag → Bool
  | verbose | help => false
  | _ => true

def ofName? (s : String) : Option Flag :=
  all.find? fun flag => flag.name = s

def ofLetter? (c : Char) : Option Flag :=
  all.find? fun flag => flag.letter? = some c

end Flag

/-- Why the arguments cannot be used. -/
inductive UsageError
  | unexpected (argument : String)
  | unneededValue (flag : Flag)
  | missingValue (flag : Flag)
  | emptyValue (flag : Flag)
  | repeated (flag : Flag)
  | missing (flag : Flag)
  | invalidBinding (raw : String)
  | invalidOrigin (cause : BuildRef.ParseError)
  deriving DecidableEq

namespace UsageError

/-- What is wrong with a value that has a form of its own. -/
def valueMessage? : UsageError → Option String
  | invalidBinding raw => some ("expected NAME=VALUE, got '" ++ raw ++ "'")
  | invalidOrigin cause => some cause.message
  | _ => none

def message : UsageError → String
  | unexpected argument => "unexpected argument '" ++ argument ++ "' found"
  | unneededValue flag => "the argument '--" ++ flag.name ++ "' takes no value"
  | missingValue flag | emptyValue flag => "a value is required for '--" ++ flag.name ++ "'"
  | repeated flag => "the argument '--" ++ flag.name ++ "' cannot be used multiple times"
  | missing flag => "the argument '--" ++ flag.name ++ "' was not provided"
  | invalidBinding raw => (invalidBinding raw).valueMessage?.get rfl
  | invalidOrigin cause => (invalidOrigin cause).valueMessage?.get rfl

end UsageError

/-- What was given so far. -/
structure Given where
  texts : List (Flag × String)
  origin : Option BuildRef
  bindings : List (String × String)
  verbose : Bool

namespace Given

def nothing : Given := ⟨[], none, [], false⟩

def text? (g : Given) (flag : Flag) : Option String :=
  g.texts.lookup flag

/-- A name, which white space around it does not belong to, and a value. -/
def parseBinding (raw : String) : Except UsageError (String × String) :=
  let cs := raw.toList
  let name := trim (String.ofList (cs.takeWhile (· != '=')))
  match cs.dropWhile (· != '=') with
  | _ :: value =>
    if name.isEmpty then .error (.invalidBinding raw) else .ok (name, String.ofList value)
  | [] => .error (.invalidBinding raw)

/-- Takes up an option with its value. -/
def add (g : Given) (flag : Flag) (value : String) : Except UsageError Given :=
  match flag with
  | .binding =>
    match parseBinding value with
    | .ok binding => .ok { g with bindings := g.bindings ++ [binding] }
    | .error e => .error e
  | .origin =>
    if g.origin.isSome then .error (.repeated flag)
    else match BuildRef.parse value with
      | .ok r => .ok { g with origin := some r }
      | .error e => .error (.invalidOrigin e)
  | _ =>
    if (g.text? flag).isSome then .error (.repeated flag)
    else if (flag = .history || flag = .config) && value.isEmpty then .error (.emptyValue flag)
    else .ok { g with texts := g.texts ++ [(flag, value)] }

def addVerbose (g : Given) : Except UsageError Given :=
  if g.verbose then .error (.repeated .verbose) else .ok { g with verbose := true }

end Given

/-- An option that waits for its value, or whose value waits to be taken up. -/
abbrev Waiting := Option (Flag × Option String)

/-- Takes up what waits. -/
def Given.settle (g : Given) : Waiting → Except UsageError Given
  | none => .ok g
  | some (flag, none) => .error (.missingValue flag)
  | some (flag, some value) => g.add flag value

/-- What the arguments come to: the wish for help ends their reading. -/
inductive Reading
  | help
  | given (g : Given) (waiting : Waiting)

/-- A value directly behind a letter, or behind an equals sign after it. -/
def attachedValue : List Char → List Char
  | '=' :: value => value
  | value => value

/-- Reads the letters behind a hyphen; `argument` is the whole argument. -/
def readLetters (argument : String) (g : Given) (waiting : Waiting) :
    List Char → Except UsageError Reading
  | [] => .ok (.given g waiting)
  | c :: rest =>
    match Flag.ofLetter? c with
    | none => .error (.unexpected argument)
    | some flag => do
      let g ← g.settle waiting
      match flag with
      | .help => return .help
      | .verbose => readLetters argument (← g.addVerbose) none rest
      | flag =>
        if rest.isEmpty then return .given g (some (flag, none))
        else return .given (← g.add flag (String.ofList (attachedValue rest))) none

/-- Reads a name behind two hyphens, with a value behind an equals sign if there is one. -/
def readName (argument : String) (g : Given) (waiting : Waiting) (cs : List Char) :
    Except UsageError Reading := do
  let value? := match cs.dropWhile (· != '=') with
    | _ :: value => some (String.ofList value)
    | [] => none
  match Flag.ofName? (String.ofList (cs.takeWhile (· != '='))) with
  | none => throw (.unexpected argument)
  | some flag =>
    if flag.takesValue then
      let g ← g.settle waiting
      match value? with
      | none => return .given g (some (flag, none))
      | some value => return .given (← g.add flag value) none
    else if value?.isSome then throw (.unneededValue flag)
    else
      let g ← g.settle waiting
      if flag = .help then return .help else return .given (← g.addVerbose) none

/-- Reads the arguments; behind two hyphens alone none is allowed. -/
def readArguments (g : Given) (waiting : Waiting) : List String → Except UsageError Reading
  | [] => do return .given (← g.settle waiting) none
  | argument :: rest => do
    match argument.toList with
    | ['-', '-'] =>
      match rest with
      | [] => return .given (← g.settle waiting) none
      | stray :: _ => throw (.unexpected stray)
    | '-' :: '-' :: cs => goOn rest (← readName argument g waiting cs)
    | '-' :: c :: cs => goOn rest (← readLetters argument g waiting (c :: cs))
    | _ =>
      match waiting with
      | some (flag, none) => readArguments g (some (flag, some argument)) rest
      | _ => throw (.unexpected argument)
where
  goOn (rest : List String) : Reading → Except UsageError Reading
    | .help => return .help
    | .given g waiting => readArguments g waiting rest

/-- What is to be done. -/
structure Arguments where
  history : String
  job : String
  selector : Option String
  filter : Option String
  origin : Option BuildRef
  vars : Variables
  config : Option String
  verbose : Bool

inductive Command
  | help
  | select (arguments : Arguments)

/-- The command that the arguments give; `environment` stands in for the option `config`. -/
def Command.ofArguments (arguments : List String) (environment : Option String) :
    Except UsageError Command := do
  match ← readArguments .nothing none arguments with
  | .help => return .help
  | .given g _ =>
    let config := g.text? .config <|> environment
    if config = some "" then throw (.emptyValue .config)
    let some history := g.text? .history | throw (.missing .history)
    let some job := g.text? .job | throw (.missing .job)
    return .select {
      history, job, config
      selector := g.text? .selector
      filter := g.text? .filter
      origin := g.origin
      vars := .ofList g.bindings
      verbose := g.verbose }

end BuildPicker.CommandLine
