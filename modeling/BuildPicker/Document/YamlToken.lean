import BuildPicker.Document.YamlScalar

/-!
The tokens of a YAML text, and how they are found.

Block collections are marked by columns only, so their beginnings and ends are
tokens without a text of their own. That a node is a key shows at the colon behind
it, which has to stand on the same line and no more than 1024 bytes further on; the
token that announces the key is then put before the node.
-/

namespace BuildPicker.Yaml

inductive Token
  | documentStart
  | documentEnd
  /-- The beginning of a block sequence. -/
  | sequence
  /-- The beginning of a block mapping. -/
  | mapping
  /-- The end of a block collection. -/
  | blockEnd
  /-- The dash before an item. -/
  | item
  | key
  | value
  | openBracket
  | closeBracket
  | openBrace
  | closeBrace
  | comma
  | scalar (content : String) (quoted : Bool)
  deriving DecidableEq

/-- The beginning of a node that is a key if a colon follows it. -/
structure KeyStart where
  place : Place
  /-- How many tokens stand before the node. -/
  position : Nat
  /-- Whether nothing but a key may stand here. -/
  required : Bool

/-- Whether a colon at a place comes too late for a key. -/
def KeyStart.isStale (k : KeyStart) (p : Place) : Bool :=
  k.place.line < p.line || k.place.bytes + 1024 < p.bytes

/-- What is known of a text that has been read up to a place. -/
structure Scan where
  cursor : Cursor
  /-- The tokens so far, the last first. -/
  tokens : List Token
  /-- The columns of the open block collections, the innermost first. -/
  columns : List Nat
  /-- The possible key of the innermost collection. -/
  keyStart : Option KeyStart
  /-- The possible keys around the open flow collections, the innermost first. -/
  outerKeyStarts : List (Option KeyStart)
  /-- Whether a node that begins here may be a key. -/
  keyAllowed : Bool

namespace Scan

def ofChars (cs : List Char) : Scan :=
  ⟨⟨.start, cs⟩, [], [], none, [], true⟩

def inFlow (s : Scan) : Bool :=
  !s.outerKeyStarts.isEmpty

def place (s : Scan) : Place :=
  s.cursor.place

/-- The scan with a token, for which `n` characters are passed. -/
def push (s : Scan) (t : Token) (n : Nat) : Scan :=
  { s with tokens := t :: s.tokens, cursor := s.cursor.drop n }

/-! ### Between tokens -/

/-- Passes white space, line breaks and comments, and at the beginning of a line a byte order
mark. In a block collection a node on a new line may be a key, and there no tab may stand before a
node that may be a key. -/
def skipText (flow keyAllowed comment : Bool) (p : Place) : List Char → Bool × Cursor
  | [] => (keyAllowed, ⟨p, []⟩)
  | c :: rest =>
    if isBreak c then skipText flow (keyAllowed || !flow) false (p.after c) rest
    else if comment then skipText flow keyAllowed true (p.after c) rest
    else if c == ' ' || (c == '\t' && (flow || !keyAllowed)) || (c == '\ufeff' && p.column = 0) then
      skipText flow keyAllowed false (p.after c) rest
    else if c == '#' then skipText flow keyAllowed true (p.after c) rest
    else (keyAllowed, ⟨p, c :: rest⟩)

def skip (s : Scan) : Scan :=
  let (keyAllowed, cursor) := skipText s.inFlow s.keyAllowed false s.place s.cursor.rest
  { s with keyAllowed, cursor }

/-- Gives a possible key up. -/
def dropKeyStart? (s : Scan) : Option Scan :=
  if s.keyStart.any (·.required) then none else some { s with keyStart := none }

/-- Gives up the possible keys that a colon from here on comes too late for. -/
def dropStale? (s : Scan) : Option Scan := do
  let check? : Option KeyStart → Option (Option KeyStart) := fun k? =>
    if k?.any (·.isStale s.place) then
      if k?.any (·.required) then none else some none
    else some k?
  let keyStart ← check? s.keyStart
  let outerKeyStarts ← s.outerKeyStarts.mapM check?
  return { s with keyStart, outerKeyStarts }

/-! ### Block collections -/

/-- Ends the block collections in columns that are passed; in a flow collection columns do not
matter. -/
def endBlocks (s : Scan) (isPassed : Nat → Bool) : Scan :=
  if s.inFlow then s
  else
    let ended := s.columns.takeWhile isPassed
    { s with
      columns := s.columns.drop ended.length
      tokens := ended.map (fun _ => Token.blockEnd) ++ s.tokens }

/-- Begins a block collection, unless one is open in that column. -/
def beginBlock (s : Scan) (t : Token) (column : Nat) : Scan :=
  if !s.inFlow && s.columns.head?.all (· < column) then
    { s with columns := column :: s.columns, tokens := t :: s.tokens }
  else s

/-! ### Tokens -/

/-- Remembers that the node that begins here may be a key. -/
def saveKeyStart? (s : Scan) : Option Scan :=
  if s.keyAllowed then do
    let required := !s.inFlow && s.columns.head? = some s.place.column
    let s ← s.dropKeyStart?
    return { s with keyStart := some ⟨s.place, s.tokens.length, required⟩ }
  else some s

/-- Announces that the node from a place on is a key. -/
def announceKey (s : Scan) (k : KeyStart) : Scan :=
  let node := s.tokens.take (s.tokens.length - k.position)
  let before := { s with tokens := s.tokens.drop node.length }
  let before := (before.beginBlock .mapping k.place.column).push .key 0
  { before with tokens := node ++ before.tokens, keyStart := none, keyAllowed := false }

/-- The mark of a document's start or end, which ends all block collections. -/
def readMarker? (s : Scan) (t : Token) : Option Scan := do
  let s ← (s.endBlocks fun _ => true).dropKeyStart?
  return { s.push t 3 with keyAllowed := false }

def openFlow? (s : Scan) (t : Token) : Option Scan := do
  let s ← s.saveKeyStart?
  return { s.push t 1 with
    keyStart := none, outerKeyStarts := s.keyStart :: s.outerKeyStarts, keyAllowed := true }

def closeFlow? (s : Scan) (t : Token) : Option Scan := do
  let s ← s.dropKeyStart?
  return { s.push t 1 with
    keyStart := s.outerKeyStarts.head?.join, outerKeyStarts := s.outerKeyStarts.tail
    keyAllowed := false }

def readComma? (s : Scan) : Option Scan := do
  let s ← s.dropKeyStart?
  return { s.push .comma 1 with keyAllowed := true }

/-- A mark that begins an item, a key or a value by itself. -/
def readMark? (s : Scan) (collection t : Token) (keyAllowed : Bool) : Option Scan := do
  guard (s.inFlow || s.keyAllowed)
  let s ← (s.beginBlock collection s.place.column).dropKeyStart?
  return { s.push t 1 with keyAllowed }

/-- The colon before a value, which may make a key of the node before it. -/
def readColon? (s : Scan) : Option Scan :=
  match s.keyStart with
  | some k => some ((s.announceKey k).push .value 1)
  | none => s.readMark? .mapping .value (!s.inFlow)

def readQuoted? (s : Scan) (content? : Option (List Char × Cursor)) : Option Scan := do
  let s ← s.saveKeyStart?
  let (content, cursor) ← content?
  return { s.push (.scalar (String.ofList content) true) 0 with cursor, keyAllowed := false }

/-- A plain scalar, whose lines stand to the right of the innermost block collection. -/
def readPlain? (s : Scan) : Option Scan := do
  let s ← s.saveKeyStart?
  let indent := (s.columns.head?.map (· + 1)).getD 0
  let (content, gap, cursor) ← Yaml.readPlain? s.inFlow indent .none s.place s.cursor.rest
  return { s.push (.scalar (String.ofList content) false) 0 with
    cursor, keyAllowed := gap.isBroken }

/-- The next token, which begins with `c`. Directives, anchors, aliases, tags and block scalars are
refused. -/
def readToken? (s : Scan) (c : Char) (rest : List Char) : Option Scan :=
  if s.place.column = 0 && beginsMarker (c :: rest) then
    s.readMarker? (if c == '-' then .documentStart else .documentEnd)
  else match c with
    | '[' => s.openFlow? .openBracket
    | '{' => s.openFlow? .openBrace
    | ']' => s.closeFlow? .closeBracket
    | '}' => s.closeFlow? .closeBrace
    | ',' => s.readComma?
    | '"' => s.readQuoted? (readDouble? .none (s.place.after c) rest)
    | '\'' => s.readQuoted? (readSingle? .none (s.place.after c) rest)
    | _ =>
      if c == '-' && beginsBlank rest then s.readMark? .sequence .item true
      else if c == '?' && (s.inFlow || beginsBlank rest) then
        s.readMark? .mapping .key (!s.inFlow)
      else if c == ':' && (s.inFlow || beginsBlank rest) then s.readColon?
      else if beginsPlain s.inFlow (c :: rest) then s.readPlain?
      else none

/-- The tokens of a text of which at most `n` are still to come. -/
def tokens? : (n : Nat) → Scan → Option (List Token)
  | 0, _ => none
  | n + 1, s => do
    let s ← s.skip.dropStale?
    let s := s.endBlocks (s.place.column < ·)
    match s.cursor.rest with
    | [] => return (← (s.endBlocks fun _ => true).dropKeyStart?).tokens.reverse
    | c :: rest => tokens? n (← s.readToken? c rest)

end Scan

/-- The tokens of a text; each but those of block collections takes a character at least. -/
def tokens? (cs : List Char) : Option (List Token) :=
  (Scan.ofChars cs).tokens? (cs.length + 1)

end BuildPicker.Yaml
