import BuildPicker.Text.Numeral

/-!
The scalars of YAML: plain, in single and in double quotes.

A scalar may go on over several lines. One line feed between two words counts as
a space, and of several the first is dropped; a line separator or a paragraph
separator stays. White space next to a line break is dropped. The functions take
the text from the scalar on and give its content with the text behind it.
-/

namespace BuildPicker.Yaml

open BuildPicker.Text

/-! ### Places -/

/-- Whether a character ends a line. -/
def isBreak (c : Char) : Bool :=
  c == '\n' || c == '\u2028' || c == '\u2029'

/-- A place in a text: its line, and how many characters and bytes of the line stand before it. -/
structure Place where
  line : Nat
  column : Nat
  bytes : Nat

namespace Place

def start : Place := ⟨0, 0, 0⟩

def after (p : Place) (c : Char) : Place :=
  if isBreak c then ⟨p.line + 1, 0, 0⟩ else ⟨p.line, p.column + 1, p.bytes + c.utf8Size⟩

def afterAll (p : Place) (cs : List Char) : Place :=
  cs.foldl after p

end Place

/-- What is left of a text, and the place where it begins. -/
structure Cursor where
  place : Place
  rest : List Char

def Cursor.drop : Nat → Cursor → Cursor
  | n + 1, ⟨p, c :: rest⟩ => Cursor.drop n ⟨p.after c, rest⟩
  | _, c => c

/-! ### What a text begins with -/

def isGap (c : Char) : Bool :=
  c == ' ' || c == '\t'

/-- Whether a text begins with white space or is at its end. -/
def beginsBlank : List Char → Bool
  | [] => true
  | c :: _ => isGap c || isBreak c

def isFlowIndicator (c : Char) : Bool :=
  c == ',' || c == '[' || c == ']' || c == '{' || c == '}'

/-- Whether a line begins with the mark of a document's start or end. -/
def beginsMarker : List Char → Bool
  | '-' :: '-' :: '-' :: rest => beginsBlank rest
  | '.' :: '.' :: '.' :: rest => beginsBlank rest
  | _ => false

/-! ### Between the words of a scalar -/

inductive Gap
  /-- White space within a line, the last first. -/
  | blanks (cs : List Char)
  /-- Line breaks: the first, unless it is escaped, and the others, the last first. -/
  | breaks (first : Option Char) (others : List Char)

namespace Gap

def none : Gap := blanks []

def addBlank (c : Char) : Gap → Gap
  | blanks cs => blanks (c :: cs)
  | breaks first others => breaks first others

def addBreak (c : Char) : Gap → Gap
  | blanks _ => breaks (some c) []
  | breaks first others => breaks first (c :: others)

def isEmpty : Gap → Bool
  | blanks cs => cs.isEmpty
  | breaks _ _ => false

/-- Whether the text goes on in another line. -/
def isBroken : Gap → Bool
  | blanks _ => false
  | breaks _ _ => true

/-- What the gap counts as in the content. -/
def content : Gap → List Char
  | blanks cs => cs.reverse
  | breaks (some '\n') [] => [' ']
  | breaks (some '\n') others => others.reverse
  | breaks first others => first.toList ++ others.reverse

end Gap

/-! ### Plain scalars -/

/-- Whether a plain scalar can begin here. -/
def beginsPlain (flow : Bool) : List Char → Bool
  | [] => false
  | '-' :: rest => !beginsBlank rest
  | '?' :: rest => !flow && !beginsBlank rest
  | ':' :: rest => !flow && !beginsBlank rest
  | c :: _ =>
    !(isGap c || isBreak c || isFlowIndicator c ||
      ['#', '&', '*', '!', '|', '>', '\'', '"', '%', '@', '\x60'].contains c)

/-- Whether a plain scalar ends before a character that is not blank: left of `indent` or before a
marker on a new line, before a comment, before the colon behind a key, and in a flow collection
before an indicator. -/
def endsPlain (flow : Bool) (indent : Nat) (gap : Gap) (p : Place) (c : Char) (rest : List Char) :
    Bool :=
  (gap.isBroken &&
    ((!flow && p.column < indent) || (p.column = 0 && beginsMarker (c :: rest)))) ||
  (!gap.isEmpty && c == '#') || (c == ':' && beginsBlank rest) || (flow && isFlowIndicator c)

/-- A plain scalar whose lines begin at `indent` or further to the right, with the white space
behind it. A tab may not stand left of `indent`, and in a flow collection no colon may stand
directly before an indicator. -/
def readPlain? (flow : Bool) (indent : Nat) (gap : Gap) (p : Place) :
    List Char → Option (List Char × Gap × Cursor)
  | [] => some ([], gap, ⟨p, []⟩)
  | c :: rest =>
    if isBreak c then readPlain? flow indent (gap.addBreak c) (p.after c) rest
    else if isGap c then
      if c == '\t' && gap.isBroken && p.column < indent then none
      else readPlain? flow indent (gap.addBlank c) (p.after c) rest
    else if endsPlain flow indent gap p c rest then some ([], gap, ⟨p, c :: rest⟩)
    else if flow && c == ':' && rest.head?.any (fun d => isFlowIndicator d || d == '?') then none
    else match readPlain? flow indent .none (p.after c) rest with
      | none => none
      | some (content, last) => some (gap.content ++ c :: content, last)

/-! ### Quoted scalars -/

/-- A scalar from behind its opening single quote. A quote inside is written twice. -/
def readSingle? (gap : Gap) (p : Place) : List Char → Option (List Char × Cursor)
  | [] => none
  | '\'' :: '\'' :: rest =>
    match readSingle? .none (p.afterAll ['\'', '\'']) rest with
    | none => none
    | some (content, last) => some (gap.content ++ '\'' :: content, last)
  | '\'' :: rest => some (gap.content, ⟨p.after '\'', rest⟩)
  | c :: rest =>
    if isBreak c then
      if beginsMarker rest then none else readSingle? (gap.addBreak c) (p.after c) rest
    else if isGap c then readSingle? (gap.addBlank c) (p.after c) rest
    else match readSingle? .none (p.after c) rest with
      | none => none
      | some (content, last) => some (gap.content ++ c :: content, last)

/-- The character whose number is written by hexadecimal digits. -/
def hexChar? (digits : List Char) : Option Char := do
  let n ← radix? 16 digits
  if h : n.isValidChar then some (Char.ofNatAux n h) else none

/-- The character of an escape of one letter. -/
def escape? : Char → Option Char
  | '0' => some '\x00'
  | 'a' => some '\x07'
  | 'b' => some '\x08'
  | 't' => some '\t'
  | '\t' => some '\t'
  | 'n' => some '\n'
  | 'v' => some '\x0b'
  | 'f' => some '\x0c'
  | 'r' => some '\r'
  | 'e' => some '\x1b'
  | ' ' => some ' '
  | '"' => some '"'
  | '/' => some '/'
  | '\\' => some '\\'
  | 'N' => some '\u0085'
  | '_' => some '\u00a0'
  | 'L' => some '\u2028'
  | 'P' => some '\u2029'
  | _ => none

/-- A scalar from behind its opening double quote. An escaped line break counts as nothing. -/
def readDouble? (gap : Gap) (p : Place) : List Char → Option (List Char × Cursor)
  | [] => none
  | '"' :: rest => some (gap.content, ⟨p.after '"', rest⟩)
  | '\\' :: 'x' :: a :: b :: rest =>
    follow gap (hexChar? [a, b]) (readDouble? .none (p.afterAll ['\\', 'x', a, b]) rest)
  | '\\' :: 'u' :: a :: b :: c :: d :: rest =>
    follow gap (hexChar? [a, b, c, d])
      (readDouble? .none (p.afterAll ['\\', 'u', a, b, c, d]) rest)
  | '\\' :: 'U' :: a :: b :: c :: d :: e :: f :: g :: h :: rest =>
    follow gap (hexChar? [a, b, c, d, e, f, g, h])
      (readDouble? .none (p.afterAll ['\\', 'U', a, b, c, d, e, f, g, h]) rest)
  | '\\' :: c :: rest =>
    if isBreak c then
      if beginsMarker rest then none
      else match readDouble? (.breaks none []) (p.after c) rest with
        | none => none
        | some (content, last) => some (gap.content ++ content, last)
    else follow gap (escape? c) (readDouble? .none (p.afterAll ['\\', c]) rest)
  | c :: rest =>
    if isBreak c then
      if beginsMarker rest then none else readDouble? (gap.addBreak c) (p.after c) rest
    else if isGap c then readDouble? (gap.addBlank c) (p.after c) rest
    else follow gap (if c == '\\' then none else some c) (readDouble? .none (p.after c) rest)
where
  /-- A gap, then a character, then what follows it. -/
  follow (gap : Gap) (c? : Option Char) (rest? : Option (List Char × Cursor)) :
      Option (List Char × Cursor) := do
    let c ← c?
    let (content, last) ← rest?
    return (gap.content ++ c :: content, last)

end BuildPicker.Yaml
