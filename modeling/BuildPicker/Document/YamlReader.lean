import BuildPicker.Document.Basic
import BuildPicker.Document.YamlToken

/-!
Reading YAML: the one document that the tokens of a text make up.

A scalar of which nothing is written is empty. A key may be any node. Each node
takes a token at least or is empty, so the number of tokens bounds the rounds.
-/

namespace BuildPicker.Yaml

/-- The node of which nothing is written. -/
def leftOut : Document := .bare ""

/-- A node that is left out if one of the tokens `ends`, or nothing, comes in its place. -/
def orLeftOut? (ends : List Token) (read? : List Token → Option (Document × List Token))
    (tokens : List Token) : Option (Document × List Token) :=
  if tokens.head?.all ends.contains then some (leftOut, tokens) else read? tokens

/-- What may come in place of an item of a block sequence. -/
def itemEnds : List Token := [.item, .blockEnd]

/-- What may come in place of a key or a value of a block mapping. -/
def entryEnds : List Token := [.key, .value, .blockEnd]

mutual

/-- A node. Block collections are allowed if `block`, and items without a column of their own if
`flat`. -/
def readNode? : Nat → (block flat : Bool) → List Token → Option (Document × List Token)
  | 0, _, _, _ => none
  | n + 1, block, flat, tokens =>
    match tokens with
    | .scalar content quoted :: rest => some (.scalar content quoted, rest)
    | .openBracket :: rest => do
      let (items, rest) ← readFlowItems? n rest
      return (.sequence items, rest)
    | .openBrace :: rest => do
      let (entries, rest) ← readFlowEntries? n rest
      return (.mapping entries, rest)
    | .sequence :: rest => do
      guard block
      let (items, rest) ← readItems? n rest
      return (.sequence items, rest)
    | .mapping :: rest => do
      guard block
      let (entries, rest) ← readEntries? n rest
      return (.mapping entries, rest)
    | .item :: _ => do
      guard flat
      let (items, rest) ← readFlatItems? n tokens
      return (.sequence items, rest)
    | _ => none

/-- The items of a block sequence and its end. -/
def readItems? : Nat → List Token → Option (List Document × List Token)
  | 0, _ => none
  | n + 1, tokens =>
    match tokens with
    | .item :: rest => do
      let (item, rest) ← orLeftOut? itemEnds (readNode? n true false) rest
      let (items, rest) ← readItems? n rest
      return (item :: items, rest)
    | .blockEnd :: rest => some ([], rest)
    | _ => none

/-- Items in the column of the mapping around them. -/
def readFlatItems? : Nat → List Token → Option (List Document × List Token)
  | 0, _ => none
  | n + 1, tokens =>
    match tokens with
    | .item :: rest => do
      let (item, rest) ← orLeftOut? (.item :: entryEnds) (readNode? n true false) rest
      let (items, rest) ← readFlatItems? n rest
      return (item :: items, rest)
    | _ => some ([], tokens)

/-- The entries of a block mapping and its end. -/
def readEntries? : Nat → List Token → Option (List (Document × Document) × List Token)
  | 0, _ => none
  | n + 1, tokens =>
    match tokens with
    | .key :: rest => do
      let (key, rest) ← orLeftOut? entryEnds (readNode? n true true) rest
      let (value, rest) ← match rest with
        | .value :: rest => orLeftOut? entryEnds (readNode? n true true) rest
        | _ => pure (leftOut, rest)
      let (entries, rest) ← readEntries? n rest
      return ((key, value) :: entries, rest)
    | .blockEnd :: rest => some ([], rest)
    | _ => none

/-- The items of a flow sequence and its closing bracket. A key begins a mapping of one entry; if
it is left out, the token in its place is passed over. -/
def readFlowItems? : Nat → List Token → Option (List Document × List Token)
  | 0, _ => none
  | n + 1, tokens => do
    let (item, rest) ← match tokens with
      | .closeBracket :: rest => return ([], rest)
      | .key :: rest => do
        let (key, rest) ← match rest with
          | .value :: rest | .comma :: rest | .closeBracket :: rest => pure (leftOut, rest)
          | _ => readNode? n false false rest
        let (value, rest) ← match rest with
          | .value :: rest => orLeftOut? [.comma, .closeBracket] (readNode? n false false) rest
          | _ => pure (leftOut, rest)
        pure (.mapping [(key, value)], rest)
      | _ => readNode? n false false tokens
    match rest with
    | .comma :: rest => do
      let (items, rest) ← readFlowItems? n rest
      return (item :: items, rest)
    | .closeBracket :: rest => return ([item], rest)
    | _ => none

/-- The entries of a flow mapping and its closing brace. -/
def readFlowEntries? : Nat → List Token → Option (List (Document × Document) × List Token)
  | 0, _ => none
  | n + 1, tokens => do
    let (entry, rest) ← match tokens with
      | .closeBrace :: rest => return ([], rest)
      | .key :: rest => do
        let (key, rest) ←
          orLeftOut? [.value, .comma, .closeBrace] (readNode? n false false) rest
        let (value, rest) ← match rest with
          | .value :: rest => orLeftOut? [.comma, .closeBrace] (readNode? n false false) rest
          | _ => pure (leftOut, rest)
        pure ((key, value), rest)
      | _ => do
        let (key, rest) ← readNode? n false false tokens
        pure ((key, leftOut), rest)
    match rest with
    | .comma :: rest => do
      let (entries, rest) ← readFlowEntries? n rest
      return (entry :: entries, rest)
    | .closeBrace :: rest => return ([entry], rest)
    | _ => none

end

/-! ### Documents -/

/-- The one document of a text, behind which only marks of its end may stand. -/
def ofTokens? (tokens : List Token) : Option Document := do
  let node? := readNode? (2 * tokens.length + 2) true false
  let (d, rest) ← match tokens with
    | [] => pure (leftOut, [])
    | .documentStart :: rest => orLeftOut? [.documentStart, .documentEnd] node? rest
    | _ => node? tokens
  guard (rest.all (· = .documentEnd))
  return d

/-- The characters that may stand in a text at all. -/
def isAllowed (c : Char) : Bool :=
  c == '\t' || c == '\n' || c == '\r' || (' ' ≤ c && c ≤ '~') || c == '\u0085' ||
  ('\u00a0' ≤ c && c != '\ufffe' && c != '\uffff')

/-- A text in which the line breaks of the system and the next line are line feeds. -/
def unifyBreaks : List Char → List Char
  | [] => []
  | '\r' :: '\n' :: rest => '\n' :: unifyBreaks rest
  | c :: rest => (if c == '\r' || c == '\u0085' then '\n' else c) :: unifyBreaks rest

/-- The document that a whole text is. -/
def read? (s : String) : Option Document := do
  guard (s.toList.all isAllowed)
  ofTokens? (← tokens? (unifyBreaks s.toList))

end BuildPicker.Yaml
