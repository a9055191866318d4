import BuildPicker.Document.Basic
import BuildPicker.Text.Decimal

/-!
What a scalar is where nothing in particular is wanted of it.

A bare scalar is then a null, a truth value or a number if it looks like one, and
in YAML else a text. An integer has 64 bits. Where such a scalar is not wanted
either, it still has to be in range, and collections may not be nested too deeply.
-/

namespace BuildPicker

open BuildPicker.Text

inductive Plain
  | null
  | boolean
  | unsigned (n : Nat)
  /-- An integer with a minus sign. -/
  | signed (i : Int)
  /-- Any other number. -/
  | fractional
  | text (s : String)
  deriving DecidableEq

namespace Plain

def text? : Plain → Option String
  | text s => some s
  | _ => none

/-- A number of 32 bits. -/
def number? : Plain → Option UInt32
  | unsigned n => uint32? n
  | signed i => uint32? i
  | _ => none

/-- An integer of 64 bits, after a minus sign if `negative`. One that takes 128 bits is out of
range, and a longer one is what it would be otherwise. -/
def ofInteger? (negative : Bool) (n : Nat) (otherwise : Option Plain) : Option Plain :=
  if negative then
    if 2 * n ≤ wordBound then some (signed (-n))
    else if 2 * n ≤ wordBound * wordBound then none else otherwise
  else
    if n < wordBound then some (unsigned n)
    else if n < wordBound * wordBound then none else otherwise

end Plain

namespace Document

/-- A bare scalar in JSON. A number beyond the range of doubles is nothing at all. -/
def jsonPlain? (s : String) : Option Plain :=
  if s = "null" then some .null
  else if s = "true" || s = "false" then some .boolean
  else
    let (negative, cs) := match s.toList with
      | '-' :: cs => (true, cs)
      | cs => (false, cs)
    match natural? cs with
    | some n =>
      if !negative && n < wordBound then some (.unsigned n)
      else if negative && 0 < n && 2 * n ≤ wordBound then some (.signed (-n))
      else number? cs
    | none => number? cs
where
  number? (cs : List Char) : Option Plain :=
    (decimal? cs).bind fun d => if d.isFiniteCut then some .fractional else none

/-- Whether a bare scalar is a number in YAML that is no integer. A number beyond the range of
doubles is a text. -/
def isYamlFractional (s : String) : Bool :=
  let cs := match s.toList with
    | '+' :: cs | '-' :: cs => cs
    | cs => cs
  [".nan", ".NaN", ".NAN"].contains s ||
    [".inf", ".Inf", ".INF"].contains (String.ofList cs) ||
    (!hasLeadingZero cs && (decimal? cs).any (·.isFinite))

/-- A bare scalar in YAML. -/
def yamlPlain? (s : String) : Option Plain :=
  let other := some (if isYamlFractional s then .fractional else .text s)
  if yamlNulls.contains s then some .null
  else if yamlTrue.contains s || yamlFalse.contains s then some .boolean
  else match yamlUnsigned? s, s.toList with
    | some n, _ => Plain.ofInteger? false n other
    | none, '-' :: cs =>
      match yamlInteger? cs with
      | some n => Plain.ofInteger? true n other
      | none => other
    | none, _ => other

/-- What a scalar is, if it is in range. -/
def plain? (format : Format) : Document → Option Plain
  | scalar s true => some (.text s)
  | scalar s false => match format with
    | .json => jsonPlain? s
    | .yaml => yamlPlain? s
  | _ => none

mutual

/-- Whether all scalars of a document are in range and no more than `levels` collections stand in
one another. -/
def isReadable (format : Format) (levels : Nat) : Document → Bool
  | scalar s quoted => (plain? format (scalar s quoted)).isSome
  | sequence items => 0 < levels && areReadable format (levels - 1) items
  | mapping entries => 0 < levels && areEntriesReadable format (levels - 1) entries
  | garbled => false

def areReadable (format : Format) (levels : Nat) : List Document → Bool
  | [] => true
  | d :: rest => d.isReadable format levels && areReadable format levels rest

def areEntriesReadable (format : Format) (levels : Nat) : List (Document × Document) → Bool
  | [] => true
  | (key, d) :: rest =>
    key.isReadable format levels && d.isReadable format levels &&
      areEntriesReadable format levels rest

end

end Document

end BuildPicker
