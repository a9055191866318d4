import BuildPicker.Document.JsonPrinter
import BuildPicker.Document.JsonReader

/-!
Documents written as JSON.

`Spells cs d` says that `cs` is a text for the document `d`. Strings, nulls and numbers
are written in one way; between the parts of arrays and objects there may be any white
space. What the printer lays out over several lines is one of these texts, and so is
what is written without any white space at all.
-/

namespace BuildPicker

open BuildPicker.Text

namespace Json

/-! ### Spellings -/

/-- White space between parts, also none. -/
def IsSpacing (ws : List Char) : Prop := ∀ c ∈ ws, isJsonSpace c

section

variable {α : Type} (R : List Char → α → Prop)

/-- A part with white space around it. -/
inductive Padded : List Char → α → Prop
  | intro {ws cs ws' : List Char} {a : α} (hws : IsSpacing ws) (h : R cs a) (hws' : IsSpacing ws') :
      Padded (ws ++ (cs ++ ws')) a

/-- Parts with commas between them, one at least. -/
inductive Separated : List Char → List α → Prop
  | last {cs : List Char} {a : α} (h : R cs a) : Separated cs [a]
  | cons {cs cs' : List Char} {a : α} {as : List α} (h : R cs a) (hrest : Separated cs' as) :
      Separated (cs ++ ',' :: cs') (a :: as)

end

/-- A name and a value with a colon between them. -/
inductive Member (R : List Char → Document → Prop) : List Char → Document × Document → Prop
  | intro {ws ws' cs : List Char} {name : String} {d : Document} (hws : IsSpacing ws)
      (hws' : IsSpacing ws') (h : Padded R cs d) :
      Member R (ws ++ (quotedChars name ++ (ws' ++ ':' :: cs))) (.quoted name, d)

/-- A value, from its first character to its last. -/
inductive Spells : List Char → Document → Prop
  | string (s : String) : Spells (quotedChars s) (.quoted s)
  | null : Spells ['n', 'u', 'l', 'l'] .null
  | number (n : UInt32) : Spells (digits n).toList (.number n)
  | noItems {ws : List Char} (hws : IsSpacing ws) : Spells ('[' :: (ws ++ [']'])) (.sequence [])
  | items {cs : List Char} {items : List Document} (h : Separated (Padded Spells) cs items) :
      Spells ('[' :: (cs ++ [']'])) (.sequence items)
  | noMembers {ws : List Char} (hws : IsSpacing ws) : Spells ('{' :: (ws ++ ['}'])) (.mapping [])
  | members {cs : List Char} {entries : List (Document × Document)}
      (h : Separated (Member Spells) cs entries) : Spells ('{' :: (cs ++ ['}'])) (.mapping entries)

/-- A whole text: a value with white space around it. -/
def SpellsText (s : String) (d : Document) : Prop := Padded Spells s.toList d

theorem padded_self {α : Type} {R : List Char → α → Prop} {cs : List Char} {a : α} (h : R cs a) :
    Padded R cs a := by
  simpa using Padded.intro (List.forall_mem_nil _) h (List.forall_mem_nil _)

theorem member_self {R : List Char → Document → Prop} {cs : List Char} {d : Document}
    (name : String) (h : R cs d) : Member R (quotedChars name ++ ':' :: cs) (.quoted name, d) := by
  simpa using Member.intro (List.forall_mem_nil _) (List.forall_mem_nil _) (padded_self h)

/-! ### The printer -/

/-- A document that can be written: names for keys, and no scalars but strings, nulls and
numbers. -/
inductive IsWritable : Document → Prop
  | string (s : String) : IsWritable (.quoted s)
  | null : IsWritable .null
  | number (n : UInt32) : IsWritable (.number n)
  | sequence {items : List Document} (h : ∀ d ∈ items, IsWritable d) : IsWritable (.sequence items)
  | fields {fields : List (String × Document)} (h : ∀ field ∈ fields, IsWritable field.2) :
      IsWritable (.ofFields fields)

theorem isSpacing_newLine (level : Nat) : IsSpacing (newLine level) := by
  intro c hc
  rw [newLine, List.mem_cons, List.mem_replicate] at hc
  obtain rfl | ⟨-, rfl⟩ := hc
  · rfl
  · rfl

theorem separated_itemChars {level : Nat} {ws : List Char} {items : List Document}
    (hne : items ≠ []) (hitems : ∀ d ∈ items, Spells (prettyChars level d) d) (hws : IsSpacing ws) :
    Separated (Padded Spells) (itemChars level items ++ ws) items := by
  induction items with
  | nil => exact absurd rfl hne
  | cons d items ih =>
      obtain ⟨hd, hitems⟩ := List.forall_mem_cons.1 hitems
      have hline := isSpacing_newLine level
      cases items with
      | nil =>
          rw [itemChars, List.append_assoc]
          exact .last (.intro hline hd hws)
      | cons next items =>
          have hfirst : Padded Spells (newLine level ++ (prettyChars level d ++ [])) d :=
            .intro hline hd (List.forall_mem_nil _)
          simpa [itemChars] using Separated.cons hfirst (ih (by simp) hitems)

theorem separated_memberChars {level : Nat} {ws : List Char} {fields : List (String × Document)}
    (hne : fields ≠ []) (hfields : ∀ field ∈ fields, Spells (prettyChars level field.2) field.2)
    (hws : IsSpacing ws) :
    Separated (Member Spells)
      (memberChars level (fields.map fun (name, d) => (.quoted name, d)) ++ ws)
      (fields.map fun (name, d) => (.quoted name, d)) := by
  induction fields with
  | nil => exact absurd rfl hne
  | cons field fields ih =>
      obtain ⟨name, d⟩ := field
      obtain ⟨hd, hfields⟩ := List.forall_mem_cons.1 hfields
      have hline := isSpacing_newLine level
      have hspace : IsSpacing [' '] := List.forall_mem_singleton.2 rfl
      have hname : prettyChars level (.quoted name) = quotedChars name := rfl
      have hmember {ws' : List Char} (hws' : IsSpacing ws') :
          Member Spells (newLine level ++ (quotedChars name ++
            ([] ++ ':' :: ([' '] ++ (prettyChars level d ++ ws'))))) (.quoted name, d) :=
        .intro hline (List.forall_mem_nil _) (.intro hspace hd hws')
      cases fields with
      | nil => simpa [memberChars, hname] using Separated.last (hmember hws)
      | cons next fields =>
          simpa [memberChars, hname] using
            Separated.cons (hmember (List.forall_mem_nil _)) (ih (by simp) hfields)

theorem spells_prettyChars {d : Document} (h : IsWritable d) (level : Nat) :
    Spells (prettyChars level d) d := by
  induction h generalizing level with
  | string s => exact .string s
  | null => exact .null
  | number n => exact .number n
  | @sequence items _ ih =>
      cases items with
      | nil => exact .noItems (List.forall_mem_nil _)
      | cons d items =>
          have hitems := separated_itemChars (List.cons_ne_nil d items)
            (fun d hd => ih d hd (level + 1)) (isSpacing_newLine level)
          simpa [prettyChars] using Spells.items hitems
  | @fields fields _ ih =>
      cases fields with
      | nil => exact .noMembers (List.forall_mem_nil _)
      | cons field fields =>
          have hmembers := separated_memberChars (List.cons_ne_nil field fields)
            (fun field hfield => ih field hfield (level + 1)) (isSpacing_newLine level)
          simpa [prettyChars, Document.ofFields] using Spells.members hmembers

theorem spellsText_pretty {d : Document} (h : IsWritable d) : SpellsText (pretty d) d := by
  simpa [SpellsText, pretty] using padded_self (spells_prettyChars h 0)

end Json

end BuildPicker
