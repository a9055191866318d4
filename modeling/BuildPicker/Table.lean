/-!
Finite maps from names, listed in the order of the names.

Names are ordered by their code points. A table holds each name once, so two
tables with the same look-ups are equal and a table has one listing.
-/

namespace BuildPicker

/-- Entries by strictly ascending names. -/
structure Table (α : Type) where
  entries : List (String × α)
  ascending : entries.Pairwise (fun a b => a.1 < b.1)
  deriving DecidableEq

namespace Table

variable {α : Type}

/-- Puts an entry in its place, or in the place of the one with the same name. -/
def insertEntry (name : String) (a : α) : List (String × α) → List (String × α)
  | [] => [(name, a)]
  | (other, b) :: rest =>
    if name < other then (name, a) :: (other, b) :: rest
    else if name = other then (name, a) :: rest
    else (other, b) :: insertEntry name a rest

theorem eq_or_mem_of_mem_insertEntry {name : String} {a : α} {e : String × α}
    {entries : List (String × α)} (h : e ∈ insertEntry name a entries) :
    e = (name, a) ∨ e ∈ entries := by
  induction entries with
  | nil => simpa [insertEntry] using h
  | cons first rest ih => grind [insertEntry]

theorem ascending_insertEntry (name : String) (a : α) {entries : List (String × α)}
    (h : entries.Pairwise (fun a b => a.1 < b.1)) :
    (insertEntry name a entries).Pairwise (fun a b => a.1 < b.1) := by
  induction entries with
  | nil => simp [insertEntry]
  | cons first rest ih =>
    rw [List.pairwise_cons] at h
    unfold insertEntry
    split
    · next hlt =>
      refine List.Pairwise.cons (fun e he => ?_) (List.Pairwise.cons h.1 h.2)
      rcases List.mem_cons.1 he with rfl | he
      · exact hlt
      · exact String.lt_trans hlt (h.1 e he)
    · split
      · next heq => exact List.Pairwise.cons (fun e he => heq ▸ h.1 e he) h.2
      · next hnlt hne =>
        refine List.Pairwise.cons (fun e he => ?_) (ih h.2)
        rcases eq_or_mem_of_mem_insertEntry he with rfl | he
        · grind
        · exact h.1 e he

def empty : Table α := ⟨[], .nil⟩

/-- The table with a name bound to `a`, whatever it was bound to before. -/
def insert (t : Table α) (name : String) (a : α) : Table α :=
  ⟨insertEntry name a t.entries, ascending_insertEntry name a t.ascending⟩

def get? (t : Table α) (name : String) : Option α :=
  t.entries.lookup name

def contains (t : Table α) (name : String) : Bool :=
  (t.get? name).isSome

def isEmpty (t : Table α) : Bool :=
  t.entries.isEmpty

def size (t : Table α) : Nat :=
  t.entries.length

/-- Binds the pairs of a list one after the other; of two with one name the later stays. -/
def ofList (pairs : List (String × α)) : Table α :=
  pairs.foldl (fun t pair => t.insert pair.1 pair.2) empty

theorem lookup_insertEntry (name other : String) (a : α) (entries : List (String × α)) :
    (insertEntry name a entries).lookup other =
      if other = name then some a else entries.lookup other := by
  induction entries with
  | nil => grind [insertEntry]
  | cons first rest ih => grind [insertEntry]

@[simp] theorem get?_empty (name : String) : (empty : Table α).get? name = none := rfl

theorem get?_insert (t : Table α) (name other : String) (a : α) :
    (t.insert name a).get? other = if other = name then some a else t.get? other :=
  lookup_insertEntry name other a t.entries

@[simp] theorem get?_insert_self (t : Table α) (name : String) (a : α) :
    (t.insert name a).get? name = some a := by
  simp [get?_insert]

theorem eq_or_mem_of_mem_insert {t : Table α} {name : String} {a : α} {e : String × α}
    (h : e ∈ (t.insert name a).entries) : e = (name, a) ∨ e ∈ t.entries :=
  eq_or_mem_of_mem_insertEntry h

end Table

end BuildPicker
