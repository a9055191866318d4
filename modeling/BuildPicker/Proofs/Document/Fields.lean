import BuildPicker.Document.Basic
import BuildPicker.Document.Plain
import BuildPicker.Proofs.Text.Numeral
import Mathlib.Data.List.Nodup

/-!
What is written into documents, read as JSON.

Each reader gives back what the writer that goes with it wrote: texts, numbers, values that
may be null, lists, tables, and the fields of records. A field that is left out has to be
the one that its default restores.
-/

namespace BuildPicker

open BuildPicker.Text

/-! ### Tables -/

namespace Table

variable {α : Type}

theorem insertEntry_eq_append {name : String} {a : α} {entries : List (String × α)}
    (h : ∀ e ∈ entries, e.1 < name) : insertEntry name a entries = entries ++ [(name, a)] := by
  induction entries with
  | nil => rfl
  | cons e entries ih =>
      obtain ⟨he, h⟩ := List.forall_mem_cons.1 h
      have hne : name ≠ e.1 := by
        rintro rfl
        exact String.lt_irrefl _ he
      rw [insertEntry, if_neg (String.lt_asymm he), if_neg hne, ih h, List.cons_append]

theorem entries_foldl_insert {entries : List (String × α)} (t : Table α)
    (h : (t.entries ++ entries).Pairwise (fun a b => a.1 < b.1)) :
    (entries.foldl (fun t pair => t.insert pair.1 pair.2) t).entries = t.entries ++ entries := by
  induction entries generalizing t with
  | nil => simp
  | cons e entries ih =>
      have hlast : ∀ a ∈ t.entries, a.1 < e.1 := fun a ha =>
        (List.pairwise_append.1 h).2.2 a ha e List.mem_cons_self
      have hinsert : (t.insert e.1 e.2).entries = t.entries ++ [e] := insertEntry_eq_append hlast
      rw [List.foldl_cons, ih, hinsert, List.append_assoc, List.singleton_append]
      rwa [hinsert, List.append_assoc, List.singleton_append]

/-- A table is the one that its listing makes. -/
theorem ofList_entries (t : Table α) : ofList t.entries = t := by
  obtain ⟨entries, ascending⟩ := t
  rw [mk.injEq, ofList]
  exact entries_foldl_insert empty ascending

theorem isEmpty_iff {t : Table α} : t.isEmpty ↔ t = .empty := by
  obtain ⟨entries, ascending⟩ := t
  simp [isEmpty, empty, List.isEmpty_iff]

end Table

namespace Document

variable {α : Type}

/-! ### Scalars -/

theorem text?_quoted (format : Format) (s : String) : (quoted s).text? format = some s := rfl

theorem isNull_quoted (format : Format) (s : String) : (quoted s).isNull format = false := rfl

theorem number?_number (n : UInt32) : (number n).number? .json = some n := by
  change (natural? (digits n).toList).bind (fun n => uint32? n) = some n
  rw [toList_digits, natural?_toDigits, Option.bind_some]
  exact uint32?_eq_some_iff.2 rfl

/-- A number of 32 bits fits into the 64 bits that are read. -/
theorem plain?_number (n : UInt32) : (number n).plain? .json = some (.unsigned n.toNat) := by
  have hdigit : ∀ c ∈ (digits n).toList, c.isDigit := by
    rw [toList_digits]
    exact fun _ => isDigit_of_mem_toDigits
  have hne (s : String) (hs : s.toList.all Char.isDigit = false) : digits n ≠ s := by
    rintro rfl
    rw [List.all_eq_true.2 hdigit] at hs
    cases hs
  have hnatural : natural? (digits n).toList = some n.toNat := by
    rw [toList_digits, natural?_toDigits]
  have hbound : n.toNat < wordBound := Nat.lt_of_lt_of_le n.toNat_lt (by decide)
  change jsonPlain? (digits n) = _
  obtain ⟨c, cs, hcs⟩ : ∃ c cs, (digits n).toList = c :: cs := by
    rw [toList_digits]
    exact List.exists_cons_of_ne_nil Nat.toDigits_ne_nil
  have hc : c ≠ '-' := by
    rintro rfl
    exact absurd (hdigit '-' (hcs ▸ List.mem_cons_self)) (by decide)
  rw [hcs] at hnatural
  simp [jsonPlain?, hne "null" rfl, hne "true" rfl, hne "false" rfl, hcs, hc, hnatural, hbound]

theorem isReadable_number (n : UInt32) (levels : Nat) : (number n).isReadable .json levels := by
  change ((number n).plain? .json).isSome
  rw [plain?_number]
  rfl

/-! ### Values that may be null, lists and tables -/

theorem nullable?_getD {read? : Document → Option α} {write : α → Document}
    (hread : ∀ a, read? (write a) = some a) (hnull : ∀ a, (write a).isNull .json = false)
    (o : Option α) : nullable? .json read? ((o.map write).getD .null) = some o := by
  cases o with
  | none => rfl
  | some a => simp [nullable?, hread, hnull]

theorem mapM_map {β : Type} {f : β → Option α} {g : α → β} (h : ∀ a, f (g a) = some a)
    (as : List α) : (as.map g).mapM f = some as := by
  induction as with
  | nil => rfl
  | cons a as ih => simp [h, ih]

theorem list?_sequence {read? : Document → Option α} {write : α → Document}
    (hread : ∀ a, read? (write a) = some a) (as : List α) :
    list? .json read? (.sequence (as.map write)) = some as := by
  simp [list?, items?, isLeftOut, mapM_map hread]

theorem entries?_ofFields (fields : List (String × Document)) :
    (ofFields fields).entries? .json = some fields :=
  mapM_map (f := fun e : Document × Document => e.1.name?.map (·, e.2)) (fun _ => rfl) fields

theorem table?_ofFields {read? : Document → Option α} {write : α → Document}
    (hread : ∀ a, read? (write a) = some a) (t : Table α) :
    table? .json read? (.ofFields (t.entries.map fun (name, a) => (name, write a))) = some t := by
  have hentries := mapM_map (f := fun e => (read? e.2).bind fun a => pure (e.1, a))
    (g := fun e : String × α => (e.1, write e.2)) (fun _ => by simp [hread]) t.entries
  simp only [table?, entries?_ofFields, Option.bind_eq_bind, Option.bind_some]
  rw [hentries]
  simp [Table.ofList_entries]

/-! ### Records -/

theorem unrepeated_of_nodup {fields : List (String × Document)} (h : (fields.map Prod.fst).Nodup)
    (names : List String) : unrepeated names fields := by
  rw [unrepeated, List.all_eq_true]
  intro name _
  have hcount := List.nodup_iff_count_le_one.1 h name
  rw [List.count_eq_countP, List.countP_map] at hcount
  simpa [Function.comp_def, beq_eq_decide] using hcount

theorem fields?_ofFields {names : List String} {fields : List (String × Document)}
    (hnames : names.Nodup) (h : (fields.map Prod.fst).Sublist names) :
    (ofFields fields).fields? .json names = some fields := by
  have hunrepeated := unrepeated_of_nodup (h.nodup hnames) names
  change ((ofFields fields).entries? .json).bind (fun entries =>
    (if unrepeated names entries then some () else none).bind fun _ => some entries) = _
  rw [entries?_ofFields, Option.bind_some, if_pos hunrepeated, Option.bind_some]

end Document

/-! ### Fields -/

@[simp] theorem lookup_toList_map {α : Type} (o : Option α) (write : α → Document)
    (name other : String) :
    (o.map fun a => (name, write a)).toList.lookup other =
      if other = name then o.map write else none := by
  cases o with
  | none => simp
  | some a =>
      by_cases h : other = name
      · simp [h]
      · simp [List.lookup_cons, h, beq_eq_false_iff_ne.2 h]

section

variable {α : Type} {entries : List (String × Document)} {name : String}
  {read? : Document → Option α}

theorem defaulted?_eq_some {d : Document} {a absent : α} (h : entries.lookup name = some d)
    (hread : read? d = some a) : defaulted? entries name read? absent = some a := by
  rw [defaulted?, h]
  exact hread

/-- A field that is left out where there is nothing to write. -/
theorem defaulted?_eq_some_of_ite {nothing : Bool} {d : Document} {a absent : α}
    (h : entries.lookup name = if nothing then none else some d) (hread : read? d = some a)
    (habsent : nothing = true → a = absent) : defaulted? entries name read? absent = some a := by
  cases nothing with
  | false => exact defaulted?_eq_some h hread
  | true => rw [defaulted?, h, habsent rfl]; rfl

/-- A field that is left out for no value. -/
theorem defaulted?_eq_some_of_map {write : α → Document} {o : Option α}
    (h : entries.lookup name = o.map write) (hread : ∀ a, read? (write a) = some a)
    (hnull : ∀ a, (write a).isNull .json = false) :
    defaulted? entries name (Document.nullable? .json read?) none = some o := by
  cases o with
  | none => rw [defaulted?, h]; rfl
  | some a => exact defaulted?_eq_some h (Document.nullable?_getD hread hnull (some a))

end

end BuildPicker
