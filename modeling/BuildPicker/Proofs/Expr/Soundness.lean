import BuildPicker.Proofs.Expr.Completeness

/-!
What the reader finds is derived by the grammar.

The main statement is `ofText_eq_ok_iff`: a text is read as a tree exactly when
the grammar derives the tree from it and the tree nests at most `maxNesting`
levels. The nesting need not be followed through the reader again, since the
reader is already known to refuse every derived text that nests too deeply.
-/

namespace BuildPicker

open BuildPicker.Text

theorem Attempt.map_eq_found_iff {α β : Type} {f : α → β} {a : Attempt α} {b : β}
    {rest : List Char} : a.map f = .found b rest ↔ ∃ x, a = .found x rest ∧ f x = b := by
  cases a with
  | absent | broken => simp [Attempt.map]
  | found x r =>
      simp only [Attempt.map, Attempt.found.injEq]
      constructor
      · rintro ⟨rfl, rfl⟩
        exact ⟨x, ⟨rfl, rfl⟩, rfl⟩
      · rintro ⟨_, ⟨rfl, rfl⟩, rfl⟩
        exact ⟨rfl, rfl⟩

namespace Expr

/-- What `value` finds, the grammar derives. -/
def IsSound (value : ValueReader) : Prop :=
  ∀ {cs rest : List Char} {v : Value}, value cs = .found v rest → DerivesValue cs v rest

/-! ### Arguments and items -/

/-- An argument is absent, or all depends on what stands behind its key and white space. -/
theorem readArgument_cases (value : ValueReader) (cs : List Char) :
    readArgument value cs = .absent ∨
      ∃ (ws : List Char) (key : String) (ws' start : List Char), IsSpacing ws ∧
        isName key.toList ∧ IsSpacing ws' ∧ ws' ≠ [] ∧
        cs = ws ++ ':' :: (key.toList ++ (ws' ++ start)) ∧
        readArgument value cs = match value start with
          | .found v rest => .found (key, v) rest
          | .broken fault => .broken (fault.inside "value" start)
          | .absent => .broken (.unexpected
              [⟨start, .char '['⟩, ⟨start, .construct "Alt"⟩, ⟨start, .construct "value"⟩]) := by
  obtain ⟨ws, hws, hcs⟩ := exists_isSpacing cs
  unfold readArgument
  split
  · next afterColon hcolon =>
      split
      · exact .inl rfl
      · next key afterKey hname =>
          obtain ⟨hkey, rfl⟩ := isName_of_readName? hname
          obtain ⟨ws', hws', hafter⟩ := exists_isSpacing afterKey
          dsimp only
          split
          · exact .inl rfl
          · next hlength =>
              have hne : ws' ≠ [] := by
                rintro rfl
                exact hlength (congrArg List.length hafter).symm
              refine .inr ⟨ws, key, ws', skipSpace afterKey, hws, hkey, hws', hne, ?_, rfl⟩
              rw [hcs, hcolon, ← hafter]
  · exact .inl rfl

theorem derivesArgs_of_readArgument {value : ValueReader} (hvalue : IsSound value)
    {cs mid rest : List Char} {arg : String × Value} {args : List (String × Value)}
    (h : readArgument value cs = .found arg mid) (hargs : DerivesArgs mid args rest) :
    DerivesArgs cs (arg :: args) rest := by
  rcases readArgument_cases value cs with
    habsent | ⟨ws, key, ws', start, hws, hkey, hws', hne, rfl, hread⟩
  · rw [habsent] at h
    cases h
  · rw [hread] at h
    split at h
    · next v rest hv =>
        cases h
        exact .cons hws hkey hws' hne (hvalue hv) hargs
    · cases h
    · cases h

theorem derivesArgs_of_readArguments {value : ValueReader} (hvalue : IsSound value)
    {rounds : Nat} {cs rest : List Char} {args : List (String × Value)}
    (h : readArguments value rounds cs = .found args rest) : DerivesArgs cs args rest := by
  induction rounds generalizing cs args with
  | zero =>
      simp only [readArguments, Attempt.found.injEq] at h
      obtain ⟨rfl, rfl⟩ := h
      exact .nil _
  | succ rounds ih =>
      rw [readArguments] at h
      split at h
      · next arg mid harg =>
          obtain ⟨args, hargs, rfl⟩ := Attempt.map_eq_found_iff.1 h
          exact derivesArgs_of_readArgument hvalue harg (ih hargs)
      · simp only [Attempt.found.injEq] at h
        obtain ⟨rfl, rfl⟩ := h
        exact .nil _
      · simp at h

theorem derivesItems_of_readItems {value : ValueReader} (hvalue : IsSound value)
    {rounds : Nat} {cs rest : List Char} {items : List Value}
    (h : readItems value rounds cs = .found items rest) : DerivesItems cs items rest := by
  induction rounds generalizing cs items with
  | zero =>
      simp only [readItems, Attempt.found.injEq] at h
      obtain ⟨rfl, rfl⟩ := h
      exact .nil _
  | succ rounds ih =>
      rw [readItems] at h
      split at h
      · next item mid hitem =>
          obtain ⟨items, hitems, rfl⟩ := Attempt.map_eq_found_iff.1 h
          -- What was skipped behind the item is its separator.
          obtain ⟨sep, hsep, hmid⟩ := exists_isSeparator mid
          rw [hmid] at hitem
          exact .cons (hvalue hitem) hsep (ih hitems)
      · simp only [Attempt.found.injEq] at h
        obtain ⟨rfl, rfl⟩ := h
        exact .nil _
      · simp at h

/-! ### Brackets -/

/-- Behind white space the closing character is found, or it is missed there. -/
theorem close_cases {α : Type} (closing : Char) (name : String) (a : α) (cs : List Char) :
    ∃ ws start, IsSpacing ws ∧ cs = ws ++ start ∧
      ((∃ rest, start = closing :: rest ∧ close closing name a cs = .found a rest) ∨
        close closing name a cs =
          .broken (.unexpected [⟨start, .char closing⟩, ⟨start, .construct name⟩])) := by
  obtain ⟨ws, hws, hcs⟩ := exists_isSpacing cs
  refine ⟨ws, skipSpace cs, hws, hcs, ?_⟩
  unfold close
  cases skipSpace cs with
  | nil => exact .inr rfl
  | cons c rest =>
      dsimp only
      split
      · next hc => exact .inl ⟨rest, congrArg (· :: rest) hc, rfl⟩
      · exact .inr rfl

theorem exists_isSpacing_of_close {α : Type} {closing : Char} {name : String} {a b : α}
    {cs rest : List Char} (h : close closing name a cs = .found b rest) :
    a = b ∧ ∃ ws, IsSpacing ws ∧ cs = ws ++ closing :: rest := by
  rcases close_cases closing name a cs with
    ⟨ws, start, hws, rfl, ⟨rest', rfl, hfound⟩ | hbroken⟩
  · rw [hfound] at h
    cases h
    exact ⟨rfl, ws, hws, rfl⟩
  · rw [hbroken] at h
    cases h

theorem derivesExpr_of_readExprWith {value? : Option ValueReader}
    (hvalue : ∀ value, value? = some value → IsSound value) {cs rest : List Char} {e : Expr}
    (h : readExprWith value? cs = .found e rest) : DerivesExpr cs e rest := by
  unfold readExprWith at h
  split at h
  · next cs =>
      split at h
      · simp at h
      · next value =>
          obtain ⟨ws, hws, hcs⟩ := exists_isSpacing cs
          dsimp only at h
          split at h
          · simp at h
          · next tag mid hname =>
              obtain ⟨htag, hstart⟩ := isName_of_readName? hname
              split at h <;> try simp at h
              next args mid' hargs =>
                obtain ⟨rfl, ws', hws', rfl⟩ := exists_isSpacing_of_close h
                rw [hcs, hstart]
                exact .node hws htag (derivesArgs_of_readArguments (hvalue _ rfl) hargs) hws'
  · simp at h

theorem derivesValue_of_readListWith {value? : Option ValueReader}
    (hvalue : ∀ value, value? = some value → IsSound value) {cs rest : List Char}
    {items : List Value} (h : readListWith value? cs = .found items rest) :
    DerivesValue cs (.list items) rest := by
  unfold readListWith at h
  split at h
  · next cs =>
      split at h
      · simp at h
      · next value =>
          obtain ⟨ws, hws, hcs⟩ := exists_isSpacing cs
          split at h <;> try simp at h
          next items' mid hitems =>
            obtain ⟨rfl, ws', hws', rfl⟩ := exists_isSpacing_of_close h
            rw [hcs]
            exact .list hws (derivesItems_of_readItems (hvalue _ rfl) hitems) hws'
  · simp at h

/-! ### Values at every level -/

theorem isSound_readValueWith {value? : Option ValueReader}
    (hvalue : ∀ value, value? = some value → IsSound value) :
    IsSound (readValueWith value?) := by
  intro cs rest v h
  unfold readValueWith at h
  split at h
  · next w mid hscalar =>
      simp only [Attempt.found.injEq] at h
      obtain ⟨rfl, rfl⟩ := h
      exact derivesValue_of_readScalar? hscalar
  · split at h
    · next e mid hexpr =>
        simp only [Attempt.found.injEq] at h
        obtain ⟨rfl, rfl⟩ := h
        exact .expr (derivesExpr_of_readExprWith hvalue hexpr)
    · simp at h
    · obtain ⟨items, hitems, rfl⟩ := Attempt.map_eq_found_iff.1 h
      exact derivesValue_of_readListWith hvalue hitems

theorem isSound_readValueAt (n : Nat) : IsSound (readValueAt n) := by
  induction n with
  | zero => exact isSound_readValueWith (by simp)
  | succ n ih =>
      refine isSound_readValueWith ?_
      rintro value ⟨rfl⟩
      exact ih

theorem derivesText_of_ofText {s : String} {e : Expr} (h : ofText s = .ok e) :
    DerivesText s e := by
  obtain ⟨ws, hws, hcs⟩ := exists_isSpacing s.toList
  unfold ofText ofChars at h
  dsimp only at h
  split at h
  · next e' rest hread =>
      split at h
      · next hrest =>
          simp only [Except.ok.injEq] at h
          subst h
          have hsound : ∀ value, some (readValueAt (maxNesting - 1)) = some value →
              IsSound value := by
            rintro value ⟨rfl⟩
            exact isSound_readValueAt _
          obtain ⟨ws', hws', hws'eq⟩ := exists_isSpacing rest
          rw [List.isEmpty_iff.1 hrest, List.append_nil] at hws'eq
          rw [← String.ofList_toList (s := s), hcs]
          exact .intro hws (derivesExpr_of_readExprWith hsound hread) (hws'eq ▸ hws')
      · simp at h
  · simp at h
  · simp at h

/-- The reader accepts exactly what the grammar derives within the limit. -/
theorem ofText_eq_ok_iff {s : String} {e : Expr} :
    ofText s = .ok e ↔ DerivesText s e ∧ e.nesting ≤ maxNesting := by
  constructor
  · intro h
    have hderives := derivesText_of_ofText h
    refine ⟨hderives, ?_⟩
    have hread := ofText_eq_of_derivesText hderives
    rw [h] at hread
    split at hread
    · assumption
    · simp at hread
  · rintro ⟨hderives, hn⟩
    rw [ofText_eq_of_derivesText hderives, if_pos hn]

end Expr

end BuildPicker
