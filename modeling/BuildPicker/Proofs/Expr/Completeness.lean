import BuildPicker.Proofs.Expr.Lexical

/-!
What the reader does on a text that the grammar derives.

It finds the tree of the derivation when the nesting allows it. When the tree
nests too deeply, everything in front of the first bracket past the limit is read
as usual, and from there the fault goes through all constructs unchanged. So
`ReadsWithin n` describes a reader of values on derived texts completely, and is
passed from the values inside a bracket to the values around it.
-/

namespace BuildPicker

open BuildPicker.Text

namespace Expr

/-- `value` reads what the grammar derives as long as it nests at most `n` levels. -/
structure ReadsWithin (n : Nat) (value : ValueReader) : Prop where
  derived {cs rest : List Char} {v : Value} (h : DerivesValue cs v rest) :
    value cs = if v.nesting ≤ n then .found v rest else .broken .tooDeep
  closing (cs : List Char) : value (']' :: cs) = .absent

/-- What reads the values behind a bracket, when `n` levels may be opened with that bracket. -/
inductive Opens : Nat → Option ValueReader → Prop
  | closed : Opens 0 none
  | opened {n : Nat} {value : ValueReader} (h : ReadsWithin n value) : Opens (n + 1) (some value)

/-! ### Arguments and items -/

theorem stops_continuesName_of_isSpacing {ws : List Char} (hws : IsSpacing ws) (hne : ws ≠ [])
    (cs : List Char) : Stops continuesName (ws ++ cs) := by
  obtain ⟨c, ws, rfl⟩ := List.exists_cons_of_ne_nil hne
  rw [List.cons_append, stops_cons]
  exact eq_false_of_isSpace (by decide) (hws c List.mem_cons_self)

theorem readArgument_eq {n : Nat} {value : ValueReader} (hvalue : ReadsWithin n value)
    {ws ws' cs mid : List Char} {key : String} {v : Value} (hws : IsSpacing ws)
    (hkey : isName key.toList) (hws' : IsSpacing ws') (hne : ws' ≠ [])
    (hv : DerivesValue cs v mid) :
    readArgument value (ws ++ ':' :: (key.toList ++ (ws' ++ cs))) =
      if v.nesting ≤ n then .found (key, v) mid else .broken .tooDeep := by
  have hstart : skipSpace (ws' ++ cs) = cs := by
    rw [skipSpace_append hws', skipSpace_of_derivesValue hv]
  have hlength : ¬cs.length = (ws' ++ cs).length := by
    have := List.length_pos_iff.2 hne
    rw [List.length_append]
    omega
  unfold readArgument
  rw [skipSpace_append hws, skipSpace_cons (by decide)]
  simp only [readName?_append hkey (stops_continuesName_of_isSpacing hws' hne cs), hstart,
    if_neg hlength, hvalue.derived hv]
  by_cases hn : v.nesting ≤ n
  · simp only [if_pos hn]
  · simp only [if_neg hn, Fault.inside]

theorem readArguments_eq {n : Nat} {value : ValueReader} (hvalue : ReadsWithin n value)
    {args : List (String × Value)} {cs rest : List Char} {rounds : Nat}
    (h : DerivesArgs cs args rest) (hend : readArgument value rest = .absent)
    (hrounds : cs.length ≤ rounds) :
    readArguments value rounds cs =
      if argsNesting args ≤ n then .found args rest else .broken .tooDeep := by
  induction args generalizing cs rounds with
  | nil =>
      cases h
      cases rounds with
      | zero => simp [readArguments, argsNesting]
      | succ rounds => simp [readArguments, argsNesting, hend]
  | cons arg args ih =>
      obtain ⟨key, v⟩ := arg
      cases h with
      | @cons _ _ _ mid _ _ _ _ hws hkey hws' hne hv hargs =>
          simp only [List.length_append, List.length_cons] at hrounds
          have hlength := hv.length_lt
          obtain ⟨rounds, rfl⟩ : ∃ k, rounds = k + 1 := ⟨rounds - 1, by omega⟩
          -- The argument took a character, so the rounds that remain suffice for the others.
          have hmid : mid.length ≤ rounds := by omega
          have htail := ih hargs hmid
          rw [readArguments, readArgument_eq hvalue hws hkey hws' hne hv]
          simp only [argsNesting, Nat.max_le]
          by_cases hn : v.nesting ≤ n
          · by_cases hargs : argsNesting args ≤ n <;> simp [hn, hargs, htail, Attempt.map]
          · simp [hn]

theorem head?_skipSpace_of_derivesItems {cs ws rest : List Char} {items : List Value}
    (h : DerivesItems cs items (ws ++ ']' :: rest)) (hws : IsSpacing ws) :
    (skipSpace cs).head? ≠ some ',' := by
  cases h with
  | nil =>
      rw [skipSpace_append hws, skipSpace_cons (by decide)]
      simp
  | cons hv =>
      rw [skipSpace_of_derivesValue hv]
      obtain ⟨c, tail, rfl, -, hcomma⟩ := hv.head
      simpa using hcomma

theorem readItems_eq {n : Nat} {value : ValueReader} (hvalue : ReadsWithin n value)
    {items : List Value} {cs ws rest : List Char} {rounds : Nat}
    (h : DerivesItems cs items (ws ++ ']' :: rest)) (hws : IsSpacing ws)
    (hrounds : cs.length ≤ rounds) :
    readItems value rounds (skipSpace cs) =
      if itemsNesting items ≤ n then .found items (']' :: rest) else .broken .tooDeep := by
  induction items generalizing cs rounds with
  | nil =>
      cases h
      simp only [List.length_append, List.length_cons] at hrounds
      obtain ⟨rounds, rfl⟩ : ∃ k, rounds = k + 1 := ⟨rounds - 1, by omega⟩
      rw [skipSpace_append hws, skipSpace_cons (by decide)]
      simp [readItems, itemsNesting, hvalue.closing]
  | cons v items ih =>
      cases h with
      | @cons _ _ mid _ _ _ hv hsep hitems =>
          have hlength := hv.length_lt
          rw [List.length_append] at hlength
          obtain ⟨rounds, rfl⟩ : ∃ k, rounds = k + 1 := ⟨rounds - 1, by omega⟩
          have hmid : mid.length ≤ rounds := by omega
          have htail := ih hitems hmid
          rw [skipSpace_of_derivesValue hv, readItems, hvalue.derived hv]
          simp only [itemsNesting, Nat.max_le]
          by_cases hn : v.nesting ≤ n
          · rw [if_pos hn]
            simp only [hn, true_and,
              skipSeparator_append hsep (head?_skipSpace_of_derivesItems hitems hws), htail]
            by_cases hitems : itemsNesting items ≤ n <;> simp [hitems, Attempt.map]
          · simp [hn]

/-! ### Brackets -/

theorem close_append {α : Type} {closing : Char} (hclosing : isSpace closing = false)
    (name : String) (a : α) {ws : List Char} (hws : IsSpacing ws) (rest : List Char) :
    close closing name a (ws ++ closing :: rest) = .found a rest := by
  simp [close, skipSpace_append hws, skipSpace_cons hclosing]

theorem stops_continuesName_of_derivesArgs {cs ws rest : List Char}
    {args : List (String × Value)} (h : DerivesArgs cs args (ws ++ ')' :: rest))
    (hws : IsSpacing ws) : Stops continuesName cs := by
  have hstops {ws : List Char} (hws : IsSpacing ws) {c : Char} (hc : continuesName c = false)
      (cs : List Char) : Stops continuesName (ws ++ c :: cs) := by
    by_cases hne : ws = []
    · simpa [hne] using hc
    · exact stops_continuesName_of_isSpacing hws hne _
  cases h with
  | nil => exact hstops hws (by decide) rest
  | cons hws' => exact hstops hws' (by decide) _

/-- No argument begins at the closing parenthesis. -/
theorem readArgument_closing (value : ValueReader) {ws : List Char} (hws : IsSpacing ws)
    (rest : List Char) : readArgument value (ws ++ ')' :: rest) = .absent := by
  rw [readArgument, skipSpace_append hws, skipSpace_cons (by decide)]
  split
  · next heq => simp at heq
  · rfl

theorem readExprWith_eq {n : Nat} {value? : Option ValueReader} (hvalue : Opens n value?)
    {cs rest : List Char} {e : Expr} (h : DerivesExpr cs e rest) :
    readExprWith value? cs =
      if e.nesting ≤ n then .found e rest else .broken .tooDeep := by
  cases h with
  | @node ws cs ws' _ tag args hws htag hargs hws' =>
      cases hvalue with
      | closed => simp [readExprWith, Expr.nesting]
      | @opened n value hvalue =>
          have hname := readName?_append htag (stops_continuesName_of_derivesArgs hargs hws')
          have hread := readArguments_eq hvalue hargs (readArgument_closing value hws' rest)
            (Nat.le_refl _)
          have hstart : skipSpace (ws ++ (tag.toList ++ cs)) = tag.toList ++ cs := by
            rw [skipSpace_append hws, skipSpace_of_isName htag]
          simp only [readExprWith, hstart, hname, hread, Expr.nesting, Nat.add_le_add_iff_right]
          by_cases hn : argsNesting args ≤ n
          · simp only [if_pos hn]
            exact close_append (by decide) _ _ hws' rest
          · simp only [if_neg hn]

theorem readListWith_eq {n : Nat} {value? : Option ValueReader} (hvalue : Opens n value?)
    {ws cs ws' rest : List Char} {items : List Value} (hws : IsSpacing ws)
    (hitems : DerivesItems cs items (ws' ++ ']' :: rest)) (hws' : IsSpacing ws') :
    readListWith value? ('[' :: (ws ++ cs)) =
      if itemsNesting items + 1 ≤ n then .found items rest else .broken .tooDeep := by
  cases hvalue with
  | closed => simp [readListWith]
  | @opened n value hvalue =>
      have hrounds : cs.length ≤ (ws ++ cs).length := by simp
      have hread := readItems_eq hvalue hitems hws' hrounds
      simp only [readListWith, skipSpace_append hws, hread, Nat.add_le_add_iff_right]
      by_cases hn : itemsNesting items ≤ n
      · simp only [if_pos hn]
        exact close_append (by decide) _ _ isSpacing_nil rest
      · simp only [if_neg hn]

/-! ### Values at every level -/

theorem readsWithin_readValueWith {n : Nat} {value? : Option ValueReader}
    (hvalue : Opens n value?) : ReadsWithin n (readValueWith value?) where
  derived {cs rest v} h := by
    by_cases hv : v.nesting = 0
    · simp [readValueWith, readScalar?_of_derivesValue h hv, hv]
    -- Only a bracket is left, and no literal, string or number begins with one.
    · cases h with
      | yes | no | nil | string | integer => simp [Value.nesting] at hv
      | @expr _ _ e he =>
          have hread := readExprWith_eq hvalue he
          have hscalar : readScalar? cs = none := by
            cases he
            exact readScalar?_paren _
          simp only [readValueWith, hscalar, hread, Value.nesting]
          by_cases hn : e.nesting ≤ n <;> simp [hn]
      | @list ws cs ws' _ items hws hitems hws' =>
          have hread := readListWith_eq hvalue hws hitems hws'
          have hexpr : readExprWith value? ('[' :: (ws ++ cs)) = .absent := by
            simp [readExprWith]
          simp only [readValueWith, readScalar?_bracket, hexpr, hread, Value.nesting]
          by_cases hn : itemsNesting items + 1 ≤ n <;> simp [hn, Attempt.map]
  closing cs := by
    simp [readValueWith, readScalar?_cons, readInteger?, natural?, readExprWith, readListWith,
      Attempt.map]

theorem readsWithin_readValueAt (n : Nat) : ReadsWithin n (readValueAt n) := by
  induction n with
  | zero => exact readsWithin_readValueWith .closed
  | succ n ih => exact readsWithin_readValueWith (.opened ih)

/-- What the reader makes of a text that the grammar derives: its tree, or that it nests too
deeply. -/
theorem ofText_eq_of_derivesText {s : String} {e : Expr} (h : DerivesText s e) :
    ofText s = if e.nesting ≤ maxNesting then .ok e else .error .tooDeep := by
  cases h with
  | @intro ws cs ws' _ hws he hws' =>
      have hopens : Opens maxNesting (some (readValueAt (maxNesting - 1))) :=
        .opened (readsWithin_readValueAt _)
      have hread : read cs = if e.nesting ≤ maxNesting then .found e ws' else .broken .tooDeep :=
        readExprWith_eq hopens he
      have hstart : skipSpace (ws ++ cs) = cs := by
        rw [skipSpace_append hws, skipSpace_of_derivesValue (.expr he)]
      have hend : skipSpace ws' = [] := by
        rw [← List.append_nil ws', skipSpace_append hws']
        rfl
      simp only [ofText, ofChars, String.toList_ofList, hstart, hread]
      by_cases hn : e.nesting ≤ maxNesting
      · simp [hn, hend]
      · simp [hn]

/-! ### One tree for a text -/

/-- A text begins with at most one value, however deeply it nests. -/
theorem DerivesValue.unique {cs rest rest' : List Char} {v v' : Value}
    (h : DerivesValue cs v rest) (h' : DerivesValue cs v' rest') : v = v' ∧ rest = rest' := by
  -- On a level where the reader takes both values, what it finds is both of them.
  have hreads := readsWithin_readValueAt (max v.nesting v'.nesting)
  have hfound := hreads.derived h
  rw [hreads.derived h', if_pos (Nat.le_max_left ..), if_pos (Nat.le_max_right ..)] at hfound
  simp only [Attempt.found.injEq] at hfound
  exact ⟨hfound.1.symm, hfound.2.symm⟩

theorem DerivesText.unique {s : String} {e e' : Expr} (h : DerivesText s e)
    (h' : DerivesText s e') : e = e' := by
  generalize ht : s = t at h'
  cases h with
  | intro hws he hws' =>
      cases h' with
      | intro hws₂ he₂ hws₂' =>
          have hcs := congrArg (skipSpace ∘ String.toList) ht
          simp only [Function.comp_apply, String.toList_ofList, skipSpace_append hws,
            skipSpace_append hws₂, skipSpace_of_derivesValue (.expr he),
            skipSpace_of_derivesValue (.expr he₂)] at hcs
          subst hcs
          simpa using ((DerivesValue.expr he).unique (.expr he₂)).1

end Expr

end BuildPicker
