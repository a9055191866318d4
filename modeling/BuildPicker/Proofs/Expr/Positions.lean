import BuildPicker.Proofs.Expr.Soundness
import BuildPicker.Proofs.Expr.Spelling

/-!
Where the reader finds fault with a text.

A fault has marks from the innermost construct outwards. The text before the first of
them is still the beginning of some text that can be read, so the reader never goes
past the first real mistake. This holds of each part of a text by itself: what has
been read of it can be completed, and then also the parts around it. A part that was
tried and found absent leaves no mark; what was read before it can be completed as
well.
-/

namespace BuildPicker

open BuildPicker.Text

namespace Expr

/-! ### Places in a part of a text -/

/-- The marks of a fault lie in `cs`, the outer ones no later than the inner ones, and what stands
before the innermost has a property. -/
structure Located (P : List Char → Prop) (cs : List Char) (trace : List Mark) : Prop where
  within : ∀ mark ∈ trace, mark.rest <:+ cs
  outwards : trace.Pairwise fun inner outer => inner.rest <:+ outer.rest
  first : ∃ mark ∈ trace.head?, ∃ before, cs = before ++ mark.rest ∧ P before

/-- Something has been read, and can be completed to what is derived whatever follows. -/
def Completable (derives : List Char → List Char → Prop) (before : List Char) : Prop :=
  before ≠ [] ∧ ∃ completion, ∀ rest, derives (before ++ (completion ++ rest)) rest

namespace Located

variable {P Q : List Char → Prop} {derives derives' : List Char → List Char → Prop}
  {before cs place : List Char} {trace : List Mark}

/-- Marks that are all at one place. -/
theorem of_forall (hne : trace ≠ []) (hplace : ∀ mark ∈ trace, mark.rest = place)
    (hbefore : P before) : Located P (before ++ place) trace where
  within mark hmark := by
    rw [hplace mark hmark]
    exact List.suffix_append before place
  outwards := by
    apply List.pairwise_of_forall_mem_list
    intro inner hinner outer houter
    have hsame : inner.rest = outer.rest := (hplace inner hinner).trans (hplace outer houter).symm
    exact hsame ▸ List.suffix_refl inner.rest
  first := by
    rcases List.exists_cons_of_ne_nil hne with ⟨mark, marks, rfl⟩
    exact ⟨mark, rfl, before, by rw [hplace mark List.mem_cons_self], hbefore⟩

/-- A further mark for the whole part. -/
theorem append (h : Located P cs trace) (expectation : Expectation) :
    Located P cs (trace ++ [⟨cs, expectation⟩]) where
  within mark hmark := by
    rcases List.mem_append.1 hmark with hmark | hmark
    · exact h.within mark hmark
    · obtain rfl := List.mem_singleton.1 hmark
      exact List.suffix_refl cs
  outwards := by
    refine List.pairwise_append.2 ⟨h.outwards, List.pairwise_singleton _ _, ?_⟩
    intro inner hinner outer houter
    rw [List.mem_singleton.1 houter]
    exact h.within inner hinner
  first := by
    rcases h.first with ⟨mark, hmark, hbefore⟩
    refine ⟨mark, ?_, hbefore⟩
    rw [List.head?_append, Option.mem_def.1 hmark]
    rfl

/-- The same places where something stands before all of them. -/
theorem behind (h : Located P cs trace) (opening : List Char)
    (himp : ∀ before place, cs = before ++ place → P before → Q (opening ++ before)) :
    Located Q (opening ++ cs) trace where
  within mark hmark := (h.within mark hmark).trans (List.suffix_append opening cs)
  outwards := h.outwards
  first := by
    rcases h.first with ⟨mark, hmark, before, rfl, hbefore⟩
    exact ⟨mark, hmark, opening ++ before, (List.append_assoc ..).symm, himp _ _ rfl hbefore⟩

/-- The same places in a larger part, if this is derived once the smaller one is. As something
stands before each of the places, no digit comes to stand behind a number. -/
theorem enclosed (h : Located (Completable derives) cs trace) (opening closing : List Char)
    (himp : ∀ cs' rest, (Stops Char.isDigit cs → Stops Char.isDigit cs') →
      derives cs' (closing ++ rest) → derives' (opening ++ cs') rest) :
    Located (Completable derives') (opening ++ cs) trace := by
  apply h.behind
  rintro before place rfl ⟨hne, completion, hderives⟩
  refine ⟨by simp [hne], completion ++ closing, fun rest => ?_⟩
  have hstops : Stops Char.isDigit (before ++ place) →
      Stops Char.isDigit (before ++ (completion ++ (closing ++ rest))) := by
    rcases List.exists_cons_of_ne_nil hne with ⟨c, tail, rfl⟩
    simp
  simpa using himp _ rest hstops (hderives (closing ++ rest))

theorem imp (h : Located (Completable derives) cs trace)
    (himp : ∀ cs' rest, derives cs' rest → derives' cs' rest) :
    Located (Completable derives') cs trace :=
  h.enclosed [] [] fun cs' rest _ => himp cs' rest

end Located

end Expr

theorem Attempt.map_eq_broken_iff {α β : Type} {f : α → β} {a : Attempt α} {fault : Fault} :
    a.map f = .broken fault ↔ a = .broken fault := by
  cases a with
  | found | absent | broken => simp [Attempt.map]

namespace Expr

/-! ### What is derived within a limit -/

def DerivesValueWithin (n : Nat) (cs rest : List Char) : Prop :=
  ∃ v : Value, v.nesting ≤ n ∧ DerivesValue cs v rest

def DerivesExprWithin (n : Nat) (cs rest : List Char) : Prop :=
  ∃ e : Expr, e.nesting ≤ n ∧ DerivesExpr cs e rest

def DerivesArgsWithin (n : Nat) (cs rest : List Char) : Prop :=
  ∃ args : List (String × Value), argsNesting args ≤ n ∧ DerivesArgs cs args rest

def DerivesItemsWithin (n : Nat) (cs rest : List Char) : Prop :=
  ∃ items : List Value, itemsNesting items ≤ n ∧ DerivesItems cs items rest

/-- A reader of values that finds just what the grammar derives within `n` levels, and finds fault
with a text only behind what can be completed to such a value. -/
structure Locates (n : Nat) (value : ValueReader) : Prop extends ReadsWithin n value where
  sound : IsSound value
  located {cs : List Char} {trace : List Mark} (h : value cs = .broken (.unexpected trace)) :
    Located (Completable (DerivesValueWithin n)) cs trace

section

variable {n : Nat} {value : ValueReader} {cs rest : List Char} {trace : List Mark}

theorem Locates.derivesValueWithin (hvalue : Locates n value) {v : Value}
    (h : value cs = .found v rest) : v.nesting ≤ n ∧ DerivesValue cs v rest := by
  have hv := hvalue.sound h
  rw [hvalue.derived hv] at h
  split at h
  · next hn => exact ⟨hn, hv⟩
  · cases h

/-! ### Arguments -/

theorem DerivesArgs.append {mid : List Char} {args args' : List (String × Value)}
    (h : DerivesArgs cs args mid) (h' : DerivesArgs mid args' rest) :
    DerivesArgs cs (args ++ args') rest := by
  induction args generalizing cs with
  | nil =>
      cases h
      exact h'
  | cons arg args ih =>
      cases h with
      | cons hws hkey hws' hne hv hargs => exact .cons hws hkey hws' hne hv (ih hargs)

theorem DerivesArgs.spelled {args : List (String × Value)} (h : DerivesArgs cs args rest) :
    IsSpelled (DerivesArgs · args ·) cs rest :=
  h.isSpelled fun _ _ _ _ hv => hv.isSpelled

theorem Locates.derivesArgs_of_readArgument (hvalue : Locates n value) {arg : String × Value}
    (h : readArgument value cs = .found arg rest) :
    arg.2.nesting ≤ n ∧ DerivesArgs cs [arg] rest := by
  have harg := Expr.derivesArgs_of_readArgument hvalue.sound h (.nil rest)
  refine ⟨?_, harg⟩
  cases harg with
  | cons hws hkey hws' hne hv hargs =>
      cases hargs
      rw [readArgument_eq hvalue.toReadsWithin hws hkey hws' hne hv] at h
      split at h
      · assumption
      · cases h

theorem Locates.derivesArgs_of_readArguments (hvalue : Locates n value) {rounds : Nat}
    {args : List (String × Value)} (h : readArguments value rounds cs = .found args rest) :
    argsNesting args ≤ n ∧ DerivesArgs cs args rest := by
  refine ⟨?_, Expr.derivesArgs_of_readArguments hvalue.sound h⟩
  induction rounds generalizing cs args with
  | zero =>
      cases h
      exact Nat.zero_le n
  | succ rounds ih =>
      rw [readArguments] at h
      split at h
      · next arg mid harg =>
          rcases Attempt.map_eq_found_iff.1 h with ⟨args, hargs, rfl⟩
          exact Nat.max_le.2 ⟨(hvalue.derivesArgs_of_readArgument harg).1, ih hargs⟩
      · cases h
        exact Nat.zero_le n
      · cases h

theorem located_of_readArgument (hvalue : Locates n value)
    (h : readArgument value cs = .broken (.unexpected trace)) :
    Located (Completable (DerivesArgsWithin n)) cs trace := by
  rcases readArgument_cases value cs with
    habsent | ⟨ws, key, ws', start, hws, hkey, hws', hne, hcs, hread⟩
  · rw [habsent] at h
    cases h
  · have hderives (cs' rest : List Char) (hv : DerivesValueWithin n cs' rest) :
        DerivesArgsWithin n (ws ++ ':' :: (key.toList ++ ws') ++ cs') rest := by
      rcases hv with ⟨v, hn, hv⟩
      refine ⟨[(key, v)], by simpa [argsNesting] using hn, ?_⟩
      simpa using DerivesArgs.cons hws hkey hws' hne hv (.nil rest)
    have hopening : cs = ws ++ ':' :: (key.toList ++ ws') ++ start := by simpa using hcs
    rw [hread] at h
    rw [hopening]
    split at h
    · cases h
    · next fault hfault =>
        cases fault with
        | tooDeep => cases h
        | unexpected inner =>
            cases h
            apply ((hvalue.located hfault).append _).enclosed _ []
            exact fun cs' rest _ => hderives cs' rest
    · cases h
      -- No value has been begun, so any completes the argument.
      have hnil : Completable (DerivesArgsWithin n) (ws ++ ':' :: (key.toList ++ ws')) :=
        ⟨by simp, ['n', 'i', 'l'], fun rest =>
          hderives _ rest ⟨.nil, Nat.zero_le n, .nil rest⟩⟩
      exact .of_forall (by simp) (by simp) hnil

theorem located_of_readArguments (hvalue : Locates n value) {rounds : Nat}
    (h : readArguments value rounds cs = .broken (.unexpected trace)) :
    Located (Completable (DerivesArgsWithin n)) cs trace := by
  induction rounds generalizing cs with
  | zero => cases h
  | succ rounds ih =>
      rw [readArguments] at h
      split at h
      · next arg mid harg =>
          rcases hvalue.derivesArgs_of_readArgument harg with ⟨hn, hderives⟩
          -- The argument that was found stays one with another text behind it.
          rcases hderives.spelled with ⟨spelling, rfl, hspelling⟩
          apply (ih (Attempt.map_eq_broken_iff.1 h)).enclosed spelling []
          rintro cs' rest hstops ⟨args, hargs, hderives'⟩
          exact ⟨[arg] ++ args, Nat.max_le.2 ⟨hn, hargs⟩, (hspelling cs' hstops).append hderives'⟩
      · cases h
      · next fault hfault =>
          cases h
          exact located_of_readArgument hvalue hfault

/-! ### Items -/

theorem Locates.derivesItems_of_readItems (hvalue : Locates n value) {rounds : Nat}
    {items : List Value} (h : readItems value rounds cs = .found items rest) :
    itemsNesting items ≤ n ∧ DerivesItems cs items rest := by
  refine ⟨?_, Expr.derivesItems_of_readItems hvalue.sound h⟩
  induction rounds generalizing cs items with
  | zero =>
      cases h
      exact Nat.zero_le n
  | succ rounds ih =>
      rw [readItems] at h
      split at h
      · next item mid hitem =>
          rcases Attempt.map_eq_found_iff.1 h with ⟨items, hitems, rfl⟩
          exact Nat.max_le.2 ⟨(hvalue.derivesValueWithin hitem).1, ih hitems⟩
      · cases h
        exact Nat.zero_le n
      · cases h

theorem located_of_readItems (hvalue : Locates n value) {rounds : Nat}
    (h : readItems value rounds cs = .broken (.unexpected trace)) :
    Located (Completable (DerivesItemsWithin n)) cs trace := by
  induction rounds generalizing cs with
  | zero => cases h
  | succ rounds ih =>
      rw [readItems] at h
      split at h
      · next item mid hitem =>
          rcases hvalue.derivesValueWithin hitem with ⟨hn, hderives⟩
          rcases hderives.isSpelled with ⟨spelling, rfl, hspelling⟩
          rcases exists_isSeparator mid with ⟨sep, hsep, hmid⟩
          have hlocated := ih (Attempt.map_eq_broken_iff.1 h)
          generalize skipSeparator mid = next at hlocated hmid
          subst hmid
          rw [← List.append_assoc]
          apply hlocated.enclosed (spelling ++ sep) []
          rintro cs' rest hstops ⟨items, hitems, hderives'⟩
          have hitem' := hspelling (sep ++ cs') (Stops.append_congr hstops sep)
          rw [List.append_assoc]
          exact ⟨item :: items, Nat.max_le.2 ⟨hn, hitems⟩, .cons hitem' hsep hderives'⟩
      · cases h
      · next fault hfault =>
          cases h
          apply (hvalue.located hfault).imp
          rintro cs' rest ⟨v, hn, hv⟩
          have hv' : DerivesValue cs' v ([] ++ rest) := hv
          exact ⟨[v], by simpa [itemsNesting] using hn,
            .cons hv' (.blank isSpacing_nil) (.nil rest)⟩

/-! ### Brackets -/

/-- Where a closing character is missing it can be put. -/
theorem located_of_close {α : Type} {closing : Char} {name : String} {a : α} {opening cs : List Char}
    {derives : List Char → List Char → Prop} (hne : opening ≠ [])
    (h : close closing name a cs = .broken (.unexpected trace))
    (hderives : ∀ ws rest, IsSpacing ws → (Stops Char.isDigit cs →
      Stops Char.isDigit (ws ++ closing :: rest)) → derives (opening ++ (ws ++ closing :: rest)) rest)
    (hclosing : closing.isDigit = false) :
    Located (Completable derives) (opening ++ cs) trace := by
  rcases close_cases closing name a cs with ⟨ws, start, hws, rfl, ⟨rest, -, hfound⟩ | hbroken⟩
  · rw [hfound] at h
    cases h
  · rw [hbroken] at h
    cases h
    have hclosed : Completable derives (opening ++ ws) := by
      refine ⟨by simp [hne], [closing], fun rest => ?_⟩
      have hstops : Stops Char.isDigit (ws ++ start) →
          Stops Char.isDigit (ws ++ closing :: rest) :=
        Stops.append_congr (fun _ => by simpa using hclosing) ws
      simpa using hderives ws rest hws hstops
    rw [← List.append_assoc]
    exact .of_forall (by simp) (by simp) hclosed

/-- Any name is a tag. -/
theorem derivesExpr_bare {ws : List Char} (hws : IsSpacing ws) (rest : List Char) :
    DerivesExpr ('(' :: (ws ++ ("a".toList ++ ')' :: rest))) (.node "a" []) rest := by
  have hname : isName "a".toList := by decide
  have hargs : DerivesArgs (')' :: rest) [] ([] ++ ')' :: rest) := .nil _
  exact .node hws hname hargs isSpacing_nil

theorem located_of_readExprWith (hvalue : Locates n value)
    (h : readExprWith (some value) cs = .broken (.unexpected trace)) :
    Located (Completable (DerivesExprWithin (n + 1))) cs trace := by
  unfold readExprWith at h
  split at h
  · next cs =>
      rcases exists_isSpacing cs with ⟨ws, hws, hcs⟩
      dsimp only at h
      split at h
      · cases h
        have htag : Completable (DerivesExprWithin (n + 1)) ('(' :: ws) :=
          ⟨by simp, ['a', ')'], fun rest =>
            ⟨.node "a" [], Nat.le_add_left 1 n, by simpa using derivesExpr_bare hws rest⟩⟩
        have hopening : '(' :: cs = '(' :: ws ++ skipSpace cs := congrArg _ hcs
        rw [hopening]
        exact .of_forall (by simp) (by simp) htag
      · next tag mid hname =>
          rcases isName_of_readName? hname with ⟨htag, hstart⟩
          rw [hcs, hstart]
          have hnode (args : List (String × Value)) (hn : argsNesting args ≤ n)
              {cs' ws' rest : List Char} (hws' : IsSpacing ws')
              (hargs : DerivesArgs cs' args (ws' ++ ')' :: rest)) :
              DerivesExprWithin (n + 1) ('(' :: (ws ++ (tag.toList ++ cs'))) rest :=
            ⟨.node tag args, Nat.add_le_add_right hn 1, .node hws htag hargs hws'⟩
          have hopening (cs' : List Char) : '(' :: (ws ++ (tag.toList ++ cs')) =
              '(' :: (ws ++ tag.toList) ++ cs' := by simp
          split at h
          · next args mid' hargs =>
              -- The next argument was absent, so the parenthesis can be put after the last.
              rcases hvalue.derivesArgs_of_readArguments hargs with ⟨hn, hderives⟩
              rcases hderives.spelled with ⟨spelling, rfl, hspelling⟩
              rw [hopening, ← List.append_assoc]
              apply located_of_close (by simp) h
              · intro ws' rest hws' hstops
                simpa using hnode args hn hws' (hspelling _ hstops)
              · decide
          · cases h
          · next fault hfault =>
              cases h
              rw [hopening]
              apply (located_of_readArguments hvalue hfault).enclosed _ [')']
              rintro cs' rest - ⟨args, hn, hargs⟩
              rw [← hopening]
              exact hnode args hn isSpacing_nil hargs
  · cases h

theorem Locates.derivesExpr_of_readExprWith (hvalue : Locates n value) {e : Expr}
    (h : readExprWith (some value) cs = .found e rest) :
    e.nesting ≤ n + 1 ∧ DerivesExpr cs e rest := by
  have hsound : ∀ value', some value = some value' → IsSound value' := by
    rintro value' ⟨rfl⟩
    exact hvalue.sound
  have he := Expr.derivesExpr_of_readExprWith hsound h
  rw [readExprWith_eq (.opened hvalue.toReadsWithin) he] at h
  split at h
  · next hn => exact ⟨hn, he⟩
  · cases h

theorem located_of_readListWith (hvalue : Locates n value)
    (h : readListWith (some value) cs = .broken (.unexpected trace)) :
    Located (Completable (DerivesValueWithin (n + 1))) cs trace := by
  unfold readListWith at h
  split at h
  · next cs =>
      rcases exists_isSpacing cs with ⟨ws, hws, hcs⟩
      dsimp only at h
      generalize skipSpace cs = start at h hcs
      subst hcs
      have hlist (items : List Value) (hn : itemsNesting items ≤ n) {cs' ws' rest : List Char}
          (hws' : IsSpacing ws') (hitems : DerivesItems cs' items (ws' ++ ']' :: rest)) :
          DerivesValueWithin (n + 1) ('[' :: ws ++ cs') rest :=
        ⟨.list items, Nat.add_le_add_right hn 1, .list hws hitems hws'⟩
      show Located _ ('[' :: ws ++ start) trace
      split at h
      · next items mid hitems =>
          rcases hvalue.derivesItems_of_readItems hitems with ⟨hn, hderives⟩
          rcases hderives.isSpelled (fun _ _ _ _ hv => hv.isSpelled) with
            ⟨spelling, rfl, hspelling⟩
          rw [← List.append_assoc]
          apply located_of_close (by simp) h
          · intro ws' rest hws' hstops
            rw [List.append_assoc]
            exact hlist items hn hws' (hspelling _ hstops)
          · decide
      · cases h
      · next fault hfault =>
          cases h
          apply (located_of_readItems hvalue hfault).enclosed _ [']']
          rintro cs' rest - ⟨items, hn, hitems⟩
          exact hlist items hn isSpacing_nil hitems
  · cases h

end

/-! ### Values at every level -/

/-- No bracket may be opened, so no fault but this is found. -/
theorem readValueWith_none_ne (cs : List Char) (trace : List Mark) :
    readValueWith none cs ≠ .broken (.unexpected trace) := by
  intro h
  unfold readValueWith at h
  split at h
  · cases h
  · split at h
    · cases h
    · next fault hfault =>
        cases h
        unfold readExprWith at hfault
        split at hfault
        · cases hfault
        · cases hfault
    · have hlist := Attempt.map_eq_broken_iff.1 h
      unfold readListWith at hlist
      split at hlist
      · cases hlist
      · cases hlist

theorem located_of_readValueWith {n : Nat} {value : ValueReader} (hvalue : Locates n value)
    {cs : List Char} {trace : List Mark}
    (h : readValueWith (some value) cs = .broken (.unexpected trace)) :
    Located (Completable (DerivesValueWithin (n + 1))) cs trace := by
  unfold readValueWith at h
  split at h
  · cases h
  · split at h
    · cases h
    · next fault hfault =>
        cases h
        apply (located_of_readExprWith hvalue hfault).imp
        rintro cs' rest ⟨e, hn, he⟩
        exact ⟨.expr e, hn, .expr he⟩
    · exact located_of_readListWith hvalue (Attempt.map_eq_broken_iff.1 h)

theorem locates_readValueAt (n : Nat) : Locates n (readValueAt n) := by
  induction n with
  | zero =>
      refine ⟨readsWithin_readValueAt 0, isSound_readValueAt 0, ?_⟩
      intro cs trace h
      exact absurd h (readValueWith_none_ne cs trace)
  | succ n ih =>
      exact ⟨readsWithin_readValueAt _, isSound_readValueAt _, located_of_readValueWith ih⟩

/-! ### Whole texts -/

/-- Whether what stands before a place is the beginning of a text that can be read. -/
def IsViable (before : List Char) : Prop :=
  ∃ completion e, ofText (String.ofList (before ++ completion)) = .ok e

theorem isViable_of_derivesExprWithin {before completion ws cs ws' : List Char}
    (hws : IsSpacing ws) (hws' : IsSpacing ws') (htext : before ++ completion = ws ++ cs)
    (h : DerivesExprWithin maxNesting cs ws') : IsViable before := by
  rcases h with ⟨e, hn, he⟩
  refine ⟨completion, e, ofText_eq_ok_iff.2 ⟨?_, hn⟩⟩
  rw [htext]
  exact .intro hws he hws'

theorem located_of_ofText {s : String} {trace : List Mark}
    (h : ofText s = .error (.unexpected trace)) : Located IsViable s.toList trace := by
  rcases exists_isSpacing s.toList with ⟨ws, hws, hcs⟩
  unfold ofText ofChars at h
  dsimp only at h
  generalize skipSpace s.toList = start at h hcs
  rw [hcs]
  have hvalue := locates_readValueAt (maxNesting - 1)
  split at h
  · next e rest hread =>
      rcases exists_isSpacing rest with ⟨ws', hws', hrest⟩
      generalize skipSpace rest = rest' at h hrest
      split at h
      · cases h
      · cases h
        -- What was read is the whole of another text.
        rcases hvalue.derivesExpr_of_readExprWith hread with ⟨hn, he⟩
        rcases (DerivesValue.expr he).isSpelled with ⟨spelling, rfl, hspelling⟩
        have he' : DerivesExprWithin maxNesting (spelling ++ ws') ws' := by
          have hstops : Stops Char.isDigit (ws' ++ rest') → Stops Char.isDigit (ws' ++ []) :=
            Stops.append_congr (fun _ => stops_nil _) ws'
          rw [List.append_nil] at hstops
          exact ⟨e, hn, derivesValue_expr_iff.1 (hspelling ws' (hrest ▸ hstops))⟩
        have hviable : IsViable (ws ++ (spelling ++ ws')) :=
          isViable_of_derivesExprWithin hws hws' (List.append_nil _) he'
        have htext : ws ++ (spelling ++ rest) = ws ++ (spelling ++ ws') ++ rest' := by
          rw [hrest, List.append_assoc, List.append_assoc]
        rw [htext]
        exact .of_forall (by simp) (by simp) hviable
  · cases h
    have hviable : IsViable ws :=
      isViable_of_derivesExprWithin hws isSpacing_nil rfl
        ⟨_, by decide, derivesExpr_bare isSpacing_nil []⟩
    exact .of_forall (by simp) (by simp) hviable
  · next fault hread =>
      cases h
      apply (located_of_readExprWith hvalue hread).behind
      rintro before place - ⟨-, completion, hderives⟩
      exact isViable_of_derivesExprWithin hws isSpacing_nil (List.append_assoc ..) (hderives [])

end Expr

/-! ### Positions in a text -/

namespace Place

/-- Where the place lies in its text, in bytes. -/
def position (p : Place) : String.Pos.Raw :=
  (String.ofList p.before).rawEndPos

theorem ofRest_append (before rest : List Char) : ofRest (before ++ rest) rest = ⟨before, rest⟩ := by
  have hlength : (before ++ rest).length - rest.length = before.length := by
    rw [List.length_append]
    omega
  rw [ofRest, hlength, List.take_left, List.drop_left]

theorem position_ofRest_le {text rest rest' : List Char} (htext : rest' <:+ text)
    (hrest : rest <:+ rest') : (ofRest text rest').position ≤ (ofRest text rest).position := by
  rcases htext with ⟨before, rfl⟩
  rcases hrest with ⟨between, rfl⟩
  rw [ofRest_append, ← List.append_assoc, ofRest_append, String.Pos.Raw.le_iff]
  show (String.ofList before).utf8ByteSize ≤ (String.ofList (before ++ between)).utf8ByteSize
  rw [String.ofList_append, String.utf8ByteSize_append]
  exact Nat.le_add_right _ _

end Place

namespace Expr

/-- The marks of a fault lie between characters of the text and no mark lies before one that stands
further out. What the text holds before the first mark is the beginning of a text that can be read,
so the reader has not gone past the first mistake. -/
theorem viable_of_ofText {s : String} {trace : List Mark}
    (h : ofText s = .error (.unexpected trace)) :
    let place (mark : Mark) := Place.ofRest s.toList mark.rest
    (∀ mark ∈ trace, (place mark).position.IsValid s ∧
      s = String.ofList (place mark).before ++ String.ofList (place mark).after ∧
      (place mark).after = mark.rest) ∧
    (trace.Pairwise fun inner outer => (place outer).position ≤ (place inner).position) ∧
    ∃ mark ∈ trace.head?, ∃ completion e,
      ofText (String.ofList ((place mark).before ++ completion)) = .ok e := by
  intro place
  have hlocated := located_of_ofText h
  refine ⟨?_, ?_, ?_⟩
  · intro mark hmark
    rcases hlocated.within mark hmark with ⟨before, hs⟩
    have hplace : place mark = ⟨before, mark.rest⟩ := by
      show Place.ofRest s.toList mark.rest = _
      rw [← hs, Place.ofRest_append]
    have hparts : s = String.ofList before ++ String.ofList mark.rest := by
      rw [← String.ofList_append, hs, String.ofList_toList]
    rw [hplace]
    exact ⟨String.Pos.Raw.isValid_iff_exists_append.2 ⟨_, _, hparts, rfl⟩, hparts, rfl⟩
  · refine hlocated.outwards.imp_of_mem ?_
    intro inner outer _ houter hsuffix
    exact Place.position_ofRest_le (hlocated.within outer houter) hsuffix
  · rcases hlocated.first with ⟨mark, hmark, before, hs, hviable⟩
    refine ⟨mark, hmark, ?_⟩
    show ∃ completion e,
      ofText (String.ofList ((Place.ofRest s.toList mark.rest).before ++ completion)) = .ok e
    rw [hs, Place.ofRest_append]
    exact hviable

/-- The last argument of an item has no value, so its key stands where the item should be closed. -/
theorem viable_of_ofText_unclosed :
    let text := "(a :b [(c :d 1 :e) 2])"
    let trace : List Mark := [⟨":e) 2])".toList, .char ')'⟩,
      ⟨":e) 2])".toList, .construct "closing parenthesis"⟩,
      ⟨"[(c :d 1 :e) 2])".toList, .construct "value"⟩]
    ofText text = .error (.unexpected trace) ∧
      ∃ completion e, ofText (String.ofList ("(a :b [(c :d 1 ".toList ++ completion)) = .ok e := by
  intro text trace
  have h : ofText text = .error (.unexpected trace) := by decide +kernel
  rcases viable_of_ofText h with ⟨-, -, mark, hmark, completion, e, hread⟩
  have hbefore : (Place.ofRest text.toList mark.rest).before = "(a :b [(c :d 1 ".toList := by
    cases hmark
    decide +kernel
  refine ⟨h, completion, e, ?_⟩
  rw [← hbefore]
  exact hread

end Expr

end BuildPicker
