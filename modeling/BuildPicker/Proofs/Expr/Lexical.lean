import BuildPicker.Proofs.Expr.Grammar
import BuildPicker.Proofs.Text.Numeral

/-!
What the readers of the smallest parts do, stated against the grammar.

Each reader has two lemmas. The first runs it on a spelling that the grammar
derives, with any text behind that cannot lengthen the part. The second finds
the spelling behind an answer.
-/

namespace BuildPicker

open BuildPicker.Text

namespace Expr

/-! ### Runs of characters -/

theorem stops_dropWhile (p : Char → Bool) (cs : List Char) : Stops p (cs.dropWhile p) := by
  intro c hc
  have := List.head?_dropWhile_not p cs
  rw [hc] at this
  simpa using this

theorem takeWhile_append_of_stops {p : Char → Bool} {run rest : List Char}
    (hrun : ∀ c ∈ run, p c) (hrest : Stops p rest) : (run ++ rest).takeWhile p = run := by
  rw [List.takeWhile_append_of_pos hrun]
  cases rest with
  | nil => simp
  | cons c rest =>
      rw [stops_cons] at hrest
      simp [hrest]

theorem dropWhile_append_of_stops {p : Char → Bool} {run rest : List Char}
    (hrun : ∀ c ∈ run, p c) (hrest : Stops p rest) : (run ++ rest).dropWhile p = rest := by
  rw [List.dropWhile_append_of_pos hrun]
  cases rest with
  | nil => rfl
  | cons c rest =>
      rw [stops_cons] at hrest
      simp [hrest]

/-! ### White space -/

theorem skipSpace_append {ws : List Char} (h : IsSpacing ws) (cs : List Char) :
    skipSpace (ws ++ cs) = skipSpace cs :=
  List.dropWhile_append_of_pos h

theorem skipSpace_cons {c : Char} (h : isSpace c = false) (cs : List Char) :
    skipSpace (c :: cs) = c :: cs := by
  simp [skipSpace, h]

theorem exists_isSpacing (cs : List Char) : ∃ ws, IsSpacing ws ∧ cs = ws ++ skipSpace cs :=
  ⟨cs.takeWhile isSpace, List.all_eq_true.1 List.all_takeWhile,
    List.takeWhile_append_dropWhile.symm⟩

theorem skipSpace_of_derivesValue {cs rest : List Char} {v : Value}
    (h : DerivesValue cs v rest) : skipSpace cs = cs := by
  obtain ⟨c, tail, rfl, hspace, -⟩ := h.head
  exact skipSpace_cons hspace tail

/-- A separator is skipped with all white space behind it, so long as no comma follows. -/
theorem skipSeparator_append {sep cs : List Char} (h : IsSeparator sep)
    (hcs : (skipSpace cs).head? ≠ some ',') : skipSeparator (sep ++ cs) = skipSpace cs := by
  cases h with
  | blank hws =>
      rw [skipSeparator, skipSpace_append hws]
      split
      · next heq => simp [heq] at hcs
      · rfl
  | @comma ws ws' hws hws' =>
      have hskip : skipSpace (ws ++ ',' :: ws' ++ cs) = ',' :: (ws' ++ cs) := by
        rw [List.append_assoc, skipSpace_append hws, List.cons_append,
          skipSpace_cons (by decide)]
      rw [skipSeparator, hskip]
      exact skipSpace_append hws' cs

theorem exists_isSeparator (cs : List Char) :
    ∃ sep, IsSeparator sep ∧ cs = sep ++ skipSeparator cs := by
  obtain ⟨ws, hws, hcs⟩ := exists_isSpacing cs
  unfold skipSeparator
  split
  · next rest heq =>
      obtain ⟨ws', hws', hrest⟩ := exists_isSpacing rest
      refine ⟨ws ++ ',' :: ws', .comma hws hws', ?_⟩
      rw [heq] at hcs
      rw [List.append_assoc, List.cons_append, ← hrest]
      exact hcs
  · exact ⟨ws, .blank hws, hcs⟩

/-! ### Names -/

theorem readName?_append {name : String} {rest : List Char} (h : isName name.toList)
    (hrest : Stops continuesName rest) :
    readName? (name.toList ++ rest) = some (name, rest) := by
  cases hname : name.toList with
  | nil => simp [hname, isName] at h
  | cons c cs =>
      simp only [hname, isName, Bool.and_eq_true, List.all_eq_true] at h
      rw [List.cons_append, readName?, if_pos h.1, takeWhile_append_of_stops h.2 hrest,
        dropWhile_append_of_stops h.2 hrest, ← hname, String.ofList_toList]

/-- A name begins with a character of its own, so no white space in front of it belongs to it. -/
theorem skipSpace_of_isName {name : String} (h : isName name.toList) (cs : List Char) :
    skipSpace (name.toList ++ cs) = name.toList ++ cs := by
  cases hname : name.toList with
  | nil => simp [hname, isName] at h
  | cons c tail =>
      simp only [hname, isName, Bool.and_eq_true] at h
      exact skipSpace_cons (isSpace_eq_false_of (by decide) h.1) _

theorem isName_of_readName? {cs rest : List Char} {name : String}
    (h : readName? cs = some (name, rest)) :
    isName name.toList ∧ cs = name.toList ++ rest := by
  cases cs with
  | nil => simp [readName?] at h
  | cons c cs =>
      rw [readName?] at h
      split at h
      · next hc =>
          simp only [Option.some.injEq, Prod.mk.injEq] at h
          obtain ⟨rfl, rfl⟩ := h
          rw [String.toList_ofList]
          refine ⟨?_, by simp⟩
          simp only [isName, hc, Bool.true_and]
          exact List.all_takeWhile
      · simp at h

/-! ### Strings -/

theorem unescape?_eq_some_iff {c d : Char} : unescape? c = some d ↔ Escapes c d := by
  constructor
  · intro h
    unfold unescape? at h
    split at h <;> simp only [Option.some.injEq, reduceCtorEq] at h <;> subst h <;> constructor
  · rintro ⟨⟩ <;> rfl

theorem readString?_plain {c : Char} (hquote : c ≠ '"') (hbackslash : c ≠ '\\')
    (cs : List Char) :
    readString? (c :: cs) = (readString? cs).map fun (s, rest) => (c :: s, rest) := by
  rw [readString?]
  · cases readString? cs <;> rfl
  · exact hquote
  · exact fun h _ => hbackslash h
  · exact fun _ _ h _ => hbackslash h

theorem readString?_append {body s : List Char} (h : DerivesBody body s) (rest : List Char) :
    readString? (body ++ '"' :: rest) = some (s, rest) := by
  induction h with
  | nil => rw [List.nil_append, readString?]
  | plain hquote hbackslash _ ih =>
      rw [List.cons_append, readString?_plain hquote hbackslash, ih, Option.map_some]
  | escape hc _ ih =>
      simp only [List.cons_append, readString?, unescape?_eq_some_iff.2 hc, ih]

theorem exists_derivesBody {cs s rest : List Char} (h : readString? cs = some (s, rest)) :
    ∃ body, DerivesBody body s ∧ cs = body ++ '"' :: rest := by
  fun_induction readString? cs generalizing s rest with
  | case1 | case3 | case5 | case7 => simp at h
  | case2 cs =>
      simp only [Option.some.injEq, Prod.mk.injEq] at h
      obtain ⟨rfl, rfl⟩ := h
      exact ⟨[], .nil, rfl⟩
  | case4 c cs d s' rest' hread hc ih =>
      simp only [Option.some.injEq, Prod.mk.injEq] at h
      obtain ⟨rfl, rfl⟩ := h
      obtain ⟨body, hbody, rfl⟩ := ih hread
      exact ⟨'\\' :: c :: body, .escape (unescape?_eq_some_iff.1 hc) hbody, rfl⟩
  | case6 c cs hquote hlast hescape s' rest' hread ih =>
      simp only [Option.some.injEq, Prod.mk.injEq] at h
      obtain ⟨rfl, rfl⟩ := h
      obtain ⟨body, hbody, rfl⟩ := ih hread
      refine ⟨c :: body, .plain hquote (fun hc => ?_) hbody, rfl⟩
      cases body with
      | nil => exact hescape _ _ hc rfl
      | cons d body => exact hescape d _ hc rfl

/-! ### Integers -/

theorem int64?_eq_some_iff {n : Int} {i : Int64} : int64? n = some i ↔ n = i.toInt := by
  unfold int64?
  split
  · next h =>
      have htoInt : (Int64.ofInt n).toInt = n :=
        Int64.toInt_ofInt_of_le (by omega) (by omega)
      rw [Option.some.injEq]
      constructor
      · rintro rfl
        exact htoInt.symm
      · intro hn
        rw [hn, Int64.ofInt_toInt]
  · next h =>
      have hlow := i.le_toInt
      have hhigh := i.toInt_lt
      simp only [reduceCtorEq, false_iff]
      omega

/-- What is read behind the sign: a whole run of digits, whose number fits 64 bits. -/
theorem readDigits_eq_some_iff {sign : Int} {cs rest : List Char} {i : Int64} :
    (match natural? (cs.takeWhile Char.isDigit) with
      | none => none
      | some n => (int64? (sign * n)).map (·, cs.dropWhile Char.isDigit)) = some (i, rest) ↔
      ∃ ds, ds ≠ [] ∧ (∀ c ∈ ds, c.isDigit) ∧ sign * Nat.ofDigitChars 10 ds 0 = i.toInt ∧
        Stops Char.isDigit rest ∧ cs = ds ++ rest := by
  constructor
  · intro h
    split at h
    · simp at h
    · next n hn =>
        obtain ⟨hne, hds, rfl⟩ := natural?_eq_some_iff.1 hn
        simp only [Option.map_eq_some_iff, Prod.mk.injEq, int64?_eq_some_iff] at h
        obtain ⟨j, hj, rfl, rfl⟩ := h
        exact ⟨_, hne, hds, hj, stops_dropWhile _ _, List.takeWhile_append_dropWhile.symm⟩
  · rintro ⟨ds, hne, hds, hi, hrest, rfl⟩
    rw [takeWhile_append_of_stops hds hrest, dropWhile_append_of_stops hds hrest,
      natural?_eq_some_iff.2 ⟨hne, hds, rfl⟩]
    simp [int64?_eq_some_iff.2 hi]

/-- An integer is read exactly where digits after an optional minus sign stand, all of them. -/
theorem readInteger?_eq_some_iff {cs rest : List Char} {i : Int64} :
    readInteger? cs = some (i, rest) ↔
      ∃ run, DerivesNumber run i.toInt ∧ Stops Char.isDigit rest ∧ cs = run ++ rest := by
  unfold readInteger?
  split
  next sign run heq =>
    refine readDigits_eq_some_iff.trans ?_
    generalize i.toInt = n
    -- A digit is not a minus sign, so the sign that was read tells the two productions apart.
    split at heq
    · next cs =>
        simp only [Prod.mk.injEq] at heq
        obtain ⟨rfl, rfl⟩ := heq
        constructor
        · rintro ⟨ds, hne, hds, rfl, hrest, rfl⟩
          exact ⟨'-' :: ds, by simpa using .negative hne hds, hrest, rfl⟩
        · rintro ⟨_, hrun, hrest, hcs⟩
          cases hrun with
          | negative hne hds =>
              rw [List.cons_append, List.cons.injEq] at hcs
              exact ⟨_, hne, hds, by omega, hrest, hcs.2⟩
          | positive hne hds =>
              obtain ⟨d, ds, rfl⟩ := List.exists_cons_of_ne_nil hne
              rw [List.cons_append, List.cons.injEq] at hcs
              exact absurd (hcs.1 ▸ hds d List.mem_cons_self) (by decide)
    · next hminus =>
        simp only [Prod.mk.injEq] at heq
        obtain ⟨rfl, rfl⟩ := heq
        constructor
        · rintro ⟨ds, hne, hds, rfl, hrest, rfl⟩
          exact ⟨ds, by simpa using .positive hne hds, hrest, rfl⟩
        · rintro ⟨_, hrun, hrest, hcs⟩
          cases hrun with
          | negative hne hds => exact absurd hcs (hminus _)
          | positive hne hds => exact ⟨_, hne, hds, by omega, hrest, hcs⟩

/-! ### Values without parts -/

theorem readScalar?_cons {c : Char} (ht : c ≠ 't') (hf : c ≠ 'f') (hn : c ≠ 'n')
    (hquote : c ≠ '"') (cs : List Char) :
    readScalar? (c :: cs) =
      (readInteger? (c :: cs)).map fun (i, rest) => (.integer i, rest) := by
  unfold readScalar?
  split <;> simp_all

theorem readScalar?_paren (cs : List Char) : readScalar? ('(' :: cs) = none := by
  rw [readScalar?_cons (by decide) (by decide) (by decide) (by decide)]
  simp [readInteger?, natural?]

theorem readScalar?_bracket (cs : List Char) : readScalar? ('[' :: cs) = none := by
  rw [readScalar?_cons (by decide) (by decide) (by decide) (by decide)]
  simp [readInteger?, natural?]

theorem readScalar?_of_derivesValue {cs rest : List Char} {v : Value}
    (h : DerivesValue cs v rest) (hv : v.nesting = 0) : readScalar? cs = some (v, rest) := by
  cases h with
  | yes | no | nil => rfl
  | string rest hbody => simp [readScalar?, readString?_append hbody]
  | integer hcs hrest =>
      have hread := readInteger?_eq_some_iff.2 ⟨_, hcs, hrest, rfl⟩
      obtain ⟨c, tail, rfl, hc⟩ := hcs.head
      have hne : c ≠ 't' ∧ c ≠ 'f' ∧ c ≠ 'n' ∧ c ≠ '"' := by
        refine ⟨?_, ?_, ?_, ?_⟩ <;> (rintro rfl; revert hc; decide)
      rw [List.cons_append] at hread ⊢
      rw [readScalar?_cons hne.1 hne.2.1 hne.2.2.1 hne.2.2.2, hread, Option.map_some]
  | expr he =>
      cases he
      simp [Value.nesting, Expr.nesting] at hv
  | list => simp [Value.nesting] at hv

theorem derivesValue_of_readScalar? {cs rest : List Char} {v : Value}
    (h : readScalar? cs = some (v, rest)) : DerivesValue cs v rest := by
  unfold readScalar? at h
  split at h
  · simp only [Option.some.injEq, Prod.mk.injEq] at h
    obtain ⟨rfl, rfl⟩ := h
    exact .yes _
  · simp only [Option.some.injEq, Prod.mk.injEq] at h
    obtain ⟨rfl, rfl⟩ := h
    exact .no _
  · simp only [Option.some.injEq, Prod.mk.injEq] at h
    obtain ⟨rfl, rfl⟩ := h
    exact .nil _
  · simp only [Option.map_eq_some_iff, Prod.mk.injEq, Prod.exists] at h
    obtain ⟨s, _, hread, rfl, rfl⟩ := h
    obtain ⟨body, hbody, rfl⟩ := exists_derivesBody hread
    exact .string _ hbody
  · simp only [Option.map_eq_some_iff, Prod.mk.injEq, Prod.exists] at h
    obtain ⟨i, _, hread, rfl, rfl⟩ := h
    obtain ⟨run, hrun, hrest, rfl⟩ := readInteger?_eq_some_iff.1 hread
    exact .integer hrun hrest

end Expr

end BuildPicker
