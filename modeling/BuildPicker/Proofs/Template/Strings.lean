import BuildPicker.Proofs.Expr.Grammar
import BuildPicker.Proofs.Template.Spacing

/-!
Templates between quotes.

Where a text is expanded as a whole, references within its strings are replaced as
they are written, before escapes are undone. A reference or a value without quote
and backslash is written as it is meant. With nothing else to fill in, a string
still ends where it did, and what it stands for is the expansion of what it stood
for.
-/

namespace BuildPicker

open BuildPicker.Expr

/-! ### Piece by piece -/

theorem pieces_cons_of_none {c : Char} {cs : List Char} (h : Reference.read? (c :: cs) = none) :
    pieces (c :: cs) = .plain c :: pieces cs := by
  rw [pieces, piecesFrom, h]
  rfl

theorem piecesFrom_length_append (taken cs : List Char) :
    piecesFrom taken.length (taken ++ cs) = pieces cs := by
  induction taken with
  | nil => rfl
  | cons c taken ih => exact ih

theorem pieces_source_append {r : Reference} {cs : List Char}
    (h : Reference.read? (r.source ++ cs) = some r) :
    pieces (r.source ++ cs) = .reference r :: pieces cs := by
  obtain ⟨tail, hsource⟩ := List.head?_eq_some_iff.1 r.head?_source
  rw [hsource, List.cons_append] at h ⊢
  rw [pieces, piecesFrom, h]
  simp only [hsource, List.length_cons, Nat.add_sub_cancel]
  rw [piecesFrom_length_append]

/-- Induction over a text as it falls into pieces. -/
@[elab_as_elim]
theorem pieces_induction {P : List Char → Prop} (nil : P [])
    (plain : ∀ c cs, Reference.read? (c :: cs) = none → P cs → P (c :: cs))
    (reference : ∀ r cs, Reference.read? (r.source ++ cs) = some r → P cs → P (r.source ++ cs))
    (cs : List Char) : P cs := by
  induction hlength : cs.length using Nat.strong_induction_on generalizing cs with
  | _ n ih =>
      cases cs with
      | nil => exact nil
      | cons c cs =>
          cases hr : Reference.read? (c :: cs) with
          | none => exact plain c cs hr (ih cs.length (by simp [← hlength]) cs rfl)
          | some r =>
              obtain ⟨rest, hrest⟩ := Reference.source_prefix_of_read? hr
              have hpos : 0 < r.source.length := by
                obtain ⟨tail, htail⟩ := List.head?_eq_some_iff.1 r.head?_source
                simp [htail]
              rw [← hrest] at hr hlength ⊢
              rw [List.length_append] at hlength
              exact reference r rest hr (ih rest.length (by omega) rest rfl)

/-! ### References in braces -/

namespace Reference

theorem ne_brace_of_notMem {cs : List Char} (h : '}' ∉ cs) : ∀ c ∈ cs, (c != '}') = true := by
  intro c hc
  rw [bne_iff_ne]
  rintro rfl
  exact h hc

theorem read?_closed {name : List Char} (h : '}' ∉ name) (rest : List Char) :
    read? ('$' :: '{' :: (name ++ '}' :: rest)) =
      if name.isEmpty then none else some ⟨true, name⟩ := by
  have htake : (name ++ '}' :: rest).takeWhile (· != '}') = name := by
    rw [List.takeWhile_append_of_pos (ne_brace_of_notMem h)]
    simp
  have hlength : name.length ≠ (name ++ '}' :: rest).length := by simp
  rw [read?_braced, htake, decide_eq_false hlength, Bool.or_false]

theorem read?_unclosed {cs : List Char} (h : '}' ∉ cs) : read? ('$' :: '{' :: cs) = none := by
  have htake : cs.takeWhile (· != '}') = cs :=
    List.takeWhile_eq_self_iff.2 (ne_brace_of_notMem h)
  rw [read?_braced, htake]
  simp

/-! ### The end of a string -/

theorem takeWhile_isNameChar_append_quote (cs rest : List Char) :
    (cs ++ '"' :: rest).takeWhile isNameChar = cs.takeWhile isNameChar := by
  have hquote : isNameChar '"' = false := by decide
  rw [List.takeWhile_append, List.takeWhile_cons, hquote]
  split
  · next hlength =>
      rw [(List.takeWhile_prefix isNameChar).eq_of_length hlength]
      simp
  · rfl

theorem head?_append_quote_ne {cs : List Char} (h : cs.head? ≠ some '{') (rest : List Char) :
    (cs ++ '"' :: rest).head? ≠ some '{' := by
  cases cs with
  | nil => simp
  | cons c cs => exact h

/-- A reference without a quote in its name does not go on behind a quote. -/
theorem read?_append_quote {cs rest : List Char}
    (h : ∀ r, read? (cs ++ '"' :: rest) = some r → '"' ∉ r.name) :
    read? (cs ++ '"' :: rest) = read? cs := by
  cases cs with
  | nil => exact read?_eq_none (by decide) rest
  | cons c cs =>
      by_cases hc : c = '$'
      · subst hc
        by_cases hbrace : cs.head? = some '{'
        · obtain ⟨tail, rfl⟩ := List.head?_eq_some_iff.1 hbrace
          rw [List.cons_append, List.cons_append] at h ⊢
          by_cases hclosed : '}' ∈ tail
          · obtain ⟨name, after, rfl, hname⟩ := List.eq_append_cons_of_mem hclosed
            rw [List.append_assoc, List.cons_append, read?_closed hname, read?_closed hname]
          · rw [read?_unclosed hclosed]
            -- If a brace closes the name behind the quote, then the quote is in the name.
            by_cases hclosed' : '}' ∈ rest
            · obtain ⟨name, after, rfl, hname⟩ := List.eq_append_cons_of_mem hclosed'
              have hwhole : '}' ∉ tail ++ '"' :: name := by simp [hclosed, hname]
              have hread := read?_closed hwhole after
              rw [if_neg (by simp), List.append_assoc, List.cons_append] at hread
              exact absurd (by simp) (h _ hread)
            · exact read?_unclosed (by simp [hclosed, hclosed'])
        · rw [List.cons_append, read?_plain (head?_append_quote_ne hbrace rest),
            read?_plain hbrace, takeWhile_isNameChar_append_quote]
      · rw [List.cons_append, read?_eq_none hc, read?_eq_none hc]

end Reference

theorem mem_pieces_of_read? {r : Reference} {cs : List Char} (h : Reference.read? cs = some r) :
    .reference r ∈ pieces cs := by
  obtain ⟨rest, rfl⟩ := Reference.source_prefix_of_read? h
  rw [pieces_source_append h]
  exact List.mem_cons_self

theorem pieces_append_quote {cs rest : List Char}
    (h : ∀ r, .reference r ∈ pieces (cs ++ '"' :: rest) → '"' ∉ r.name) :
    pieces (cs ++ '"' :: rest) = pieces cs ++ .plain '"' :: pieces rest := by
  have hread := Reference.read?_append_quote fun r hr => h r (mem_pieces_of_read? hr)
  induction cs using pieces_induction with
  | nil => exact pieces_cons_of_none (Reference.read?_eq_none (by decide) rest)
  | plain c cs hr ih =>
      rw [hr, List.cons_append] at hread
      rw [List.cons_append, pieces_cons_of_none hread] at h ⊢
      have hrest := fun r hmem => h r (List.mem_cons_of_mem _ hmem)
      rw [pieces_cons_of_none hr, List.cons_append,
        ih hrest (Reference.read?_append_quote fun r hr => hrest r (mem_pieces_of_read? hr))]
  | reference r cs hr ih =>
      rw [hr, List.append_assoc] at hread
      rw [List.append_assoc, pieces_source_append hread] at h ⊢
      have hrest := fun r hmem => h r (List.mem_cons_of_mem _ hmem)
      rw [pieces_source_append hr, List.cons_append,
        ih hrest (Reference.read?_append_quote fun r hr => hrest r (mem_pieces_of_read? hr))]

/-! ### Verbatim text -/

/-- A text that is written between quotes as it is. -/
def IsVerbatim (cs : List Char) : Prop := '"' ∉ cs ∧ '\\' ∉ cs

instance (cs : List Char) : Decidable (IsVerbatim cs) :=
  inferInstanceAs (Decidable (_ ∧ _))

theorem IsVerbatim.source {r : Reference} (h : IsVerbatim r.name) : IsVerbatim r.source := by
  obtain ⟨hquote, hbackslash⟩ := h
  unfold Reference.source
  split
  · simp [IsVerbatim, hquote, hbackslash]
  · simp [IsVerbatim, hquote, hbackslash]

namespace Expr.DerivesBody

variable {body s : List Char}

theorem append_verbatim {cs : List Char} (hcs : IsVerbatim cs) (h : DerivesBody body s) :
    DerivesBody (cs ++ body) (cs ++ s) := by
  obtain ⟨hquote, hbackslash⟩ := hcs
  induction cs with
  | nil => exact h
  | cons c cs ih =>
      obtain ⟨hc, hquote⟩ := List.ne_and_not_mem_of_not_mem_cons hquote
      obtain ⟨hc', hbackslash⟩ := List.ne_and_not_mem_of_not_mem_cons hbackslash
      exact .plain hc.symm hc'.symm (ih hquote hbackslash)

theorem exists_of_cons {c : Char} (hc : c ≠ '\\') (h : DerivesBody (c :: body) s) :
    ∃ t, s = c :: t ∧ DerivesBody body t := by
  cases h with
  | plain _ _ hbody => exact ⟨_, rfl, hbody⟩
  | escape => exact absurd rfl hc

/-- Up to the first backslash, what stands between quotes is what it stands for. -/
theorem exists_of_append {cs : List Char} (hcs : '\\' ∉ cs) (h : DerivesBody (cs ++ body) s) :
    ∃ t, s = cs ++ t ∧ DerivesBody body t := by
  induction cs generalizing s with
  | nil => exact ⟨s, rfl, h⟩
  | cons c cs ih =>
      obtain ⟨hc, hcs⟩ := List.ne_and_not_mem_of_not_mem_cons hcs
      obtain ⟨tail, rfl, htail⟩ := exists_of_cons hc.symm h
      obtain ⟨t, rfl, ht⟩ := ih hcs htail
      exact ⟨t, rfl, ht⟩

theorem notMem_brace (h : DerivesBody body s) (hbody : '}' ∉ body) : '}' ∉ s := by
  induction h with
  | nil => exact hbody
  | plain _ _ _ ih =>
      obtain ⟨hc, hbody⟩ := List.ne_and_not_mem_of_not_mem_cons hbody
      exact List.not_mem_cons_of_ne_of_not_mem hc (ih hbody)
  | escape hc _ ih =>
      have hrest := List.not_mem_of_not_mem_cons (List.not_mem_of_not_mem_cons hbody)
      cases hc with
      | quote | backslash | lineFeed | carriageReturn | tab =>
          exact List.not_mem_cons_of_ne_of_not_mem (by decide) (ih hrest)

theorem takeWhile_isNameChar (h : DerivesBody body s) :
    s.takeWhile Reference.isNameChar = body.takeWhile Reference.isNameChar := by
  induction h with
  | nil => rfl
  | plain _ _ _ ih => rw [List.takeWhile_cons, List.takeWhile_cons, ih]
  | escape hc _ _ =>
      cases hc with
      | quote | backslash | lineFeed | carriageReturn | tab => rfl

theorem head?_eq_brace_iff (h : DerivesBody body s) :
    s.head? = some '{' ↔ body.head? = some '{' := by
  cases h with
  | nil | plain => rfl
  | escape hc _ =>
      cases hc with
      | quote | backslash | lineFeed | carriageReturn | tab => simp

/-- A string begins with the reference that its spelling begins with, if there is no escape in
it. -/
theorem read?_eq (h : DerivesBody body s)
    (hname : ∀ r, Reference.read? body = some r → '\\' ∉ r.name) :
    Reference.read? s = Reference.read? body := by
  cases h with
  | nil => rfl
  | escape hc _ =>
      cases hc with
      | quote | backslash | lineFeed | carriageReturn | tab => rfl
  | @plain c body s _ _ hbody =>
      by_cases hc : c = '$'
      · subst hc
        by_cases hbrace : body.head? = some '{'
        · obtain ⟨tail, rfl⟩ := List.head?_eq_some_iff.1 hbrace
          obtain ⟨t, rfl, ht⟩ := exists_of_cons (by decide) hbody
          by_cases hclosed : '}' ∈ tail
          · obtain ⟨name, after, rfl, hbraceless⟩ := List.eq_append_cons_of_mem hclosed
            rw [Reference.read?_closed hbraceless] at hname ⊢
            have hescape : '\\' ∉ name := by
              cases name with
              | nil => exact List.not_mem_nil
              | cons d name => exact hname _ rfl
            obtain ⟨closing, rfl, hclosing⟩ := exists_of_append hescape ht
            obtain ⟨rest, rfl, -⟩ := exists_of_cons (by decide) hclosing
            exact Reference.read?_closed hbraceless rest
          · rw [Reference.read?_unclosed hclosed,
              Reference.read?_unclosed (ht.notMem_brace hclosed)]
        · have hbrace' := mt hbody.head?_eq_brace_iff.1 hbrace
          rw [Reference.read?_plain hbrace', Reference.read?_plain hbrace,
            hbody.takeWhile_isNameChar]
      · rw [Reference.read?_eq_none hc, Reference.read?_eq_none hc]

end Expr.DerivesBody

/-! ### Filling in -/

/-- Neither the name of a reference nor the value has a quote or a backslash in it. -/
def Piece.IsHarmless (vars : Variables) : Piece → Prop
  | .plain _ => True
  | .reference r => IsVerbatim r.name ∧
      ∀ value ∈ vars.get? (String.ofList r.name), IsVerbatim value.toList

instance (vars : Variables) : DecidablePred (Piece.IsHarmless vars)
  | .plain _ => inferInstanceAs (Decidable True)
  | .reference _ => inferInstanceAs (Decidable (_ ∧ _))

/-- The references in a text can be replaced between quotes. -/
def Variables.IsHarmless (vars : Variables) (cs : List Char) : Prop :=
  ∀ p ∈ pieces cs, p.IsHarmless vars

instance (vars : Variables) (cs : List Char) : Decidable (vars.IsHarmless cs) :=
  inferInstanceAs (Decidable (∀ p ∈ pieces cs, p.IsHarmless vars))

/-- The text with its references replaced. -/
def Variables.fill (vars : Variables) (cs : List Char) : List Char :=
  (pieces cs).flatMap vars.expandPiece

theorem Variables.expand_eq_fill (vars : Variables) (template : String) :
    vars.expand template = String.ofList (vars.fill template.toList) := rfl

namespace Variables

variable {vars : Variables} {c : Char} {r : Reference} {cs rest : List Char}

theorem fill_cons_of_none (h : Reference.read? (c :: cs) = none) :
    vars.fill (c :: cs) = c :: vars.fill cs := by
  rw [fill, pieces_cons_of_none h]
  rfl

theorem fill_source_append (h : Reference.read? (r.source ++ cs) = some r) :
    vars.fill (r.source ++ cs) = vars.expandPiece (.reference r) ++ vars.fill cs := by
  rw [fill, pieces_source_append h]
  rfl

theorem fill_of_notMem (h : '$' ∉ cs) : vars.fill cs = cs := by
  rw [fill, pieces_of_not_mem h, flatMap_plain]

/-- What has no dollar sign is left as it is. -/
theorem fill_append_of_notMem (h : '$' ∉ cs) : vars.fill (cs ++ rest) = cs ++ vars.fill rest := by
  rw [fill, pieces_append_of_not_mem h, List.flatMap_append, flatMap_plain]
  rfl

namespace IsHarmless

theorem of_cons_of_none (h : vars.IsHarmless (c :: cs)) (hr : Reference.read? (c :: cs) = none) :
    vars.IsHarmless cs := by
  rw [IsHarmless, pieces_cons_of_none hr] at h
  exact (List.forall_mem_cons.1 h).2

theorem of_source_append (h : vars.IsHarmless (r.source ++ cs))
    (hr : Reference.read? (r.source ++ cs) = some r) : vars.IsHarmless cs := by
  rw [IsHarmless, pieces_source_append hr] at h
  exact (List.forall_mem_cons.1 h).2

theorem of_append (h : vars.IsHarmless (cs ++ rest)) (hcs : '$' ∉ cs) : vars.IsHarmless rest := by
  rw [IsHarmless, pieces_append_of_not_mem hcs] at h
  exact (List.forall_mem_append.1 h).2

theorem pieces_append_quote (h : vars.IsHarmless (cs ++ '"' :: rest)) :
    pieces (cs ++ '"' :: rest) = pieces cs ++ .plain '"' :: pieces rest :=
  BuildPicker.pieces_append_quote fun r hr => (h (.reference r) hr).1.1

theorem fill_append_quote (h : vars.IsHarmless (cs ++ '"' :: rest)) :
    vars.fill (cs ++ '"' :: rest) = vars.fill cs ++ '"' :: vars.fill rest := by
  rw [fill, h.pieces_append_quote, List.flatMap_append, List.flatMap_cons]
  rfl

theorem of_append_quote (h : vars.IsHarmless (cs ++ '"' :: rest)) :
    vars.IsHarmless cs ∧ vars.IsHarmless rest := by
  have hpieces := h.pieces_append_quote
  rw [IsHarmless, hpieces] at h
  obtain ⟨hcs, hrest⟩ := List.forall_mem_append.1 h
  exact ⟨hcs, (List.forall_mem_cons.1 hrest).2⟩

theorem isVerbatim_expandPiece (h : vars.IsHarmless cs) (hr : .reference r ∈ pieces cs) :
    IsVerbatim (vars.expandPiece (.reference r)) := by
  obtain ⟨hname, hvalue⟩ := h (.reference r) hr
  rw [expandPiece]
  cases hget : vars.get? (String.ofList r.name) with
  | none => exact hname.source
  | some value => exact hvalue value hget

end IsHarmless

end Variables

/-- With harmless values, a string is filled in by filling in its spelling. -/
theorem Expr.DerivesBody.fill {vars : Variables} {body s : List Char} (h : DerivesBody body s)
    (hvars : vars.IsHarmless body) : DerivesBody (vars.fill body) (vars.fill s) := by
  -- On the pieces of what the string stands for: an escape is one of them, but two characters.
  induction s using pieces_induction generalizing body with
  | nil =>
      cases h with
      | nil => exact .nil
  | plain c s hr ih =>
      have hread := h.read?_eq fun r hr => (hvars _ (mem_pieces_of_read? hr)).1.2
      rw [hr] at hread
      rw [Variables.fill_cons_of_none hr]
      cases h with
      | @plain _ body _ hquote hbackslash hbody =>
          rw [Variables.fill_cons_of_none hread.symm]
          exact .plain hquote hbackslash (ih hbody (hvars.of_cons_of_none hread.symm))
      | @escape x _ body _ hx hbody =>
          have hdollar : '$' ∉ ['\\', x] := by
            cases hx with
            | quote | backslash | lineFeed | carriageReturn | tab => decide
          have hfill : vars.fill ('\\' :: x :: body) = ['\\', x] ++ vars.fill body :=
            Variables.fill_append_of_notMem hdollar
          have hrest : vars.IsHarmless body := Variables.IsHarmless.of_append hvars hdollar
          rw [hfill]
          exact .escape hx (ih hbody hrest)
  | reference r s hr ih =>
      have hread := h.read?_eq fun r hr => (hvars _ (mem_pieces_of_read? hr)).1.2
      rw [hr] at hread
      have hmem := mem_pieces_of_read? hread.symm
      obtain ⟨rest, rfl⟩ := Reference.source_prefix_of_read? hread.symm
      obtain ⟨t, heq, hbody⟩ := h.exists_of_append (hvars _ hmem).1.source.2
      obtain rfl := List.append_cancel_left heq
      rw [Variables.fill_source_append hr, Variables.fill_source_append hread.symm]
      exact .append_verbatim (hvars.isVerbatim_expandPiece hmem)
        (ih hbody (hvars.of_source_append hread.symm))

end BuildPicker
