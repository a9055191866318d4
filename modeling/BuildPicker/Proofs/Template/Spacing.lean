import BuildPicker.Proofs.Template

/-!
White space around templates.

White space is no part of a reference, so what stands before and behind a template
is plain text. A reference that a text begins with is the same with white space
behind the text: it ends with the name or with a closing brace. So expansion leaves
the white space around a template as it is, and what trimming leaves of it expands
on its own.
-/

namespace BuildPicker

open BuildPicker.Text

/-! ### References -/

namespace Reference

theorem read?_plain {cs : List Char} (hcs : cs.head? ≠ some '{') :
    read? ('$' :: cs) =
      if (cs.takeWhile isNameChar).isEmpty then none
      else some ⟨false, cs.takeWhile isNameChar⟩ := by
  unfold read?
  split
  · next heq =>
      cases heq
      exact absurd rfl hcs
  · next heq =>
      cases heq
      rfl
  · next h => exact absurd rfl (h cs)

theorem read?_braced (cs : List Char) :
    read? ('$' :: '{' :: cs) =
      if (cs.takeWhile (· != '}')).isEmpty || (cs.takeWhile (· != '}')).length = cs.length then none
      else some ⟨true, cs.takeWhile (· != '}')⟩ := rfl

/-- If not all characters are taken, then a closing brace has ended the name. -/
theorem takeWhile_append_brace_prefix {cs : List Char}
    (h : (cs.takeWhile (· != '}')).length ≠ cs.length) :
    cs.takeWhile (· != '}') ++ ['}'] <+: cs := by
  have hsplit : cs.takeWhile (· != '}') ++ cs.dropWhile (· != '}') = cs :=
    List.takeWhile_append_dropWhile
  have hfirst := List.head?_dropWhile_not (· != '}') cs
  cases hrest : cs.dropWhile (· != '}') with
  | nil =>
      rw [hrest, List.append_nil] at hsplit
      exact absurd (congrArg List.length hsplit) h
  | cons d rest =>
      rw [hrest] at hfirst hsplit
      obtain rfl : d = '}' := by simpa using hfirst
      refine ⟨rest, ?_⟩
      rw [List.append_assoc, List.singleton_append, hsplit]

/-- The reference that a text begins with is a part of it. -/
theorem source_prefix_of_read? {cs : List Char} {r : Reference} (h : read? cs = some r) :
    r.source <+: cs := by
  unfold read? at h
  split at h
  · next cs =>
      dsimp only at h
      split at h
      · cases h
      · next hname =>
          cases h
          have hlength : (cs.takeWhile (· != '}')).length ≠ cs.length := by
            intro heq
            simp [heq] at hname
          have hprefix := takeWhile_append_brace_prefix hlength
          exact (List.prefix_cons_inj '$').2 ((List.prefix_cons_inj '{').2 hprefix)
  · next cs _ =>
      dsimp only at h
      split at h
      · cases h
      · cases h
        exact (List.prefix_cons_inj '$').2 (List.takeWhile_prefix isNameChar)
  · cases h

section

variable {ws : List Char} (hws : ∀ c ∈ ws, isBlank c) (cs : List Char)

include hws

theorem takeWhile_isNameChar_append :
    (cs ++ ws).takeWhile isNameChar = cs.takeWhile isNameChar := by
  have hnil : ws.takeWhile isNameChar = [] := by
    rw [List.takeWhile_eq_nil_iff]
    intro hpos hname
    have hblank := hws _ (List.get_mem ws ⟨0, hpos⟩)
    rw [isBlank_eq_false_of_isNameChar hname] at hblank
    cases hblank
  rw [List.takeWhile_append, hnil, List.append_nil]
  split
  · next hlength => exact ((List.takeWhile_prefix isNameChar).eq_of_length hlength).symm
  · rfl

theorem read?_append_braced :
    read? ('$' :: '{' :: (cs ++ ws)) = read? ('$' :: '{' :: cs) := by
  have hall : ws.takeWhile (· != '}') = ws := by
    apply List.takeWhile_eq_self_iff.2
    intro c hc
    have hne : c ≠ '}' := by
      rintro rfl
      exact absurd (hws _ hc) (by decide)
    simpa using hne
  rw [read?_braced, read?_braced, List.takeWhile_append, hall]
  split
  · next hlength =>
      -- No brace closes the name in the text, and none does behind it.
      simp [hlength]
  · next hlength =>
      have hle := (List.takeWhile_prefix (l := cs) (· != '}')).length_le
      have hne : (cs.takeWhile (· != '}')).length ≠ (cs ++ ws).length := by
        rw [List.length_append]
        omega
      simp only [hlength, hne, decide_false]

theorem read?_append_plain {cs : List Char} (hcs : cs.head? ≠ some '{') :
    read? ('$' :: (cs ++ ws)) = read? ('$' :: cs) := by
  have hhead : (cs ++ ws).head? ≠ some '{' := by
    cases cs with
    | nil =>
        intro hmem
        exact not_mem_of_isBlank hws (by decide) (List.mem_of_mem_head? hmem)
    | cons c cs => exact hcs
  rw [read?_plain hhead, read?_plain hcs, takeWhile_isNameChar_append hws]

/-- No reference goes on into white space behind it, and none begins there. -/
theorem read?_append_of_isBlank : read? (cs ++ ws) = read? cs := by
  cases cs with
  | nil =>
      cases ws with
      | nil => rfl
      | cons w ws =>
          apply read?_eq_none
          rintro rfl
          exact absurd (hws _ List.mem_cons_self) (by decide)
  | cons c cs =>
      by_cases hc : c = '$'
      · subst hc
        by_cases hbrace : cs.head? = some '{'
        · rcases List.head?_eq_some_iff.1 hbrace with ⟨tail, rfl⟩
          exact read?_append_braced hws tail
        · exact read?_append_plain hws hbrace
      · rw [List.cons_append, read?_eq_none hc, read?_eq_none hc]

end

end Reference

/-! ### Pieces -/

theorem piecesFrom_append_of_isBlank {ws : List Char} (hws : ∀ c ∈ ws, isBlank c) {skip : Nat}
    {cs : List Char} (hskip : skip ≤ cs.length) :
    piecesFrom skip (cs ++ ws) = piecesFrom skip cs ++ ws.map .plain := by
  induction cs generalizing skip with
  | nil =>
      obtain rfl : skip = 0 := Nat.le_zero.1 hskip
      exact pieces_of_not_mem (not_mem_of_isBlank hws (by decide))
  | cons c cs ih =>
      cases skip with
      | succ skip => exact ih (Nat.le_of_succ_le_succ hskip)
      | zero =>
          have hread := Reference.read?_append_of_isBlank hws (c :: cs)
          rw [List.cons_append] at hread ⊢
          rw [piecesFrom, piecesFrom, hread]
          cases hr : Reference.read? (c :: cs) with
          | none => exact congrArg _ (ih (Nat.zero_le _))
          | some r =>
              have hlength := (Reference.source_prefix_of_read? hr).length_le
              rw [List.length_cons] at hlength
              exact congrArg _ (ih (by omega))

/-! ### Expansion -/

namespace Variables

variable {vars : Variables} {template : String}

/-- White space around a template stays around what it expands to. -/
theorem exists_expand_eq_append (vars : Variables) (template : String) :
    ∃ ws ws', (∀ c ∈ ws, isBlank c) ∧ (∀ c ∈ ws', isBlank c) ∧
      template.toList = ws ++ ((trim template).toList ++ ws') ∧
      (vars.expand template).toList = ws ++ ((vars.expand (trim template)).toList ++ ws') := by
  rcases exists_eq_append_trim template with ⟨ws, ws', hws, hws', htemplate⟩
  have hdollar : '$' ∉ ws := not_mem_of_isBlank hws (by decide)
  have hpieces : pieces ((trim template).toList ++ ws') =
      pieces (trim template).toList ++ ws'.map .plain :=
    piecesFrom_append_of_isBlank hws' (Nat.zero_le _)
  refine ⟨ws, ws', hws, hws', htemplate, ?_⟩
  rw [expand, expand, String.toList_ofList, String.toList_ofList, htemplate,
    pieces_append_of_not_mem hdollar, hpieces, List.flatMap_append, List.flatMap_append,
    flatMap_plain, flatMap_plain]

theorem trim_expand (vars : Variables) (template : String) :
    trim (vars.expand template) = trim (vars.expand (trim template)) := by
  rcases vars.exists_expand_eq_append template with ⟨ws, ws', hws, hws', -, hexpand⟩
  exact trim_eq_of_append hws hws' hexpand

/-- If a template is unresolved, then nothing stands before the reference, and trimming leaves it
unresolved. -/
theorem isUnresolved_expand_trim (h : isUnresolved (vars.expand template) = true) :
    isUnresolved (vars.expand (trim template)) = true := by
  rcases vars.exists_expand_eq_append template with ⟨ws, ws', hws, hws', -, hexpand⟩
  have hnone {ws : List Char} (hws : ∀ c ∈ ws, isBlank c) : ws.head? ≠ some '$' := by
    intro hmem
    exact not_mem_of_isBlank hws (by decide) (List.mem_of_mem_head? hmem)
  simp only [isUnresolved, decide_eq_true_eq, hexpand, List.head?_append, Option.or_eq_some_iff,
    hnone hws, hnone hws', false_or, and_false, or_false] at h ⊢
  exact h.2

/-- Trimming changes what a template expands to whenever it changes the template. -/
theorem expand_trim_eq_iff :
    vars.expand (trim template) = vars.expand template ↔ trim template = template := by
  rcases vars.exists_expand_eq_append template with ⟨ws, ws', -, -, htemplate, hexpand⟩
  constructor
  · intro h
    rw [← h] at hexpand
    have hlength := congrArg List.length hexpand
    simp only [List.length_append] at hlength
    have hws : ws = [] := List.eq_nil_of_length_eq_zero (by omega)
    have hws' : ws' = [] := List.eq_nil_of_length_eq_zero (by omega)
    subst hws hws'
    rw [List.nil_append, List.append_nil] at htemplate
    exact String.toList_injective htemplate.symm
  · intro h
    rw [h]

/-- A template that can be trimmed expands to a text with white space in it. -/
theorem exists_isBlank_of_trim_ne (vars : Variables) (h : trim template ≠ template) :
    ∃ c ∈ (vars.expand template).toList, isBlank c = true := by
  rcases vars.exists_expand_eq_append template with ⟨ws, ws', hws, hws', htemplate, hexpand⟩
  have hne : ws ++ ws' ≠ [] := by
    intro hnil
    rcases List.append_eq_nil_iff.1 hnil with ⟨rfl, rfl⟩
    rw [List.nil_append, List.append_nil] at htemplate
    exact h (String.toList_injective htemplate.symm)
  rcases List.exists_mem_of_ne_nil _ hne with ⟨c, hc⟩
  refine ⟨c, ?_, ?_⟩
  · rw [hexpand, List.mem_append, List.mem_append]
    rcases List.mem_append.1 hc with hc | hc
    · exact .inl hc
    · exact .inr (.inr hc)
  · rcases List.mem_append.1 hc with hc | hc
    · exact hws c hc
    · exact hws' c hc

end Variables

end BuildPicker
