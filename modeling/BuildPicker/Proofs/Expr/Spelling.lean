import BuildPicker.Proofs.Expr.Grammar
import BuildPicker.Proofs.Text.Trim

/-!
Spellings without the text around them.

What a part is read as does not depend on the text behind it, as long as no digit
comes to stand behind a number. So the white space around an expression can be
taken away, and what is left begins and ends with a parenthesis.
-/

namespace BuildPicker

open BuildPicker.Text

namespace Expr

/-! ### Other text behind a part -/

theorem Stops.append_congr {p : Char → Bool} {rest rest' : List Char}
    (h : Stops p rest → Stops p rest') (cs : List Char) :
    Stops p (cs ++ rest) → Stops p (cs ++ rest') := by
  cases cs with
  | nil => exact h
  | cons c cs => simp

/-- `derives` holds of a text with a rest that can be replaced, unless digits come to stand at its
beginning. -/
def IsSpelled (derives : List Char → List Char → Prop) (cs rest : List Char) : Prop :=
  ∃ spelling, cs = spelling ++ rest ∧ ∀ rest', (Stops Char.isDigit rest → Stops Char.isDigit rest') →
    derives (spelling ++ rest') rest'

theorem DerivesArgs.isSpelled {args : List (String × Value)} {cs rest : List Char}
    (h : DerivesArgs cs args rest)
    (hargs : ∀ arg ∈ args, ∀ {cs rest}, DerivesValue cs arg.2 rest →
      IsSpelled (DerivesValue · arg.2 ·) cs rest) :
    IsSpelled (DerivesArgs · args ·) cs rest := by
  induction args generalizing cs with
  | nil =>
      cases h
      exact ⟨[], rfl, fun rest' _ => .nil rest'⟩
  | cons arg args ih =>
      cases h with
      | @cons ws ws' _ _ _ key v _ hws hkey hws' hne hv hrest =>
          obtain ⟨first, rfl, hfirst⟩ := hargs _ List.mem_cons_self hv
          obtain ⟨others, rfl, hothers⟩ :=
            ih hrest fun a ha => hargs a (List.mem_cons_of_mem _ ha)
          refine ⟨ws ++ ':' :: (key.toList ++ (ws' ++ (first ++ others))), by simp,
            fun rest' hrest' => ?_⟩
          have harg := hfirst (others ++ rest') (Stops.append_congr hrest' others)
          simpa using DerivesArgs.cons hws hkey hws' hne harg (hothers rest' hrest')

theorem DerivesItems.isSpelled {items : List Value} {cs rest : List Char}
    (h : DerivesItems cs items rest)
    (hitems : ∀ v ∈ items, ∀ {cs rest}, DerivesValue cs v rest →
      IsSpelled (DerivesValue · v ·) cs rest) :
    IsSpelled (DerivesItems · items ·) cs rest := by
  induction items generalizing cs with
  | nil =>
      cases h
      exact ⟨[], rfl, fun rest' _ => .nil rest'⟩
  | cons v items ih =>
      cases h with
      | @cons _ sep _ _ _ _ hv hsep hrest =>
          obtain ⟨first, rfl, hfirst⟩ := hitems _ List.mem_cons_self hv
          obtain ⟨others, rfl, hothers⟩ :=
            ih hrest fun w hw => hitems w (List.mem_cons_of_mem _ hw)
          refine ⟨first ++ (sep ++ others), by simp, fun rest' hrest' => ?_⟩
          have hstops := Stops.append_congr (Stops.append_congr hrest' others) sep
          simpa using DerivesItems.cons (hfirst _ hstops) hsep (hothers rest' hrest')

theorem DerivesValue.isSpelled {v : Value} {cs rest : List Char} (h : DerivesValue cs v rest) :
    IsSpelled (DerivesValue · v ·) cs rest := by
  -- On the tree, as the relations are mutual.
  induction v using Value.induction generalizing cs rest with
  | nil =>
      cases h with
      | nil => exact ⟨['n', 'i', 'l'], rfl, fun rest' _ => .nil rest'⟩
  | boolean =>
      cases h with
      | yes => exact ⟨['t', 'r', 'u', 'e'], rfl, fun rest' _ => .yes rest'⟩
      | no => exact ⟨['f', 'a', 'l', 's', 'e'], rfl, fun rest' _ => .no rest'⟩
  | string =>
      cases h with
      | @string body s _ hbody =>
          refine ⟨'"' :: (body ++ ['"']), by simp, fun rest' _ => ?_⟩
          simpa using DerivesValue.string rest' hbody
  | integer =>
      cases h with
      | @integer cs _ _ hcs hrest =>
          exact ⟨cs, rfl, fun rest' hrest' => .integer hcs (hrest' hrest)⟩
  | expr tag args ih =>
      cases h with
      | expr he =>
          cases he with
          | @node ws _ ws' _ _ _ hws htag hargs hws' =>
              obtain ⟨inside, rfl, hinside⟩ :=
                hargs.isSpelled fun arg harg _ _ hv => ih arg harg hv
              refine ⟨'(' :: (ws ++ (tag.toList ++ (inside ++ (ws' ++ [')'])))), by simp,
                fun rest' _ => ?_⟩
              have hargs' := hinside (ws' ++ ')' :: rest') (Stops.append_congr (by simp) ws')
              simpa using DerivesValue.expr (.node hws htag hargs' hws')
  | list items ih =>
      cases h with
      | @list ws _ ws' _ _ hws hitems hws' =>
          obtain ⟨inside, rfl, hinside⟩ := hitems.isSpelled fun v hv _ _ h => ih v hv h
          refine ⟨'[' :: (ws ++ (inside ++ (ws' ++ [']']))), by simp, fun rest' _ => ?_⟩
          have hitems' := hinside (ws' ++ ']' :: rest') (Stops.append_congr (by simp) ws')
          simpa using DerivesValue.list hws hitems' hws'

/-! ### White space around an expression -/

theorem DerivesExpr.exists_parenthesized {cs rest : List Char} {e : Expr}
    (h : DerivesExpr cs e rest) : ∃ inside, cs = '(' :: (inside ++ ')' :: rest) := by
  cases h with
  | @node ws _ ws' _ tag args hws htag hargs hws' =>
      obtain ⟨spelling, rfl, -⟩ := hargs.isSpelled fun _ _ _ _ hv => hv.isSpelled
      exact ⟨ws ++ (tag.toList ++ (spelling ++ ws')), by simp⟩

/-- The text of an expression is a spelling in parentheses, between white space. -/
theorem DerivesText.exists_spelling {s : String} {e : Expr} (h : DerivesText s e) :
    ∃ ws inside ws', IsSpacing ws ∧ IsSpacing ws' ∧
      s.toList = ws ++ ('(' :: (inside ++ [')']) ++ ws') ∧
      DerivesExpr ('(' :: (inside ++ [')'])) e [] := by
  cases h with
  | @intro ws cs ws' _ hws he hws' =>
      obtain ⟨spelling, rfl, hspelling⟩ := (DerivesValue.expr he).isSpelled
      have he' := derivesValue_expr_iff.1 (hspelling [] fun _ => stops_nil _)
      obtain ⟨inside, hinside⟩ := he'.exists_parenthesized
      rw [List.append_nil] at he' hinside
      subst hinside
      exact ⟨ws, inside, ws', hws, hws', String.toList_ofList .., he'⟩

/-- Trimming takes away the white space around an expression and no more. -/
theorem DerivesText.exists_eq_append_trim {s : String} {e : Expr} (h : DerivesText s e) :
    ∃ ws ws', IsSpacing ws ∧ IsSpacing ws' ∧ s.toList = ws ++ ((Text.trim s).toList ++ ws') ∧
      DerivesText (Text.trim s) e ∧ (Text.trim s).toList.head? = some '(' := by
  obtain ⟨ws, inside, ws', hws, hws', hs, he⟩ := h.exists_spelling
  have hblank {ws : List Char} (hws : IsSpacing ws) : ∀ c ∈ ws, isBlank c :=
    fun c hc => isBlank_of_isSpace (hws c hc)
  have hfirst : ∀ c ∈ ('(' :: (inside ++ [')'])).head?, isBlank c = false := by
    rintro _ ⟨⟩
    decide
  have hlast : ∀ c ∈ ('(' :: inside ++ [')']).getLast?, isBlank c = false := by
    rw [List.getLast?_concat]
    rintro _ ⟨⟩
    decide
  have htrim : Text.trim s = String.ofList ('(' :: (inside ++ [')'])) := by
    rw [Text.trim, hs, trimRight_trimLeft_append_eq (hblank hws) (hblank hws') hfirst hlast]
  rw [htrim, String.toList_ofList]
  exact ⟨ws, ws', hws, hws', hs, .intro isSpacing_nil he isSpacing_nil, rfl⟩

theorem DerivesText.trim {s : String} {e : Expr} (h : DerivesText s e) :
    DerivesText (Text.trim s) e ∧ (Text.trim s).toList.head? = some '(' := by
  obtain ⟨-, -, -, -, -, htrim⟩ := h.exists_eq_append_trim
  exact htrim

theorem IsSpacing.append {ws ws' : List Char} (h : IsSpacing ws) (h' : IsSpacing ws') :
    IsSpacing (ws ++ ws') :=
  List.forall_mem_append.2 ⟨h, h'⟩

/-- White space may be added around an expression. -/
theorem DerivesText.append {s t : String} {e : Expr} (h : DerivesText t e) {ws ws' : List Char}
    (hws : IsSpacing ws) (hws' : IsSpacing ws') (hs : s.toList = ws ++ (t.toList ++ ws')) :
    DerivesText s e := by
  cases h with
  | @intro inner cs inner' _ hinner he hinner' =>
      obtain ⟨spelling, rfl, hspelling⟩ := (DerivesValue.expr he).isSpelled
      have hstops : Stops Char.isDigit (inner' ++ ws') := fun c hc =>
        eq_false_of_isSpace (by decide) (hinner'.append hws' c (List.mem_of_mem_head? hc))
      have he' := derivesValue_expr_iff.1 (hspelling (inner' ++ ws') fun _ => hstops)
      have hs' : s = String.ofList ((ws ++ inner) ++ (spelling ++ (inner' ++ ws'))) := by
        rw [← String.ofList_toList (s := s), hs, String.toList_ofList]
        simp only [List.append_assoc]
      rw [hs']
      exact .intro (hws.append hinner) he' (hinner'.append hws')

end Expr

end BuildPicker
