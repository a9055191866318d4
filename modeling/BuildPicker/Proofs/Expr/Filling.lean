import BuildPicker.Proofs.Expr.Soundness
import BuildPicker.Proofs.Expr.Spelling
import BuildPicker.Proofs.Template.Strings
import Mathlib.Logic.Relation

/-!
Written expressions that are expanded.

Nothing but a string can hold a dollar sign. So where the values of variables are
harmless, expanding the text of an expression has no effect but on its strings, and
each of these is expanded as if it stood alone.
-/

namespace BuildPicker

open BuildPicker.Expr

/-! ### Other strings in a tree -/

section

variable (g : String → String)

mutual

/-- The value with other strings in it. Tags and keys are no strings. -/
def Value.mapStrings : Value → Value
  | .nil => .nil
  | .boolean b => .boolean b
  | .integer i => .integer i
  | .string s => .string (g s)
  | .expr e => .expr e.mapStrings
  | .list items => .list (mapItems items)

/-- The expression with other strings in it. -/
def Expr.mapStrings : Expr → Expr
  | .node tag args => .node tag (mapArgs args)

def mapItems : List Value → List Value
  | [] => []
  | v :: items => v.mapStrings :: mapItems items

def mapArgs : List (String × Value) → List (String × Value)
  | [] => []
  | (key, v) :: args => (key, v.mapStrings) :: mapArgs args

end

theorem mapItems_eq_map (items : List Value) :
    mapItems g items = items.map (Value.mapStrings g) := by
  induction items with
  | nil => rfl
  | cons v items ih => rw [mapItems, ih, List.map_cons]

theorem mapArgs_eq_map (args : List (String × Value)) :
    mapArgs g args = args.map (Prod.map id (Value.mapStrings g)) := by
  induction args with
  | nil => rfl
  | cons arg args ih =>
      rw [mapArgs, ih, List.map_cons]
      rfl

theorem Value.nesting_mapStrings (v : Value) : (v.mapStrings g).nesting = v.nesting := by
  induction v using Value.induction with
  | nil | boolean | integer | string => rfl
  | expr tag args ih =>
      have hargs : argsNesting (mapArgs g args) = argsNesting args := by
        induction args with
        | nil => rfl
        | cons arg args ihs =>
            obtain ⟨harg, hargs⟩ := List.forall_mem_cons.1 ih
            rw [mapArgs, argsNesting, argsNesting, harg, ihs hargs]
      exact congrArg (· + 1) hargs
  | list items ih =>
      have hitems : itemsNesting (mapItems g items) = itemsNesting items := by
        induction items with
        | nil => rfl
        | cons v items ihs =>
            obtain ⟨hv, hitems⟩ := List.forall_mem_cons.1 ih
            rw [mapItems, itemsNesting, itemsNesting, hv, ihs hitems]
      exact congrArg (· + 1) hitems

theorem Expr.nesting_mapStrings (e : Expr) : (e.mapStrings g).nesting = e.nesting :=
  Value.nesting_mapStrings g (.expr e)

end

/-! ### Parts without a dollar sign -/

namespace Expr

theorem IsSpacing.notMem_dollar {ws : List Char} (h : IsSpacing ws) : '$' ∉ ws := by
  intro hmem
  exact absurd (h _ hmem) (by decide)

theorem IsSeparator.notMem_dollar {sep : List Char} (h : IsSeparator sep) : '$' ∉ sep := by
  cases h with
  | blank hws => exact hws.notMem_dollar
  | comma hws hws' => simp [hws.notMem_dollar, hws'.notMem_dollar]

theorem notMem_dollar_of_isName {cs : List Char} (h : isName cs) : '$' ∉ cs := by
  cases cs with
  | nil => exact List.not_mem_nil
  | cons c cs =>
      rw [isName, Bool.and_eq_true, List.all_eq_true] at h
      intro hmem
      rcases List.mem_cons.1 hmem with rfl | hmem
      · exact absurd h.1 (by decide)
      · exact absurd (h.2 _ hmem) (by decide)

theorem DerivesNumber.notMem_dollar {cs : List Char} {i : Int} (h : DerivesNumber cs i) :
    '$' ∉ cs := by
  cases h with
  | positive _ hds => exact fun hmem => absurd (hds _ hmem) (by decide)
  | negative _ hds =>
      refine List.not_mem_cons_of_ne_of_not_mem (by decide) fun hmem => ?_
      exact absurd (hds _ hmem) (by decide)

/-! ### Filling in -/

/-- What stands in front of `rest` is filled in on its own. Of the outcome `derives` holds with
another rest as well, unless digits come to stand at its beginning. -/
def Fills (vars : Variables) (derives : List Char → List Char → Prop) (cs rest : List Char) :
    Prop :=
  vars.IsHarmless rest ∧ ∃ filled, vars.fill cs = filled ++ vars.fill rest ∧
    ∀ rest', (Stops Char.isDigit rest → Stops Char.isDigit rest') →
      (Stops Char.isDigit cs → Stops Char.isDigit (filled ++ rest')) ∧
        derives (filled ++ rest') rest'

section

variable {vars : Variables} {derives derives' : List Char → List Char → Prop}
  {cs mid rest : List Char}

theorem Fills.imp (h : Fills vars derives cs rest)
    (himp : ∀ cs rest, derives cs rest → derives' cs rest) : Fills vars derives' cs rest := by
  obtain ⟨hvars, filled, hfilled, hderives⟩ := h
  exact ⟨hvars, filled, hfilled, fun rest' hrest' => (hderives rest' hrest').imp_right (himp _ _)⟩

/-- A part without a dollar sign is left as it is. -/
theorem fills_of_notMem (fixed : List Char) (hfixed : '$' ∉ fixed)
    (hvars : vars.IsHarmless (fixed ++ rest))
    (h : ∀ rest', (Stops Char.isDigit rest → Stops Char.isDigit rest') →
      derives (fixed ++ rest') rest') : Fills vars derives (fixed ++ rest) rest :=
  ⟨hvars.of_append hfixed, fixed, Variables.fill_append_of_notMem hfixed,
    fun rest' hrest' => ⟨Stops.append_congr hrest' fixed, h rest' hrest'⟩⟩

theorem fills_fixed {fixed : List Char} (hfixed : '$' ∉ fixed)
    (hvars : vars.IsHarmless (fixed ++ rest)) :
    Fills vars (fun cs rest => cs = fixed ++ rest) (fixed ++ rest) rest :=
  fills_of_notMem fixed hfixed hvars fun _ _ => rfl

/-- Two parts one after the other. -/
theorem Fills.comp (h : Fills vars derives cs mid) (h' : Fills vars derives' mid rest) :
    Fills vars (Relation.Comp derives derives') cs rest := by
  obtain ⟨-, first, hfirst, hderives⟩ := h
  obtain ⟨hvars, second, hsecond, hderives'⟩ := h'
  refine ⟨hvars, first ++ second, ?_, fun rest' hrest' => ?_⟩
  · rw [hfirst, hsecond, List.append_assoc]
  · obtain ⟨hstops', h'⟩ := hderives' rest' hrest'
    obtain ⟨hstops, h⟩ := hderives (second ++ rest') hstops'
    rw [List.append_assoc]
    exact ⟨hstops, _, h, h'⟩

/-- A part between two others without a dollar sign. -/
theorem Fills.enclosed {opening closing : List Char} (hopening : '$' ∉ opening)
    (hclosing : '$' ∉ closing) (hvars : vars.IsHarmless (opening ++ cs))
    (h : vars.IsHarmless cs → Fills vars derives cs (closing ++ rest))
    (himp : ∀ cs rest, derives cs (closing ++ rest) → derives' (opening ++ cs) rest) :
    Fills vars derives' (opening ++ cs) rest := by
  have hopening' := fills_fixed hopening hvars
  have hinside := h hopening'.1
  refine (hopening'.comp (hinside.comp (fills_fixed hclosing hinside.1))).imp ?_
  rintro _ rest ⟨cs, rfl, _, hcs, rfl⟩
  exact himp cs rest hcs

theorem DerivesBody.fills {body s : List Char} (h : DerivesBody body s)
    (hvars : vars.IsHarmless ('"' :: (body ++ '"' :: rest))) :
    Fills vars (DerivesValue · (.string (vars.expand (String.ofList s))) ·)
      ('"' :: (body ++ '"' :: rest)) rest := by
  have hquote : '$' ∉ ['"'] := by decide
  have hinside : vars.IsHarmless (body ++ '"' :: rest) :=
    Variables.IsHarmless.of_append hvars hquote
  obtain ⟨hbody, hrest⟩ := hinside.of_append_quote
  refine ⟨hrest, '"' :: (vars.fill body ++ ['"']), ?_, fun rest' _ => ?_⟩
  · change vars.fill (['"'] ++ (body ++ '"' :: rest)) = _
    rw [Variables.fill_append_of_notMem hquote, hinside.fill_append_quote]
    simp
  · have hvalue := DerivesValue.string rest' (h.fill hbody)
    rw [Variables.expand_eq_fill, String.toList_ofList]
    simpa using hvalue

theorem DerivesArgs.fills {args : List (String × Value)} (h : DerivesArgs cs args rest)
    (hvars : vars.IsHarmless cs)
    (hargs : ∀ arg ∈ args, ∀ {cs rest}, DerivesValue cs arg.2 rest → vars.IsHarmless cs →
      Fills vars (DerivesValue · (arg.2.mapStrings vars.expand) ·) cs rest) :
    Fills vars (DerivesArgs · (mapArgs vars.expand args) ·) cs rest := by
  induction args generalizing cs with
  | nil =>
      cases h
      exact fills_of_notMem [] List.not_mem_nil hvars fun rest' _ => .nil rest'
  | cons arg args ih =>
      cases h with
      | @cons ws ws' cs mid _ key v _ hws hkey hws' hne hv hrest =>
          have hfixed : '$' ∉ ws ++ ':' :: (key.toList ++ ws') := by
            simp [hws.notMem_dollar, notMem_dollar_of_isName hkey, hws'.notMem_dollar]
          have hassoc (cs : List Char) : ws ++ ':' :: (key.toList ++ (ws' ++ cs)) =
              (ws ++ ':' :: (key.toList ++ ws')) ++ cs := by simp
          rw [hassoc] at hvars ⊢
          have hkey' := fills_fixed hfixed hvars
          have hfirst := hargs _ List.mem_cons_self hv hkey'.1
          have hothers := ih hrest hfirst.1 fun a ha => hargs a (List.mem_cons_of_mem _ ha)
          refine (hkey'.comp (hfirst.comp hothers)).imp ?_
          rintro _ rest ⟨cs, rfl, mid, hv, hargs⟩
          rw [← hassoc]
          exact .cons hws hkey hws' hne hv hargs

theorem DerivesItems.fills {items : List Value} (h : DerivesItems cs items rest)
    (hvars : vars.IsHarmless cs)
    (hitems : ∀ v ∈ items, ∀ {cs rest}, DerivesValue cs v rest → vars.IsHarmless cs →
      Fills vars (DerivesValue · (v.mapStrings vars.expand) ·) cs rest) :
    Fills vars (DerivesItems · (mapItems vars.expand items) ·) cs rest := by
  induction items generalizing cs with
  | nil =>
      cases h
      exact fills_of_notMem [] List.not_mem_nil hvars fun rest' _ => .nil rest'
  | cons v items ih =>
      cases h with
      | cons hv hsep hrest =>
          have hfirst := hitems _ List.mem_cons_self hv hvars
          have hsep' := fills_fixed hsep.notMem_dollar hfirst.1
          have hothers := ih hrest hsep'.1 fun w hw => hitems w (List.mem_cons_of_mem _ hw)
          refine (hfirst.comp (hsep'.comp hothers)).imp ?_
          rintro cs rest ⟨_, hv, mid, rfl, hitems⟩
          exact .cons hv hsep hitems

/-- With harmless values, a written value is filled in by expanding its strings. -/
theorem DerivesValue.fills {v : Value} (h : DerivesValue cs v rest) (hvars : vars.IsHarmless cs) :
    Fills vars (DerivesValue · (v.mapStrings vars.expand) ·) cs rest := by
  -- On the tree, as the relations are mutual.
  induction v using Value.induction generalizing cs rest with
  | nil =>
      cases h with
      | nil => exact fills_of_notMem ['n', 'i', 'l'] (by decide) hvars fun _ _ => .nil _
  | boolean =>
      cases h with
      | yes => exact fills_of_notMem ['t', 'r', 'u', 'e'] (by decide) hvars fun _ _ => .yes _
      | no => exact fills_of_notMem ['f', 'a', 'l', 's', 'e'] (by decide) hvars fun _ _ => .no _
  | string =>
      cases h with
      | string _ hbody => exact hbody.fills hvars
  | integer =>
      cases h with
      | integer hcs hrest =>
          exact fills_of_notMem _ hcs.notMem_dollar hvars fun rest' hrest' =>
            .integer hcs (hrest' hrest)
  | expr tag args ih =>
      cases h with
      | expr he =>
          cases he with
          | @node ws _ ws' _ _ _ hws htag hargs hws' =>
              have hopening : '$' ∉ '(' :: (ws ++ tag.toList) := by
                simp [hws.notMem_dollar, notMem_dollar_of_isName htag]
              have hclosing : '$' ∉ ws' ++ [')'] := by simp [hws'.notMem_dollar]
              have hassoc (cs : List Char) : '(' :: (ws ++ (tag.toList ++ cs)) =
                  ('(' :: (ws ++ tag.toList)) ++ cs := by simp
              have hassoc' (cs : List Char) : ws' ++ ')' :: cs = (ws' ++ [')']) ++ cs := by simp
              rw [hassoc] at hvars ⊢
              rw [hassoc'] at hargs
              refine .enclosed hopening hclosing hvars
                (fun hcs => hargs.fills hcs fun arg harg _ _ => ih arg harg) fun cs rest hargs => ?_
              rw [← hassoc'] at hargs
              rw [← hassoc]
              exact .expr (.node hws htag hargs hws')
  | list items ih =>
      cases h with
      | @list ws _ ws' _ _ hws hitems hws' =>
          have hopening : '$' ∉ '[' :: ws := by simp [hws.notMem_dollar]
          have hclosing : '$' ∉ ws' ++ [']'] := by simp [hws'.notMem_dollar]
          have hassoc (cs : List Char) : ws' ++ ']' :: cs = (ws' ++ [']']) ++ cs := by simp
          rw [hassoc] at hitems
          refine .enclosed hopening hclosing hvars
            (fun hcs => hitems.fills hcs fun v hv _ _ => ih v hv) fun cs rest hitems => ?_
          rw [← hassoc] at hitems
          exact .list hws hitems hws'

end

/-! ### Whole texts -/

/-- With harmless values, expanding a written expression expands its strings. -/
theorem DerivesText.expand {vars : Variables} {text : String} {e : Expr} (h : DerivesText text e)
    (hvars : vars.IsHarmless text.toList) :
    DerivesText (vars.expand text) (e.mapStrings vars.expand) := by
  cases h with
  | @intro ws cs ws' _ hws he hws' =>
      rw [String.toList_ofList] at hvars
      have hcs := hvars.of_append hws.notMem_dollar
      obtain ⟨-, filled, hfilled, hderives⟩ := (DerivesValue.expr he).fills hcs
      rw [Variables.expand_eq_fill, String.toList_ofList,
        Variables.fill_append_of_notMem hws.notMem_dollar, hfilled,
        Variables.fill_of_notMem hws'.notMem_dollar]
      exact .intro hws (derivesValue_expr_iff.1 (hderives ws' id).2) hws'

end Expr

end BuildPicker
