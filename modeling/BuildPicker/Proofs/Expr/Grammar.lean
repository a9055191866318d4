import BuildPicker.Proofs.Expr.Shape

/-!
The grammar of written expressions, as relations between texts and trees.

`DerivesValue cs v rest` says that `cs` begins with a spelling of `v` and goes on
with `rest`, and so for the other parts; `DerivesText` is about a whole text. The
relations do not look ahead and do not choose: white space may be divided among
neighbouring parts in any way, and nothing bounds the nesting. What they say
about the text behind a part is only that a run of digits is taken as a whole.
-/

namespace BuildPicker

open BuildPicker.Text

namespace Expr

/-! ### Spacing, strings and numbers -/

/-- A run of characters of the class `p` does not go on at the beginning of `rest`. -/
def Stops (p : Char → Bool) (rest : List Char) : Prop := ∀ c ∈ rest.head?, p c = false

@[simp] theorem stops_nil (p : Char → Bool) : Stops p [] := by simp [Stops]

@[simp] theorem stops_cons (p : Char → Bool) (c : Char) (rest : List Char) :
    Stops p (c :: rest) ↔ p c = false := by
  simp [Stops]

/-- White space between parts, also none. -/
def IsSpacing (ws : List Char) : Prop := ∀ c ∈ ws, isSpace c

theorem isSpacing_nil : IsSpacing [] := by simp [IsSpacing]

/-- A class of characters keeps clear of white space if it does so for the four characters. -/
theorem eq_false_of_isSpace {p : Char → Bool} (hp : [' ', '\t', '\r', '\n'].any p = false)
    {c : Char} (hc : isSpace c) : p c = false := by
  refine Bool.eq_false_iff.2 (List.any_eq_false.1 hp c ?_)
  simpa [isSpace, or_assoc] using hc

theorem isSpace_eq_false_of {p : Char → Bool} (hp : [' ', '\t', '\r', '\n'].any p = false)
    {c : Char} (hc : p c) : isSpace c = false := by
  rw [Bool.eq_false_iff]
  intro hspace
  exact absurd hc (Bool.eq_false_iff.1 (eq_false_of_isSpace hp hspace))

/-- What may stand behind an item of a list: white space with at most one comma in it. -/
inductive IsSeparator : List Char → Prop
  | blank {ws : List Char} (hws : IsSpacing ws) : IsSeparator ws
  | comma {ws ws' : List Char} (hws : IsSpacing ws) (hws' : IsSpacing ws') :
      IsSeparator (ws ++ ',' :: ws')

/-- The character behind a backslash, and the one that both stand for. -/
inductive Escapes : Char → Char → Prop
  | quote : Escapes '"' '"'
  | backslash : Escapes '\\' '\\'
  | lineFeed : Escapes 'n' '\n'
  | carriageReturn : Escapes 'r' '\r'
  | tab : Escapes 't' '\t'

/-- What is written between two quotes, and the characters it stands for. -/
inductive DerivesBody : List Char → List Char → Prop
  | nil : DerivesBody [] []
  | plain {c : Char} {body s : List Char} (hquote : c ≠ '"') (hbackslash : c ≠ '\\')
      (hbody : DerivesBody body s) : DerivesBody (c :: body) (c :: s)
  | escape {c d : Char} {body s : List Char} (hc : Escapes c d)
      (hbody : DerivesBody body s) : DerivesBody ('\\' :: c :: body) (d :: s)

/-- Digits after an optional minus sign, and the number they stand for. -/
inductive DerivesNumber : List Char → Int → Prop
  | positive {ds : List Char} (hne : ds ≠ []) (hds : ∀ c ∈ ds, c.isDigit) :
      DerivesNumber ds (Nat.ofDigitChars 10 ds 0)
  | negative {ds : List Char} (hne : ds ≠ []) (hds : ∀ c ∈ ds, c.isDigit) :
      DerivesNumber ('-' :: ds) (-(Nat.ofDigitChars 10 ds 0))

/-! ### Values, expressions, arguments and items -/

mutual

inductive DerivesValue : List Char → Value → List Char → Prop
  | yes (rest : List Char) :
      DerivesValue ('t' :: 'r' :: 'u' :: 'e' :: rest) (.boolean true) rest
  | no (rest : List Char) :
      DerivesValue ('f' :: 'a' :: 'l' :: 's' :: 'e' :: rest) (.boolean false) rest
  | nil (rest : List Char) : DerivesValue ('n' :: 'i' :: 'l' :: rest) .nil rest
  | string {body s : List Char} (rest : List Char) (hbody : DerivesBody body s) :
      DerivesValue ('"' :: (body ++ '"' :: rest)) (.string (String.ofList s)) rest
  | integer {cs rest : List Char} {i : Int64} (hcs : DerivesNumber cs i.toInt)
      (hrest : Stops Char.isDigit rest) : DerivesValue (cs ++ rest) (.integer i) rest
  | expr {cs rest : List Char} {e : Expr} (he : DerivesExpr cs e rest) :
      DerivesValue cs (.expr e) rest
  | list {ws cs ws' rest : List Char} {items : List Value} (hws : IsSpacing ws)
      (hitems : DerivesItems cs items (ws' ++ ']' :: rest)) (hws' : IsSpacing ws') :
      DerivesValue ('[' :: (ws ++ cs)) (.list items) rest

inductive DerivesExpr : List Char → Expr → List Char → Prop
  | node {ws cs ws' rest : List Char} {tag : String} {args : List (String × Value)}
      (hws : IsSpacing ws) (htag : isName tag.toList)
      (hargs : DerivesArgs cs args (ws' ++ ')' :: rest)) (hws' : IsSpacing ws') :
      DerivesExpr ('(' :: (ws ++ (tag.toList ++ cs))) (.node tag args) rest

/-- Arguments one after the other. The white space behind a key cannot be left out. -/
inductive DerivesArgs : List Char → List (String × Value) → List Char → Prop
  | nil (rest : List Char) : DerivesArgs rest [] rest
  | cons {ws ws' cs mid rest : List Char} {key : String} {v : Value}
      {args : List (String × Value)} (hws : IsSpacing ws) (hkey : isName key.toList)
      (hws' : IsSpacing ws') (hne : ws' ≠ []) (hv : DerivesValue cs v mid)
      (hargs : DerivesArgs mid args rest) :
      DerivesArgs (ws ++ ':' :: (key.toList ++ (ws' ++ cs))) ((key, v) :: args) rest

/-- Items one after the other, each with what separates it from the next part. -/
inductive DerivesItems : List Char → List Value → List Char → Prop
  | nil (rest : List Char) : DerivesItems rest [] rest
  | cons {cs sep mid rest : List Char} {v : Value} {items : List Value}
      (hv : DerivesValue cs v (sep ++ mid)) (hsep : IsSeparator sep)
      (hitems : DerivesItems mid items rest) : DerivesItems cs (v :: items) rest

end

/-- A whole text: an expression with white space around it. -/
inductive DerivesText : String → Expr → Prop
  | intro {ws cs ws' : List Char} {e : Expr} (hws : IsSpacing ws)
      (he : DerivesExpr cs e ws') (hws' : IsSpacing ws') :
      DerivesText (String.ofList (ws ++ cs)) e

theorem derivesValue_expr_iff {cs rest : List Char} {e : Expr} :
    DerivesValue cs (.expr e) rest ↔ DerivesExpr cs e rest := by
  constructor
  · rintro ⟨⟩
    assumption
  · exact .expr

/-! ### The beginning of a part -/

theorem DerivesNumber.head {cs : List Char} {i : Int} (h : DerivesNumber cs i) :
    ∃ c tail, cs = c :: tail ∧ (c = '-' ∨ c.isDigit) := by
  cases h with
  | negative => exact ⟨_, _, rfl, .inl rfl⟩
  | positive hne hds =>
      obtain ⟨d, ds, rfl⟩ := List.exists_cons_of_ne_nil hne
      exact ⟨d, ds, rfl, .inr (hds d (by simp))⟩

/-- A value begins with a character of its own, neither white space nor a comma. -/
theorem DerivesValue.head {cs rest : List Char} {v : Value} (h : DerivesValue cs v rest) :
    ∃ c tail, cs = c :: tail ∧ isSpace c = false ∧ c ≠ ',' := by
  cases h with
  | yes | no | nil | string | list => exact ⟨_, _, rfl, by decide, by decide⟩
  | expr he =>
      cases he
      exact ⟨_, _, rfl, by decide, by decide⟩
  | integer hcs =>
      obtain ⟨c, tail, rfl, rfl | hc⟩ := hcs.head
      · exact ⟨_, _, rfl, by decide, by decide⟩
      · refine ⟨c, _, rfl, isSpace_eq_false_of (by decide) hc, ?_⟩
        rintro rfl
        exact absurd hc (by decide)

/-! ### Names and length -/

theorem DerivesArgs.length_le {args : List (String × Value)} {cs rest : List Char}
    (h : DerivesArgs cs args rest)
    (hargs : ∀ arg ∈ args, ∀ {cs rest}, DerivesValue cs arg.2 rest → rest.length ≤ cs.length) :
    rest.length + args.length ≤ cs.length := by
  induction args generalizing cs with
  | nil =>
      cases h
      simp
  | cons arg args ih =>
      cases h with
      | cons hws hkey hws' hne hv hrest =>
          have hhead := hargs _ List.mem_cons_self hv
          have htail := ih hrest (fun a ha => hargs a (List.mem_cons_of_mem _ ha))
          simp only [List.length_append, List.length_cons]
          omega

theorem DerivesItems.length_le {items : List Value} {cs rest : List Char}
    (h : DerivesItems cs items rest)
    (hitems : ∀ v ∈ items, ∀ {cs rest}, DerivesValue cs v rest → rest.length < cs.length) :
    rest.length + items.length ≤ cs.length := by
  induction items generalizing cs with
  | nil =>
      cases h
      simp
  | cons v items ih =>
      cases h with
      | cons hv hsep hrest =>
          have hhead := hitems _ List.mem_cons_self hv
          have htail := ih hrest (fun w hw => hitems w (List.mem_cons_of_mem _ hw))
          simp only [List.length_append, List.length_cons] at hhead ⊢
          omega

/-- A value takes at least one character. -/
theorem DerivesValue.length_lt {v : Value} {cs rest : List Char} (h : DerivesValue cs v rest) :
    rest.length < cs.length := by
  -- On the tree, not on the derivation: the relations are mutual, the trees have one induction.
  induction v using Value.induction generalizing cs rest with
  | nil | boolean | string =>
      cases h <;> simp <;> omega
  | integer =>
      cases h with
      | integer hcs =>
          obtain ⟨c, tail, rfl, -⟩ := hcs.head
          simp only [List.length_append, List.length_cons]
          omega
  | expr tag args ih =>
      cases h with
      | expr he =>
          cases he with
          | node hws htag hargs hws' =>
              have := hargs.length_le (fun arg harg _ _ hv => Nat.le_of_lt (ih arg harg hv))
              simp only [List.length_append, List.length_cons] at this ⊢
              omega
  | list items ih =>
      cases h with
      | list hws hitems hws' =>
          have := hitems.length_le (fun v hv _ _ h => ih v hv h)
          simp only [List.length_append, List.length_cons] at this ⊢
          omega

theorem DerivesArgs.isWellNamed {args : List (String × Value)} {cs rest : List Char}
    (h : DerivesArgs cs args rest)
    (hargs : ∀ arg ∈ args, ∀ {cs rest}, DerivesValue cs arg.2 rest → arg.2.IsWellNamed) :
    ∀ arg ∈ args, isName arg.1.toList ∧ arg.2.IsWellNamed := by
  induction args generalizing cs with
  | nil => simp
  | cons arg args ih =>
      cases h with
      | cons hws hkey hws' hne hv hrest =>
          refine List.forall_mem_cons.2 ⟨⟨hkey, hargs _ List.mem_cons_self hv⟩, ?_⟩
          exact ih hrest (fun a ha => hargs a (List.mem_cons_of_mem _ ha))

theorem DerivesItems.isWellNamed {items : List Value} {cs rest : List Char}
    (h : DerivesItems cs items rest)
    (hitems : ∀ v ∈ items, ∀ {cs rest}, DerivesValue cs v rest → v.IsWellNamed) :
    ∀ v ∈ items, v.IsWellNamed := by
  induction items generalizing cs with
  | nil => simp
  | cons v items ih =>
      cases h with
      | cons hv hsep hrest =>
          refine List.forall_mem_cons.2 ⟨hitems _ List.mem_cons_self hv, ?_⟩
          exact ih hrest (fun w hw => hitems w (List.mem_cons_of_mem _ hw))

/-- Whatever the grammar derives has names for tags and keys. -/
theorem DerivesValue.isWellNamed {v : Value} {cs rest : List Char}
    (h : DerivesValue cs v rest) : v.IsWellNamed := by
  induction v using Value.induction generalizing cs rest with
  | nil | boolean | string | integer => simp [Value.IsWellNamed, Value.names]
  | expr tag args ih =>
      cases h with
      | expr he =>
          cases he with
          | node hws htag hargs hws' =>
              exact Expr.isWellNamed_node_iff.2
                ⟨htag, hargs.isWellNamed fun arg harg _ _ hv => ih arg harg hv⟩
  | list items ih =>
      cases h with
      | list hws hitems hws' =>
          exact Value.isWellNamed_list_iff.2
            (hitems.isWellNamed fun v hv _ _ h => ih v hv h)

theorem DerivesText.isWellNamed {s : String} {e : Expr} (h : DerivesText s e) :
    e.IsWellNamed := by
  cases h with
  | intro hws he hws' => exact (DerivesValue.expr he).isWellNamed

end Expr

end BuildPicker
