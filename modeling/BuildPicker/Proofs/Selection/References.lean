import BuildPicker.Proofs.Selection.Parameters

/-!
The three spellings of a parameter that leads to a variable.

The name of a variable gives its value as it was bound, and a reference gives it
trimmed. Trimming takes off more kinds of white space than may stand around an
expression. So the spellings lead to the same selector if there is only such white
space around the value as an expression may have; otherwise the name leads to none.
-/

namespace BuildPicker

open BuildPicker.Text

namespace Expr

/-! ### White space around expressions -/

/-- Whether all that trimming takes off may stand around an expression. -/
def IsSpaced (text : String) : Prop :=
  ∃ ws ws', IsSpacing ws ∧ IsSpacing ws' ∧ text.toList = ws ++ ((trim text).toList ++ ws')

theorem ofSource_eq_ok_iff_trim (text : String) {e : Expr} :
    ofSource text = .ok e ↔ ofSource (trim text) = .ok e ∧ IsSpaced text := by
  simp only [ofSource_eq_ok_iff_derivesText]
  constructor
  · rintro ⟨hderives, hnesting⟩
    obtain ⟨ws, ws', hws, hws', htext, htrim, -⟩ := hderives.exists_eq_append_trim
    exact ⟨⟨htrim, hnesting⟩, ws, ws', hws, hws', htext⟩
  · rintro ⟨⟨htrim, hnesting⟩, ws, ws', hws, hws', htext⟩
    exact ⟨htrim.append hws hws' htext, hnesting⟩

end Expr

namespace Selector

variable {vars : Variables} {name value parameter text : String}

theorem decode_eq_ok_iff_trim (value : String) {s : Selector} :
    decode value = .ok s ↔ decode (trim value) = .ok s ∧ Expr.IsSpaced value := by
  simp only [decode_eq_ok_iff, Expr.ofSource_eq_ok_iff_trim value]
  constructor
  · rintro ⟨e, ⟨he, hspaced⟩, hs⟩
    exact ⟨⟨e, he, hs⟩, hspaced⟩
  · rintro ⟨⟨e, he, hs⟩, hspaced⟩
    exact ⟨e, ⟨he, hspaced⟩, hs⟩

/-! ### What the spellings lead to -/

theorem value_resolve (htext : (expression? vars parameter).value = some text) :
    (resolve vars parameter).value = (decode text).toOption := by
  rw [resolve, Logged.value_bind, htext]
  dsimp only
  cases decode text with
  | ok s => rfl
  | error e => rfl

/-- The name leads to what the value is decoded to, a reference to what is left of it when it is
trimmed. -/
theorem value_resolve_spelling (hname : IsVariableName name.toList)
    (hvalue : vars.get? name = some value) (hhead : (trim value).toList.head? = some '(') :
    (resolve vars name).value = (decode value).toOption ∧
    ∀ parameter ∈ Variables.references name,
      (resolve vars parameter).value = (decode (trim value)).toOption := by
  refine ⟨value_resolve (value_expression?_of_name hname hvalue), fun parameter hparameter => ?_⟩
  have hblank := Variables.isBlankText_of_mem_references hparameter
  have hexpand := Variables.expand_of_mem_references hname hvalue hparameter
  exact value_resolve (value_expression?_of_expand hblank hexpand hhead)

theorem toOption_eq_toOption_iff {α β : Type} {x y : Except α β} :
    x.toOption = y.toOption ↔ ∀ b, x = .ok b ↔ y = .ok b := by
  cases x with
  | error a => cases y <;> simp [Except.toOption]
  | ok b => cases y <;> simp [Except.toOption, eq_comm]

theorem toOption_decode_eq_iff :
    (decode value).toOption = (decode (trim value)).toOption ↔
      Expr.IsSpaced value ∨ ∀ s, decode (trim value) ≠ .ok s := by
  simp only [toOption_eq_toOption_iff, decode_eq_ok_iff_trim value]
  constructor
  · intro h
    by_cases hspaced : Expr.IsSpaced value
    · exact .inl hspaced
    · exact .inr fun s hs => hspaced ((h s).2 hs).2
  · rintro (hspaced | hundecodable) s
    · exact and_iff_left hspaced
    · exact iff_of_false (fun hs => hundecodable s hs.1) (hundecodable s)

/-- The name of a variable and the references to it lead to the same selector, or all to none, just
if nothing but white space that an expression may have stands around its value, or the value is no
selector even when it is trimmed. Otherwise only the references lead to a selector. -/
theorem resolve_spellings_iff (hname : IsVariableName name.toList)
    (hvalue : vars.get? name = some value) (hhead : (trim value).toList.head? = some '(') :
    ((∃ s?, ∀ parameter ∈ name :: Variables.references name,
        (resolve vars parameter).value = s?) ↔
      Expr.IsSpaced value ∨ ∀ s, decode (trim value) ≠ .ok s) ∧
    ∀ s, ¬Expr.IsSpaced value → decode (trim value) = .ok s →
      (resolve vars name).value = none ∧
      ∀ parameter ∈ Variables.references name, (resolve vars parameter).value = some s := by
  obtain ⟨hplain, hreferences⟩ := value_resolve_spelling hname hvalue hhead
  refine ⟨?_, fun s hspaced hs => ⟨?_, fun parameter hparameter => ?_⟩⟩
  · rw [← toOption_decode_eq_iff]
    constructor
    · rintro ⟨s?, hall⟩
      have hreference : "$" ++ name ∈ Variables.references name := List.mem_cons_self
      rw [← hplain, ← hreferences _ hreference, hall _ List.mem_cons_self,
        hall _ (List.mem_cons_of_mem _ hreference)]
    · intro heq
      refine ⟨(decode value).toOption, List.forall_mem_cons.2 ⟨hplain, ?_⟩⟩
      rwa [heq]
  · rw [hplain]
    cases hdecode : decode value with
    | error e => rfl
    | ok s' => exact absurd ((decode_eq_ok_iff_trim value).1 hdecode).2 hspaced
  · rw [hreferences parameter hparameter, hs]
    rfl

/-- Tabs and line breaks around a value make no difference. -/
theorem resolve_spellings_spaced :
    let value := "\n\t(status :build-status \"failed\") \r"
    let vars : Variables := Table.empty.insert "CHOICE" value
    IsVariableName "CHOICE".toList ∧ vars.get? "CHOICE" = some value ∧
    (trim value).toList.head? = some '(' ∧
    ∃ s?, ∀ parameter ∈ ["CHOICE", "$CHOICE", "$\x7bCHOICE\x7d"],
      (resolve vars parameter).value = s? := by
  intro value vars
  have hname : IsVariableName "CHOICE".toList := by decide
  have hvalue : vars.get? "CHOICE" = some value := Table.get?_insert_self _ _ _
  have hhead : (trim value).toList.head? = some '(' := by decide
  have hspaced : Expr.IsSpaced value :=
    ⟨['\n', '\t'], [' ', '\r'], List.all_eq_true.1 rfl, List.all_eq_true.1 rfl, by decide⟩
  exact ⟨hname, hvalue, hhead, (resolve_spellings_iff hname hvalue hhead).1.2 (.inl hspaced)⟩

/-- A value behind a no-break space is a selector for the references only. -/
theorem not_resolve_spellings :
    let value := "\u00a0(status :build-status \"failed\")"
    let vars : Variables := Table.empty.insert "CHOICE" value
    (trim value).toList.head? = some '(' ∧ (resolve vars "CHOICE").value = none ∧
    ∀ parameter ∈ ["$CHOICE", "$\x7bCHOICE\x7d"],
      (resolve vars parameter).value = some (.status .failed) := by
  intro value vars
  have hhead : (trim value).toList.head? = some '(' := by decide
  have hvalue : vars.get? "CHOICE" = some value := Table.get?_insert_self _ _ _
  obtain ⟨hplain, hreferences⟩ := value_resolve_spelling (by decide) hvalue hhead
  let e : Expr := .node "status" [("build-status", .string "failed")]
  have hread : Expr.ofText (trim value) = .ok e := by cbv
  have htrim : decode (trim value) = .ok (.status .failed) :=
    decode_eq_ok_iff.2 ⟨e, Expr.ofSource_eq_ok_iff.2 ⟨by decide, hread⟩, rfl⟩
  have hspaced : ¬Expr.IsSpaced value := by
    rintro ⟨ws, ws', hws, -, htext⟩
    have hfirst : value.toList.head? = some '\u00a0' := by decide
    rw [htext] at hfirst
    cases ws with
    | nil =>
        rw [List.nil_append, List.head?_append, hhead, Option.some_or] at hfirst
        exact absurd hfirst (by decide)
    | cons c ws =>
        obtain rfl : c = '\u00a0' := Option.some.inj hfirst
        exact absurd (hws _ List.mem_cons_self) (by decide)
  refine ⟨hhead, ?_, fun parameter hparameter => ?_⟩
  · rw [hplain]
    cases hdecode : decode value with
    | error e => rfl
    | ok s => exact absurd ((decode_eq_ok_iff_trim value).1 hdecode).2 hspaced
  · rw [hreferences parameter hparameter, htrim]
    rfl

end Selector

end BuildPicker
