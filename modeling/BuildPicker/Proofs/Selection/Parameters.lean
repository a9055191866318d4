import BuildPicker.Selection.Session
import BuildPicker.Proofs.Codec.Reencoding
import BuildPicker.Proofs.Expr.Spelling
import BuildPicker.Proofs.Selection.Candidates
import BuildPicker.Proofs.Selection.Verdict
import BuildPicker.Proofs.Template

/-!
Selectors and filters that travel in variables.

A text that can be decoded begins with a parenthesis, but for white space. So a value
that stands in the place of a reference is taken for an expression, not for a name,
and not for a reference either. The name of a variable, on the other hand, is neither
trimmed nor expanded any further. Either way the value is decoded as it was bound.
-/

namespace BuildPicker

open BuildPicker.Text

/-! ### Texts that can be decoded -/

namespace Expr

variable {text : String} {e : Expr}

theorem derivesText_of_ofSource (h : ofSource text = .ok e) : DerivesText text e :=
  (ofSource_eq_ok_iff_derivesText.1 h).1

theorem head?_trim_of_ofSource (h : ofSource text = .ok e) :
    (trim text).toList.head? = some '(' :=
  (derivesText_of_ofSource h).trim.2

theorem ofSource_trim (h : ofSource text = .ok e) : ofSource (trim text) = .ok e := by
  obtain ⟨hderives, hnesting⟩ := ofSource_eq_ok_iff_derivesText.1 h
  exact ofSource_eq_ok_iff_derivesText.2 ⟨hderives.trim.1, hnesting⟩

theorem isUnresolved_of_ofSource (h : ofSource text = .ok e) : isUnresolved text = false := by
  obtain ⟨ws, inside, ws', hws, -, htext, -⟩ := (derivesText_of_ofSource h).exists_spelling
  rw [isUnresolved, htext]
  cases ws with
  | nil => rfl
  | cons c ws =>
      have hc : c ≠ '$' := by
        rintro rfl
        exact absurd (hws _ List.mem_cons_self) (by decide)
      simpa using hc

end Expr

namespace Selector

theorem decode_trim {text : String} {s : Selector} (h : decode text = .ok s) :
    decode (trim text) = .ok s ∧ (trim text).toList.head? = some '(' := by
  obtain ⟨e, he, hs⟩ := decode_eq_ok_iff.1 h
  exact ⟨decode_eq_ok_iff.2 ⟨e, Expr.ofSource_trim he, hs⟩, Expr.head?_trim_of_ofSource he⟩

end Selector

/-! ### Parameters that name a variable -/

namespace Variables

/-- The references to a variable. -/
def references (name : String) : List String :=
  ["$" ++ name, "$\x7b" ++ name ++ "\x7d"]

theorem isBlankText_of_mem_references {name parameter : String}
    (h : parameter ∈ references name) : isBlankText parameter = false := by
  simp only [references, List.mem_cons, List.not_mem_nil, or_false] at h
  obtain rfl | rfl := h
  all_goals
    simp only [isBlankText, String.toList_append, List.all_append]
    rfl

theorem expand_of_mem_references {vars : Variables} {name value parameter : String}
    (hname : IsVariableName name.toList) (hvalue : vars.get? name = some value)
    (h : parameter ∈ references name) : vars.expand parameter = value := by
  obtain ⟨hplain, hbraced⟩ := expand_reference hname hvalue
  simp only [references, List.mem_cons, List.not_mem_nil, or_false] at h
  obtain rfl | rfl := h
  · exact hplain
  · exact hbraced

end Variables

namespace IsVariableName

variable {name : String} (hname : IsVariableName name.toList)

include hname

theorem not_mem {c : Char} (hc : Reference.isNameChar c = false) : c ∉ name.toList :=
  fun hmem => Reference.ne_of_isNameChar (hname.2 c hmem) hc rfl

theorem head?_ne {c : Char} (hc : Reference.isNameChar c = false) :
    name.toList.head? ≠ some c :=
  fun hhead => hname.not_mem hc (List.mem_of_mem_head? hhead)

theorem isBlankText_eq_false : isBlankText name = false := by
  obtain ⟨c, tail, htail⟩ := List.exists_cons_of_ne_nil hname.1
  have hc : isBlank c = false :=
    Reference.isBlank_eq_false_of_isNameChar (hname.2 c (htail ▸ List.mem_cons_self))
  rw [isBlankText, htail, List.all_cons, hc, Bool.false_and]

theorem trim_eq : trim name = name :=
  trim_eq_self fun c hc => Reference.isBlank_eq_false_of_isNameChar (hname.2 c hc)

end IsVariableName

namespace Selector

variable {vars : Variables} {parameter name value : String} {s : Selector}

/-- A parameter that expands to an expression gives this expression. -/
theorem value_expression?_of_expand (hblank : isBlankText parameter = false)
    (hexpand : vars.expand parameter = value) (hhead : (trim value).toList.head? = some '(') :
    (expression? vars parameter).value = some (trim value) := by
  rw [expression?, hblank, hexpand]
  simp only [Bool.false_eq_true, if_false, hhead, if_true, Logged.value_bind, Logged.value_pure]

/-- The name of a variable gives what is bound to it. -/
theorem value_expression?_of_name (hname : IsVariableName name.toList)
    (hvalue : vars.get? name = some value) :
    (expression? vars name).value = some value := by
  have hexpand : trim (vars.expand name) = name := by
    rw [vars.expand_of_not_mem (hname.not_mem (by decide)), hname.trim_eq]
  have hparen : name.toList.head? ≠ some '(' := hname.head?_ne (by decide)
  have hresolved : isUnresolved name = false := decide_eq_false (hname.head?_ne (by decide))
  have hempty : name.isEmpty = false := by
    rw [Bool.eq_false_iff, ne_eq, String.isEmpty_iff]
    rintro rfl
    exact hname.1 rfl
  rw [expression?, hname.isBlankText_eq_false]
  simp only [Bool.false_eq_true, if_false, hexpand, hparen, hresolved, hempty, hvalue,
    Logged.value_bind, Logged.value_pure]

theorem value_resolve_of_expression? {text : String}
    (htext : (expression? vars parameter).value = some text) (hs : decode text = .ok s) :
    (resolve vars parameter).value = some s := by
  rw [resolve, Logged.value_bind, htext]
  simp only [hs, Logged.value_pure]

/-- Whether the variable is named or referred to, the selector is the one that its value is
decoded to. -/
theorem value_resolve_of_get? (hname : IsVariableName name.toList)
    (hvalue : vars.get? name = some value) (hs : decode value = .ok s)
    (hparameter : parameter ∈ name :: Variables.references name) :
    (resolve vars parameter).value = some s := by
  obtain rfl | hparameter := List.mem_cons.1 hparameter
  · exact value_resolve_of_expression? (value_expression?_of_name hname hvalue) hs
  · obtain ⟨htrim, hhead⟩ := decode_trim hs
    have hblank := Variables.isBlankText_of_mem_references hparameter
    have hexpand := Variables.expand_of_mem_references hname hvalue hparameter
    exact value_resolve_of_expression? (value_expression?_of_expand hblank hexpand hhead) htrim

end Selector

namespace Filter

theorem isUnresolved_of_decode {text : String} {f : Filter} (h : decode text = .ok f) :
    isUnresolved text = false := by
  obtain ⟨e, he, -⟩ := decode_eq_ok_iff.1 h
  exact Expr.isUnresolved_of_ofSource he

end Filter

theorem Session.contexts_next_start (ctx : Context) (s : Selector) (job : Job) (keep : Bool) :
    ((start ctx).next 0 ctx s job keep).2.contexts =
      let offer := (s.next job ctx).value
      [ctx.moved (match offer.result with
        | .error _ => ctx.lastMatch
        | .ok b? => if keep then ctx.lastMatch else b?) offer.attachments] :=
  rfl

namespace Context

variable {ctx : Context} {b : Build}

/-- A text for a filter that is neither blank nor can be decoded accepts nothing, also if it begins
with a reference. -/
theorem accepts_parameterized_iff {parameter text : String}
    (hexpand : ctx.vars.expand parameter = text) :
    { ctx with filter := .parameterized parameter }.accepts b ↔
      isBlankText text ∨ ∃ f levels, Filter.decode text = .ok f ∧ ctx.levels = levels + 1 ∧
        { ctx with filter := f, levels := levels }.accepts b := by
  rw [accepts_parameterized, hexpand]
  cases hblank : isBlankText text with
  | true => simp
  | false =>
      cases hdecode : Filter.decode text with
      | error e => simp
      | ok f =>
          have hresolved := Filter.isUnresolved_of_decode hdecode
          cases hlevels : ctx.levels with
          | zero => simp [hresolved]
          | succ levels => simp [hresolved]

/-- A text that is bound to a variable is put to use as it stands. If it can be decoded to a
selector, then a selector that has the name of the variable or a reference to it as its parameter
answers each call, wherever the enumeration stands, as the one decoded does one level deeper: with
the same candidate or error, and with the same context left behind but for the level. A filter that
refers to the variable accepts a build if the text is blank or can be decoded to a filter that
accepts it one level deeper, and else does not. -/
theorem replays_value {name value : String} (hname : IsVariableName name.toList)
    (hvalue : ctx.vars.get? name = some value) :
    (∀ s levels, Selector.decode value = .ok s → ctx.levels = levels + 1 →
      ∀ parameter ∈ name :: Variables.references name, ∀ job keep,
        let deeper := { ctx with levels := levels }
        let asked := (Session.start ctx).next 0 ctx (.parameterized parameter) job keep
        let asked' := (Session.start deeper).next 0 deeper s job keep
        ((Selector.parameterized parameter).next job ctx).value = (s.next job deeper).value ∧
        asked.1 = asked'.1 ∧
        asked.2.contexts = asked'.2.contexts.map fun c => { c with levels := ctx.levels }) ∧
    ∀ parameter ∈ Variables.references name, ∀ b,
      { ctx with filter := .parameterized parameter }.accepts b ↔
        isBlankText value ∨ ∃ f levels, Filter.decode value = .ok f ∧ ctx.levels = levels + 1 ∧
          { ctx with filter := f, levels := levels }.accepts b := by
  constructor
  · intro s levels hs hlevels parameter hparameter job keep deeper asked asked'
    have hresolve := Selector.value_resolve_of_get? hname hvalue hs hparameter
    have hoffer : _ = (s.next job deeper).value :=
      Selector.value_next_parameterized hresolve hlevels
    refine ⟨hoffer, congrArg Offer.result hoffer, ?_⟩
    rw [Session.contexts_next_start, Session.contexts_next_start, hoffer]
    rfl
  · intro parameter hparameter b
    exact accepts_parameterized_iff (Variables.expand_of_mem_references hname hvalue hparameter)

/-- White space around a value and references within it are left to the selector. -/
theorem replays_value_spaced :
    let value := "\n (build-number :number \"$BUILD\") "
    let ctx := { fresh .empty with
      vars := (Table.empty.insert "BUILD" "7").insert "CHOICE" value }
    Selector.decode value = .ok (.buildNumber "$BUILD") ∧
    ∀ parameter ∈ ["CHOICE", "$CHOICE", "$\x7bCHOICE\x7d"], ∀ job,
      ((Selector.parameterized parameter).next job ctx).value =
        ((Selector.buildNumber "$BUILD").next job { ctx with levels := 15 }).value := by
  intro value ctx
  let e : Expr := .node "build-number" [("number", .string "$BUILD")]
  have hread : Expr.ofText value = .ok e := by cbv
  have hs : Selector.ofExprAt maxNesting e = .ok (.buildNumber "$BUILD") := rfl
  have hdecode : Selector.decode value = .ok (.buildNumber "$BUILD") :=
    Selector.decode_eq_ok_iff.2 ⟨e, Expr.ofSource_eq_ok_iff.2 ⟨by decide, hread⟩, hs⟩
  have hname : IsVariableName "CHOICE".toList := ⟨by decide, List.all_eq_true.1 (by decide)⟩
  have hvalue : ctx.vars.get? "CHOICE" = some value := Table.get?_insert_self _ _ _
  refine ⟨hdecode, fun parameter hparameter job => ?_⟩
  exact ((replays_value hname hvalue).1 _ 15 hdecode rfl parameter hparameter job false).1

end Context

end BuildPicker
