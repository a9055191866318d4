import BuildPicker.Proofs.Selection.Failure
import BuildPicker.Proofs.Template

/-!
Templates with references to unbound variables.

A reference to an unbound variable stays in the expanded template as it is. Only at
the very beginning does it make the template count as not given: then nothing is
looked up, and nothing is accepted. Behind any other text it is literal text, with
which names are compared and which is no number.
-/

namespace BuildPicker

open BuildPicker.Text

/-! ### Dollar signs in expanded templates -/

namespace Variables

variable {vars : Variables} {template : String} {r : Reference}

/-- The first piece that does not expand to nothing tells whether a template is unresolved. -/
theorem isUnresolved_expand_iff :
    isUnresolved (vars.expand template) = true ↔
      ∃ before p after, pieces template.toList = before ++ p :: after ∧
        (vars.expandPiece p).head? = some '$' ∧ ∀ q ∈ before, vars.expandPiece q = [] := by
  have hhead : (vars.expand template).toList.head? =
      (pieces template.toList).findSome? fun p => (vars.expandPiece p).head? := by
    rw [expand, String.toList_ofList, List.head?_flatMap]
  rw [isUnresolved, decide_eq_true_eq, hhead, List.findSome?_eq_some_iff]
  simp only [List.head?_eq_none_iff]

theorem expandPiece_of_unbound (hunbound : vars.get? (String.ofList r.name) = none) :
    vars.expandPiece (.reference r) = r.source := by
  rw [expandPiece, hunbound]
  rfl

theorem mem_expand_of_unbound (hr : .reference r ∈ pieces template.toList)
    (hunbound : vars.get? (String.ofList r.name) = none) :
    '$' ∈ (vars.expand template).toList := by
  have hsource : '$' ∈ vars.expandPiece (.reference r) := by
    rw [expandPiece_of_unbound hunbound]
    exact List.mem_of_mem_head? r.head?_source
  rw [expand, String.toList_ofList]
  exact List.mem_flatMap.2 ⟨_, hr, hsource⟩

end Variables

/-! ### Dollar signs in look-ups -/

namespace Text

theorem natural?_eq_none_of_mem {cs : List Char} {c : Char} (hc : c ∈ cs)
    (hdigit : c.isDigit = false) : natural? cs = none := by
  have hall : cs.all Char.isDigit = false := List.all_eq_false.2 ⟨c, hc, by simp [hdigit]⟩
  simp [natural?, hall]

theorem signed?_eq_none_of_mem {cs : List Char} (h : '$' ∈ cs) : signed? cs = none := by
  have hdigit : Char.isDigit '$' = false := by decide
  unfold signed?
  split
  · next cs =>
      have hcs : '$' ∈ cs := by simpa using h
      rw [natural?_eq_none_of_mem hcs hdigit]
      rfl
  · next cs =>
      have hcs : '$' ∈ cs := by simpa using h
      rw [natural?_eq_none_of_mem hcs hdigit]
      rfl
  · rw [natural?_eq_none_of_mem h hdigit]
    rfl

end Text

/-- The anchors that every job has are named by letters. -/
theorem Permalink.ofId?_eq_none_of_mem {id : String} {c : Char} (hc : c ∈ id.toList)
    (hname : Reference.isNameChar c = false) : ofId? id = none := by
  have hids : ∀ p ∈ all, p.id.toList.all Reference.isNameChar := by decide
  apply List.find?_eq_none.2
  intro p hp hid
  have hpid : p.id = id := by simpa using hid
  have hchar := List.all_eq_true.1 (hids p hp) c (hpid ▸ hc)
  rw [hname] at hchar
  cases hchar

namespace Selector

variable {job : Job} {key : String}

theorem byNumber_of_dollar (h : '$' ∈ key.toList) :
    byNumber job key = .error (.notANumber key) := by
  have hmem : '$' ∈ (trim key).toList := mem_trim_of_mem h (by decide)
  apply byNumber_eq_error_iff.2
  rw [signed?_eq_none_of_mem hmem]
  exact ⟨rfl, rfl⟩

/-- With a dollar sign in its name, only an anchor that the job has itself is found. -/
theorem byPermalink_of_dollar (h : '$' ∈ key.toList) :
    byPermalink job key = .ok ((job.permalinks.get? key).bind job.build?) := by
  rw [byPermalink, Job.permalink?, Permalink.ofId?_eq_none_of_mem h (by decide)]

/-- The selectors that look up an expanded template, with the ways in which they do. -/
inductive LooksUp (job : Job) (template : String) :
    Selector → (String → Except SelectionError (Option Build)) → Prop
  | buildNumber : LooksUp job template (buildNumber template) (byNumber job)
  | displayName : LooksUp job template (displayName template) (byDisplayName job)
  | permalink : LooksUp job template (permalink template) (byPermalink job)

theorem LooksUp.value_next {template : String} {s : Selector}
    {lookup : String → Except SelectionError (Option Build)} (h : LooksUp job template s lookup)
    (ctx : Context) :
    (s.next job ctx).value = ⟨(nextSingle template lookup job ctx).value, ctx.attachments⟩ := by
  rw [next, nextAt_eq]
  cases h with
  | buildNumber | displayName | permalink =>
      rw [nextWith]
      rfl

end Selector

namespace Context

section

variable {ctx : Context} {template : String}

theorem value_next_of_unresolved {job : Job} {s : Selector}
    {lookup : String → Except SelectionError (Option Build)}
    (h : s.LooksUp job template lookup)
    (hunresolved : isUnresolved (ctx.vars.expand template) = true) :
    (s.next job ctx).value = ⟨.ok none, ctx.attachments⟩ := by
  rw [h.value_next, Selector.value_nextSingle, if_pos hunresolved,
    ite_self]

theorem value_next_of_resolved {job : Job} {s : Selector}
    {lookup : String → Except SelectionError (Option Build)}
    (h : s.LooksUp job template lookup) (hlast : ctx.lastMatch = none)
    (hresolved : isUnresolved (ctx.vars.expand template) = false) :
    (s.next job ctx).value = ⟨lookup (ctx.vars.expand template), ctx.attachments⟩ := by
  rw [h.value_next, Selector.value_nextSingle, hlast, hresolved]
  rfl

/-- A template that still begins with a dollar sign when it is expanded is none at all. -/
theorem absent_of_unresolved (hunresolved : isUnresolved (ctx.vars.expand template) = true) :
    (∀ s ∈ [Selector.buildNumber template, .displayName template, .permalink template],
      ∀ job, (s.next job ctx).value = ⟨.ok none, ctx.attachments⟩) ∧
    ∀ b, { ctx with filter := .displayName template }.accepts b = false := by
  constructor
  · intro s hs job
    simp only [List.mem_cons, List.not_mem_nil, or_false] at hs
    rcases hs with rfl | rfl | rfl
    · exact value_next_of_unresolved .buildNumber hunresolved
    · exact value_next_of_unresolved .displayName hunresolved
    · exact value_next_of_unresolved .permalink hunresolved
  · intro b
    rw [accepts_displayName, hunresolved, Bool.not_true, Bool.false_and]

/-- A template that holds a dollar sign behind something else is taken literally. -/
theorem literal_of_resolved (hlast : ctx.lastMatch = none)
    (hresolved : isUnresolved (ctx.vars.expand template) = false)
    (hdollar : '$' ∈ (ctx.vars.expand template).toList) :
    let key := ctx.vars.expand template
    (∀ job : Job,
      ((Selector.buildNumber template).next job ctx).value =
        ⟨.error (.notANumber key), ctx.attachments⟩ ∧
      ((Selector.displayName template).next job ctx).value =
        ⟨.ok (job.lastMatching? fun b => b.displayName = key), ctx.attachments⟩ ∧
      ((Selector.permalink template).next job ctx).value =
        ⟨.ok ((job.permalinks.get? key).bind job.build?), ctx.attachments⟩) ∧
    ∀ b, { ctx with filter := .displayName template }.accepts b ↔ key = b.displayName := by
  intro key
  constructor
  · intro job
    refine ⟨?_, value_next_of_resolved .displayName hlast hresolved, ?_⟩
    · rw [value_next_of_resolved .buildNumber hlast hresolved,
        Selector.byNumber_of_dollar hdollar]
    · rw [value_next_of_resolved .permalink hlast hresolved,
        Selector.byPermalink_of_dollar hdollar]
  · intro b
    rw [accepts_displayName, hresolved, Bool.not_false, Bool.true_and, decide_eq_true_iff]

/-- A template with a reference to an unbound variable is none at all if it still begins with a
dollar sign when it is expanded, as it does when all that stands before the reference expands to
nothing: no candidate is offered, and nothing is accepted. Behind other text the reference is a
part of the text, which is then no number and what names are compared with. -/
theorem next_of_unbound {r : Reference} (hr : .reference r ∈ pieces template.toList)
    (hunbound : ctx.vars.get? (String.ofList r.name) = none) (hlast : ctx.lastMatch = none) :
    let key := ctx.vars.expand template
    (isUnresolved key ↔ ∃ before p after, pieces template.toList = before ++ p :: after ∧
      (ctx.vars.expandPiece p).head? = some '$' ∧ ∀ q ∈ before, ctx.vars.expandPiece q = []) ∧
    (∀ before after, pieces template.toList = before ++ .reference r :: after →
      (∀ q ∈ before, ctx.vars.expandPiece q = []) → isUnresolved key) ∧
    (isUnresolved key →
      (∀ s ∈ [Selector.buildNumber template, .displayName template, .permalink template],
        ∀ job, (s.next job ctx).value = ⟨.ok none, ctx.attachments⟩) ∧
      ∀ b, { ctx with filter := .displayName template }.accepts b = false) ∧
    (¬isUnresolved key →
      (∀ job : Job,
        ((Selector.buildNumber template).next job ctx).value =
          ⟨.error (.notANumber key), ctx.attachments⟩ ∧
        ((Selector.displayName template).next job ctx).value =
          ⟨.ok (job.lastMatching? fun b => b.displayName = key), ctx.attachments⟩ ∧
        ((Selector.permalink template).next job ctx).value =
          ⟨.ok ((job.permalinks.get? key).bind job.build?), ctx.attachments⟩) ∧
      ∀ b, { ctx with filter := .displayName template }.accepts b ↔ key = b.displayName) := by
  intro key
  refine ⟨Variables.isUnresolved_expand_iff, ?_, absent_of_unresolved, ?_⟩
  · intro before after hpieces hbefore
    have hhead : (ctx.vars.expandPiece (.reference r)).head? = some '$' := by
      rw [Variables.expandPiece_of_unbound hunbound]
      exact r.head?_source
    exact Variables.isUnresolved_expand_iff.2 ⟨before, _, after, hpieces, hhead, hbefore⟩
  · intro hresolved
    have hdollar := Variables.mem_expand_of_unbound hr hunbound
    exact literal_of_resolved hlast (Bool.eq_false_iff.2 hresolved) hdollar

end

/-- An empty value before the reference leaves it at the beginning. -/
theorem next_of_unbound_behind_empty :
    let ctx := { fresh .empty with vars := Table.empty.insert "NONE" "" }
    let template := "$NONE$\x7bGONE\x7d!"
    isUnresolved (ctx.vars.expand template) ∧
    (∀ s ∈ [Selector.buildNumber template, .displayName template, .permalink template],
      ∀ job, (s.next job ctx).value = ⟨.ok none, []⟩) ∧
    ∀ b, { ctx with filter := .displayName template }.accepts b = false := by
  intro ctx template
  have hpieces : pieces template.toList =
      [.reference ⟨false, "NONE".toList⟩, .reference ⟨true, "GONE".toList⟩, .plain '!'] := by
    decide
  have hr : .reference ⟨true, "GONE".toList⟩ ∈ pieces template.toList := by
    rw [hpieces]
    decide
  have hunbound : ctx.vars.get? (String.ofList "GONE".toList) = none := by decide
  rcases next_of_unbound hr hunbound rfl with ⟨-, hbehind, habsent, -⟩
  have hunresolved : isUnresolved (ctx.vars.expand template) :=
    hbehind [.reference ⟨false, "NONE".toList⟩] [.plain '!'] hpieces (by decide)
  exact ⟨hunresolved, habsent hunresolved⟩

/-- Behind a digit the reference makes the text a wrong number, and a name like any other. -/
theorem not_absent_of_unbound :
    let ctx := fresh .empty
    let template := "1$GONE"
    let b := { Build.ofTriggers "app" 1 [] with givenName := some template }
    .reference ⟨false, "GONE".toList⟩ ∈ pieces template.toList ∧
    ctx.vars.get? "GONE" = none ∧ ctx.lastMatch = none ∧
    ((Selector.buildNumber template).next (.empty "app" none .empty) ctx).value.result =
      .error (.notANumber template) ∧
    { ctx with filter := .displayName template }.accepts b = true := by
  intro ctx template b
  have hkey : ctx.vars.expand template = template := by decide
  have hresolved : isUnresolved (ctx.vars.expand template) = false := by decide
  have hdollar : '$' ∈ (ctx.vars.expand template).toList := by decide
  rcases literal_of_resolved rfl hresolved hdollar with ⟨hlookups, haccepts⟩
  refine ⟨by decide, rfl, rfl, ?_, ?_⟩
  · rw [(hlookups _).1, hkey]
  · exact (haccepts b).2 hkey

end Context

end BuildPicker
