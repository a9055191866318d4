import BuildPicker.Proofs.Codec.Selector

/-!
What an expression stands for, however deep it is.

The decoders run on a number of levels, of which each expression takes one and a
list takes none. `Filter.StandsFor` and `Selector.StandsFor` are the least
relations that hold of an expression if `Denotes` does with them inside. They say
what is read off a tree without counting levels, and the decoders agree with them
wherever the levels are enough.
-/

namespace BuildPicker

/-! ### Depth -/

mutual

/-- How many expressions are open at the deepest place of a value. -/
def Value.depth : Value → Nat
  | .nil | .boolean _ | .integer _ | .string _ => 0
  | .expr e => e.depth
  | .list items => itemsDepth items

/-- How many expressions are open at the deepest place, where lists do not count. -/
def Expr.depth : Expr → Nat
  | .node _ args => argsDepth args + 1

def itemsDepth : List Value → Nat
  | [] => 0
  | v :: items => max v.depth (itemsDepth items)

def argsDepth : List (String × Value) → Nat
  | [] => 0
  | (_, v) :: args => max v.depth (argsDepth args)

end

theorem itemsDepth_le_iff {items : List Value} {n : Nat} :
    itemsDepth items ≤ n ↔ ∀ v ∈ items, v.depth ≤ n := by
  induction items with
  | nil => simp [itemsDepth]
  | cons v items ih => rw [itemsDepth, Nat.max_le, List.forall_mem_cons, ih]

theorem argsDepth_le_iff {args : List (String × Value)} {n : Nat} :
    argsDepth args ≤ n ↔ ∀ arg ∈ args, arg.2.depth ≤ n := by
  induction args with
  | nil => simp [argsDepth]
  | cons arg args ih => rw [argsDepth, Nat.max_le, List.forall_mem_cons, ih]

theorem Value.depth_le_nesting (v : Value) : v.depth ≤ v.nesting := by
  induction v using Value.induction with
  | nil | boolean | integer | string => exact Nat.le_refl _
  | expr tag args ih =>
      refine Nat.add_le_add_right (argsDepth_le_iff.2 fun arg harg => ?_) 1
      exact (ih arg harg).trans (argsNesting_le_iff.1 (Nat.le_refl _) arg harg)
  | list items ih =>
      refine Nat.le_succ_of_le (itemsDepth_le_iff.2 fun v hv => ?_)
      exact (ih v hv).trans (itemsNesting_le_iff.1 (Nat.le_refl _) v hv)

/-- The reader counts lists as well, so what it accepts is never too deep for a decoder. -/
theorem Expr.depth_le_nesting (e : Expr) : e.depth ≤ e.nesting :=
  (Value.expr e).depth_le_nesting

namespace Expr

theorem depth_pos (e : Expr) : 0 < e.depth := by
  cases e
  exact Nat.succ_pos _

theorem mem_args_of_field? {e : Expr} {key : String} {v : Value} (h : e.field? key = some v) :
    (key, v) ∈ e.args := by
  have hget : e.get? key = some v := by
    unfold field? at h
    split at h <;> simp_all
  obtain ⟨before, after, hargs, -⟩ := List.lookup_eq_some_iff.1 hget
  rw [hargs]
  exact List.mem_append_right _ List.mem_cons_self

theorem depth_lt_of_mem_args {e : Expr} {arg : String × Value} (h : arg ∈ e.args) :
    arg.2.depth < e.depth := by
  obtain ⟨tag, args⟩ := e
  exact Nat.lt_succ_of_le (argsDepth_le_iff.1 (Nat.le_refl _) arg h)

theorem depth_lt_of_field? {e inner : Expr} {key : String}
    (h : e.field? key = some (.expr inner)) : inner.depth < e.depth :=
  depth_lt_of_mem_args (mem_args_of_field? h)

theorem depth_lt_of_mem_list {e inner : Expr} {key : String} {items : List Value}
    (h : e.field? key = some (.list items)) (hinner : .expr inner ∈ items) :
    inner.depth < e.depth :=
  Nat.lt_of_le_of_lt (itemsDepth_le_iff.1 (Nat.le_refl _) _ hinner)
    (depth_lt_of_mem_args (mem_args_of_field? h))

theorem HasList.depth_lt {e inner : Expr} {key : String} {es : List Expr}
    (h : e.HasList key es) (hinner : inner ∈ es) : inner.depth < e.depth := by
  rcases h with ⟨-, rfl⟩ | hitems
  · cases hinner
  · exact depth_lt_of_mem_list hitems (List.mem_map_of_mem hinner)

theorem HasList.forall₂_imp {α : Type} {R S : Expr → α → Prop} {e : Expr} {key : String}
    {es : List Expr} {as : List α} (hes : e.HasList key es) (has : List.Forall₂ R es as)
    (himp : ∀ inner a, inner.depth < e.depth → R inner a → S inner a) : List.Forall₂ S es as :=
  ((List.forall₂_and_left _ _).2 ⟨fun _ => hes.depth_lt, has⟩).imp
    fun inner a ⟨hdepth, ha⟩ => himp inner a hdepth ha

end Expr

/-! ### Filters -/

namespace Filter

/-- Only the expressions directly inside matter. -/
theorem Denotes.imp {R S : Expr → Filter → Prop} {e : Expr} {f : Filter} (h : Denotes R e f)
    (himp : ∀ inner g, inner.depth < e.depth → R inner g → S inner g) : Denotes S e f := by
  cases h with
  | acceptAll hfits => exact .acceptAll hfits
  | displayName hfits hname => exact .displayName hfits hname
  | and hfits hes hfs => exact .and hfits hes (hes.forall₂_imp hfs himp)
  | or hfits hes hfs => exact .or hfits hes (hes.forall₂_imp hfs himp)
  | not hfits hnested hf => exact .not hfits hnested (himp _ _ (Expr.depth_lt_of_field? hnested) hf)
  | parameterized hfits hparameter => exact .parameterized hfits hparameter

/-- The filter that an expression stands for. -/
inductive StandsFor : Expr → Filter → Prop
  | intro {R : Expr → Filter → Prop} {e : Expr} {f : Filter}
      (inside : ∀ inner g, R inner g → StandsFor inner g) (outside : Denotes R e f) :
      StandsFor e f

theorem standsFor_iff {e : Expr} {f : Filter} : StandsFor e f ↔ Denotes StandsFor e f := by
  constructor
  · rintro ⟨hinside, houtside⟩
    exact houtside.imp fun inner g _ hg => hinside inner g hg
  · exact .intro fun _ _ h => h

theorem standsFor_of_ofExprAt {n : Nat} {e : Expr} {f : Filter} (h : ofExprAt n e = .ok f) :
    StandsFor e f := by
  induction n generalizing e f with
  | zero => cases h
  | succ n ih => exact .intro (fun _ _ => ih) (ofExprAt_succ_eq_ok_iff.1 h)

theorem StandsFor.ofExprAt_eq {n : Nat} {e : Expr} {f : Filter} (h : StandsFor e f)
    (hn : e.depth ≤ n) : ofExprAt n e = .ok f := by
  induction n generalizing e f with
  | zero => exact absurd hn (Nat.not_le_of_lt e.depth_pos)
  | succ n ih =>
      refine ofExprAt_succ_eq_ok_iff.2 ((standsFor_iff.1 h).imp fun inner g hdepth hg => ?_)
      exact ih hg (Nat.le_of_lt_succ (Nat.lt_of_lt_of_le hdepth hn))

theorem ofExpr_eq_ok_iff_standsFor {e : Expr} {f : Filter} (h : e.depth ≤ maxNesting) :
    ofExpr e = .ok f ↔ StandsFor e f :=
  ⟨standsFor_of_ofExprAt, fun hf => hf.ofExprAt_eq h⟩

end Filter

/-! ### Selectors -/

namespace Selector

theorem EntryDenotes.imp {S S' : Expr → Selector → Prop} {R R' : Expr → Filter → Prop}
    {e : Expr} {entry : Selector × Filter} (h : EntryDenotes S R e entry)
    (hselector : ∀ inner s, inner.depth < e.depth → S inner s → S' inner s)
    (hfilter : ∀ inner f, inner.depth < e.depth → R inner f → R' inner f) :
    EntryDenotes S' R' e entry := by
  cases h with
  | plain hfits hinner hs hnone =>
      exact .plain hfits hinner (hselector _ _ (Expr.depth_lt_of_field? hinner) hs) hnone
  | filtered hfits hinner hs hnarrowing hf =>
      exact .filtered hfits hinner (hselector _ _ (Expr.depth_lt_of_field? hinner) hs) hnarrowing
        (hfilter _ _ (Expr.depth_lt_of_field? hnarrowing) hf)

theorem Denotes.imp {E E' : Expr → Selector × Filter → Prop} {e : Expr} {s : Selector}
    (h : Denotes E e s)
    (himp : ∀ inner entry, inner.depth < e.depth → E inner entry → E' inner entry) :
    Denotes E' e s := by
  cases h with
  | buildNumber hfits hnumber => exact .buildNumber hfits hnumber
  | displayName hfits hname => exact .displayName hfits hname
  | permalink hfits hid => exact .permalink hfits hid
  | status hfits hstatus => exact .status hfits hstatus
  | triggering hfits hdependencies hstrategy =>
      exact .triggering hfits hdependencies hstrategy
  | fallback hfits hes hentries => exact .fallback hfits hes (hes.forall₂_imp hentries himp)
  | parameterized hfits hparameter => exact .parameterized hfits hparameter

/-- The selector that an expression stands for. -/
inductive StandsFor : Expr → Selector → Prop
  | intro {S : Expr → Selector → Prop} {e : Expr} {s : Selector}
      (inside : ∀ inner t, S inner t → StandsFor inner t)
      (outside : Denotes (EntryDenotes S Filter.StandsFor) e s) : StandsFor e s

/-- The entry of a fallback that an expression stands for. -/
abbrev EntryStandsFor : Expr → Selector × Filter → Prop :=
  EntryDenotes StandsFor Filter.StandsFor

theorem standsFor_iff {e : Expr} {s : Selector} :
    StandsFor e s ↔ Denotes EntryStandsFor e s := by
  constructor
  · rintro ⟨hinside, houtside⟩
    exact houtside.imp fun _ _ _ hentry =>
      hentry.imp (fun inner t _ ht => hinside inner t ht) fun _ _ _ hf => hf
  · exact .intro fun _ _ h => h

theorem standsFor_of_ofExprAt {n : Nat} {e : Expr} {s : Selector} (h : ofExprAt n e = .ok s) :
    StandsFor e s := by
  induction n using Nat.twoStepInduction generalizing e s with
  | zero => cases h
  | one =>
      refine standsFor_iff.2 ((ofExprAt_one_eq_ok_iff.1 h).imp ?_)
      exact fun _ _ _ hfalse => hfalse.elim
  | more n ih _ =>
      refine .intro (fun _ _ => ih) ((ofExprAt_add_two_eq_ok_iff.1 h).imp fun _ _ _ hentry => ?_)
      exact hentry.imp (fun _ _ _ hs => hs) fun _ _ _ hf => Filter.standsFor_of_ofExprAt hf

theorem StandsFor.ofExprAt_eq {n : Nat} {e : Expr} {s : Selector} (h : StandsFor e s)
    (hn : e.depth ≤ n) : ofExprAt n e = .ok s := by
  induction n using Nat.twoStepInduction generalizing e s with
  | zero => exact absurd hn (Nat.not_le_of_lt e.depth_pos)
  | one =>
      refine ofExprAt_one_eq_ok_iff.2 ((standsFor_iff.1 h).imp fun entry _ hdepth _ => ?_)
      -- The last level has no room for an entry.
      have := entry.depth_pos
      omega
  | more n ih _ =>
      refine ofExprAt_add_two_eq_ok_iff.2 ((standsFor_iff.1 h).imp fun entry _ hdepth hentry => ?_)
      refine hentry.imp (fun inner s hinner hs => ih hs ?_) fun inner f hinner hf =>
        hf.ofExprAt_eq ?_
      all_goals omega

theorem ofExpr_eq_ok_iff_standsFor {e : Expr} {s : Selector} (h : e.depth ≤ maxNesting) :
    ofExpr e = .ok s ↔ StandsFor e s :=
  ⟨standsFor_of_ofExprAt, fun hs => hs.ofExprAt_eq h⟩

end Selector

end BuildPicker
