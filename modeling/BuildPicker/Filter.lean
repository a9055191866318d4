import BuildPicker.Text.Blank

/-!
Filters: which builds are acceptable.
-/

namespace BuildPicker

open BuildPicker.Text

inductive Filter
  | acceptAll
  /-- The display name of the build is the expanded template. -/
  | displayName (template : String)
  | and (filters : List Filter)
  | or (filters : List Filter)
  | not (filter : Filter)
  /-- A filter that is read from the expanded template when a build is looked at. -/
  | parameterized (parameter : String)

namespace Filter

/-- White space around a display name is not significant. -/
def ofDisplayName (template : String) : Filter :=
  displayName (trim template)

def isAcceptAll : Filter → Bool
  | acceptAll => true
  | _ => false

/-- Both filters at once, without one that accepts everything. -/
def narrowedBy (f g : Filter) : Filter :=
  if g.isAcceptAll then f
  else if f.isAcceptAll then g
  else and [f, g]

/-- The name of the filter in messages. -/
def label : Filter → String
  | acceptAll => "No filter"
  | displayName _ => "Display name"
  | and _ => "And"
  | or _ => "Or"
  | not _ => "Not"
  | parameterized _ => "Parameterized filter"

@[simp] theorem narrowedBy_acceptAll (f : Filter) : f.narrowedBy acceptAll = f := rfl

@[simp] theorem acceptAll_narrowedBy (f : Filter) : acceptAll.narrowedBy f = f := by
  cases f <;> rfl

/-! ### Equality -/

mutual

def decEq : (f g : Filter) → Decidable (f = g)
  | acceptAll, acceptAll => isTrue rfl
  | displayName s, displayName t => decidable_of_iff (s = t) (by simp)
  | and fs, and gs => @decidable_of_iff _ (fs = gs) (by simp) (decEqList fs gs)
  | or fs, or gs => @decidable_of_iff _ (fs = gs) (by simp) (decEqList fs gs)
  | not f, not g => @decidable_of_iff _ (f = g) (by simp) (decEq f g)
  | parameterized s, parameterized t => decidable_of_iff (s = t) (by simp)
  | acceptAll, displayName _ | acceptAll, and _ | acceptAll, or _ | acceptAll, not _
  | acceptAll, parameterized _
  | displayName _, acceptAll | displayName _, and _ | displayName _, or _ | displayName _, not _
  | displayName _, parameterized _
  | and _, acceptAll | and _, displayName _ | and _, or _ | and _, not _ | and _, parameterized _
  | or _, acceptAll | or _, displayName _ | or _, and _ | or _, not _ | or _, parameterized _
  | not _, acceptAll | not _, displayName _ | not _, and _ | not _, or _ | not _, parameterized _
  | parameterized _, acceptAll | parameterized _, displayName _ | parameterized _, and _
  | parameterized _, or _ | parameterized _, not _ => isFalse (by simp)

def decEqList : (fs gs : List Filter) → Decidable (fs = gs)
  | [], [] => isTrue rfl
  | [], _ :: _ | _ :: _, [] => isFalse (by simp)
  | f :: fs, g :: gs =>
    @decidable_of_iff _ (f = g ∧ fs = gs) (by simp)
      (@instDecidableAnd _ _ (decEq f g) (decEqList fs gs))

end

instance : DecidableEq Filter := decEq

end Filter

end BuildPicker
