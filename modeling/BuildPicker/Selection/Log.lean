/-!
What a selection writes while it runs.

A line is a notice or a detail. Every computation keeps both; whether details
are shown is decided only when the lines are printed, so that verbosity has no
part in what is computed.
-/

namespace BuildPicker

inductive Level
  | notice
  | detail
  deriving DecidableEq

structure Line where
  level : Level
  text : String
  deriving DecidableEq

abbrev Log := List Line

/-- The lines that are printed: all of them, or only the notices. -/
def Log.shown (log : Log) (verbose : Bool) : List String :=
  (log.filter fun line => verbose || line.level = .notice).map Line.text

/-- A value with the lines written on the way to it. -/
structure Logged (α : Type) where
  value : α
  log : Log

namespace Logged

variable {α β : Type}

/-- One computation after another. -/
def bind (x : Logged α) (f : α → Logged β) : Logged β :=
  ⟨(f x.value).value, x.log ++ (f x.value).log⟩

instance : Monad Logged where
  pure a := ⟨a, []⟩
  bind := bind

@[simp] theorem value_pure (a : α) : (pure a : Logged α).value = a := rfl

@[simp] theorem log_pure (a : α) : (pure a : Logged α).log = [] := rfl

@[simp] theorem value_bind (x : Logged α) (f : α → Logged β) :
    (x >>= f).value = (f x.value).value := rfl

@[simp] theorem log_bind (x : Logged α) (f : α → Logged β) :
    (x >>= f).log = x.log ++ (f x.value).log := rfl

@[simp] theorem value_map (f : α → β) (x : Logged α) : (f <$> x).value = f x.value := rfl

@[simp] theorem log_map (f : α → β) (x : Logged α) : (f <$> x).log = x.log := by
  show x.log ++ [] = x.log
  simp

instance : LawfulMonad Logged :=
  LawfulMonad.mk' Logged (fun x => congrArg (mk x.value) (List.append_nil x.log))
    (fun _ _ => rfl) (fun _ _ _ => congrArg (mk _) (List.append_assoc _ _ _))

end Logged

/-- Writes a line that is always shown. -/
def notice (text : String) : Logged Unit :=
  ⟨(), [⟨.notice, text⟩]⟩

/-- Writes a line for those who want to see every step. -/
def detail (text : String) : Logged Unit :=
  ⟨(), [⟨.detail, text⟩]⟩

@[simp] theorem value_notice (text : String) : (notice text).value = () := rfl

@[simp] theorem value_detail (text : String) : (detail text).value = () := rfl

/-- Writes a failure with what caused it, line by line. -/
def report (message failure : String) (causes : List String) : Logged Unit :=
  ⟨(), ⟨.notice, message ++ ": " ++ failure⟩ ::
    causes.map fun cause => ⟨.notice, "  caused by: " ++ cause⟩⟩

@[simp] theorem value_report (message failure : String) (causes : List String) :
    (report message failure causes).value = () := rfl

@[simp] theorem Log.shown_nil (verbose : Bool) : Log.shown [] verbose = [] := rfl

@[simp] theorem Log.shown_append (a b : Log) (verbose : Bool) :
    Log.shown (a ++ b) verbose = a.shown verbose ++ b.shown verbose := by
  simp [Log.shown]

end BuildPicker
