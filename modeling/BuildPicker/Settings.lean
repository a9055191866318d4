/-!
Settings that hold for all selections.
-/

namespace BuildPicker

/-- In which order the builds that triggered another are offered. -/
inductive TriggerOrder
  | oldestFirst
  | newestFirst
  deriving DecidableEq

namespace TriggerOrder

def name : TriggerOrder → String
  | oldestFirst => "use-oldest"
  | newestFirst => "use-newest"

def all : List TriggerOrder := [oldestFirst, newestFirst]

def ofName? (s : String) : Option TriggerOrder :=
  all.find? fun o => o.name = s

end TriggerOrder

structure Settings where
  triggerOrder : TriggerOrder
  verbose : Bool
  deriving DecidableEq

def Settings.default : Settings := ⟨.oldestFirst, false⟩

end BuildPicker
