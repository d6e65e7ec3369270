import Backlog.ItemType
import Backlog.WorkItem

/-!
# Built-in types

Every store can be seeded with seven types. The first carries the fields of the system, the others
extend it without fields of their own.
-/

namespace Backlog.Builtin

/-- The states of an item as an enumeration of texts. -/
def stateChoices : Choices where
  base := .string
  values := WorkItem.states.map .str
  nonempty := by decide
  distinct := by decide
  stored := by
    intro v hv
    obtain ⟨s, _, rfl⟩ := List.mem_map.1 hv
    exact ⟨.str s, rfl⟩

def baseFields : FieldSet := Record.ofList [
  (WorkItem.titleField, ⟨true, .scalar .string⟩),
  (WorkItem.descriptionField, ⟨false, .scalar .string⟩),
  (WorkItem.stateField, ⟨true, .enum stateChoices⟩),
  (WorkItem.creatorField, ⟨true, .scalar .user⟩),
  (WorkItem.assigneeField, ⟨false, .scalar .user⟩),
  (WorkItem.iterationField, ⟨false, .scalar .string⟩),
  (WorkItem.labelsField, ⟨false, .list .string⟩)]

/-- The type that the others extend. -/
def baseName : String := "system.workitem"

def extendingNames : List String :=
  ["system.bug", "system.feature", "system.userstory", "system.experience", "system.fundamental",
    "system.valueproposition"]

end Backlog.Builtin
