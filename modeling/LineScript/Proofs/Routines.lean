import LineScript.Proofs.Orderly

namespace LineScript

open Exec

/-- Every line of every function and of every method of a class or an object has a property. -/
structure EveryRoutine (P : Text → Prop) (functions : Table Name Routine)
    (classes : Table Name (Table Name Routine)) (objects : Array Object) : Prop where
  function_lines : ∀ entry ∈ functions, ∀ line ∈ entry.2.body, P line
  class_lines : ∀ entry ∈ classes, ∀ method ∈ entry.2, ∀ line ∈ method.2.body, P line
  object_lines : ∀ address : Address, ∀ method ∈ (objects[address]?.getD ⟨[], [], []⟩).methods,
    ∀ line ∈ method.2.body, P line

def State.EveryRoutine (P : Text → Prop) (s : State) : Prop :=
  LineScript.EveryRoutine P s.functions s.classes s.heap.objects

namespace EveryRoutine

variable {P : Text → Prop} {functions : Table Name Routine}
  {classes : Table Name (Table Name Routine)} {objects : Array Object}
  (h : EveryRoutine P functions classes objects)

include h

theorem pushObject {className : Text} {methods : Table Name Routine}
    (hmethods : ∀ method ∈ methods, ∀ line ∈ method.2.body, P line) :
    EveryRoutine P functions classes (objects.push ⟨className, [], methods⟩) :=
  { h with
    object_lines := by
      intro address method hmethod
      rw [Array.getElem?_push] at hmethod
      split at hmethod
      · exact hmethods method hmethod
      · exact h.object_lines address method hmethod }

theorem setField (address : Address) (field : Text) (value : Value) :
    EveryRoutine P functions classes
      (objects.modify address fun object =>
        { object with fields := object.fields.set field value }) :=
  { h with
    object_lines := by
      intro other method hmethod
      rw [Array.getElem?_modify] at hmethod
      split at hmethod
      · cases hobject : objects[other]? with
        | none => simp [hobject] at hmethod
        | some object =>
            rw [hobject] at hmethod
            exact h.object_lines other method (by simpa [hobject] using hmethod)
      · exact h.object_lines other method hmethod }

end EveryRoutine

namespace State.EveryRoutine

variable {P : Text → Prop} {s : State} (h : s.EveryRoutine P)

include h

theorem of_function {name : Name} {routine : Routine}
    (hget : s.functions.get? name = some routine) : ∀ line ∈ routine.body, P line :=
  h.function_lines _ (Table.mem_of_get? hget)

theorem of_method {address : Address} {name : Name} {routine : Routine}
    (hget : (s.heap.object address).methods.get? name = some routine) :
    ∀ line ∈ routine.body, P line :=
  h.object_lines address _ (Table.mem_of_get? hget)

end State.EveryRoutine

/-- A line does not close a block. -/
def Statement.NoBrace (line : Text) : Prop := Text.strip line ≠ [Text.closeBrace]

theorem State.IsOrderly.everyRoutine {selfs : Option Address → Prop} {s : State}
    (h : s.IsOrderly selfs) : s.EveryRoutine Statement.NoBrace where
  function_lines entry hentry line hline :=
    (h.function_stored entry hentry line hline).strip_ne_brace
  class_lines entry hentry method hmethod := by
    rw [h.class_empty entry hentry] at hmethod
    exact absurd hmethod List.not_mem_nil
  object_lines address method hmethod := by
    rw [h.methods_empty address] at hmethod
    exact absurd hmethod List.not_mem_nil

end LineScript
