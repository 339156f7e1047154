import LineScript.State

namespace LineScript

/-- Why an execution stops: a fault, or a bound on its length. -/
inductive Halt where
  | fault (cause : Fault)
  | exhausted
  deriving DecidableEq, Repr

/-- Executions change the state and may stop. The state that a stopped execution leaves is kept. -/
abbrev Exec := EStateM Halt State

namespace Exec

def after {α : Type} (x : Exec α) (s : State) : State :=
  match x s with
  | .ok _ t => t
  | .error _ t => t

def fail {α : Type} (cause : Fault) : Exec α := throw (.fault cause)

def exhaust {α : Type} : Exec α := throw .exhausted

def ofExcept {α : Type} : Except Fault α → Exec α
  | .ok a => pure a
  | .error cause => fail cause

/-- Runs `handle` on the fault that stops an execution. A bound is not handled. -/
def rescue {α : Type} (x : Exec α) (handle : Fault → Exec α) : Exec α := fun s =>
  match x s with
  | .error (.fault cause) s' => handle cause s'
  | result => result

theorem get_bind {β : Type} (f : State → Exec β) (s : State) : (get >>= f) s = f s s := rfl

theorem bind_eq_of_eq {α β : Type} {x y : Exec α} {s t : State} (h : x s = y t)
    (f : α → Exec β) : (x >>= f) s = (y >>= f) t := by
  change EStateM.bind x f s = EStateM.bind y f t
  rw [EStateM.bind, EStateM.bind, h]

theorem bind_of_ok {α β : Type} {x : Exec α} {s t : State} {a : α} (h : x s = .ok a t)
    (f : α → Exec β) : (x >>= f) s = f a t := by
  change EStateM.bind x f s = _
  rw [EStateM.bind, h]

theorem bind_of_error {α β : Type} {x : Exec α} {s t : State} {halt : Halt}
    (h : x s = .error halt t) (f : α → Exec β) : (x >>= f) s = .error halt t := by
  change EStateM.bind x f s = _
  rw [EStateM.bind, h]

theorem exists_of_bind_ok {α β : Type} {x : Exec α} {f : α → Exec β} {s u : State} {b : β}
    (h : (x >>= f) s = .ok b u) : ∃ a t, x s = .ok a t ∧ f a t = .ok b u := by
  cases hx : x s with
  | ok a t => exact ⟨a, t, rfl, by rwa [bind_of_ok hx] at h⟩
  | error halt t => simp [bind_of_error hx] at h

theorem rescue_eq_of_eq {α : Type} {x y : Exec α} {s t : State} (h : x s = y t)
    (f : Fault → Exec α) : rescue x f s = rescue y f t := by
  rw [rescue, rescue, h]

theorem rescue_of_ok {α : Type} {x : Exec α} {s t : State} {a : α} (h : x s = .ok a t)
    (f : Fault → Exec α) : rescue x f s = .ok a t := by
  rw [rescue, h]

/-- Runs `y` where `x` does not apply. -/
def orElse {α : Type} (x : Exec (Option α)) (y : Exec α) : Exec α := do
  match ← x with
  | some a => pure a
  | none => y

/-- The first of two executions that applies. -/
def firstOf {α : Type} (x y : Exec (Option α)) : Exec (Option α) := do
  match ← x with
  | some a => pure (some a)
  | none => y

/-- Faults that leave a block are turned into failures of the script. -/
def leavingBlock {α : Type} (x : Exec α) : Exec α :=
  rescue x fun cause => fail cause.leaveBlock

/-- Runs an execution with its own variables. The variables before it are there again after it,
however it ends. -/
def withVariables {α : Type} (own : Variables) (x : Exec α) : Exec α := fun s =>
  match x { s with vars := own } with
  | .ok a s' => .ok a { s' with vars := s.vars }
  | .error halt s' => .error halt { s' with vars := s.vars }

theorem vars_withVariables {α : Type} (own : Variables) (x : Exec α) (s : State) :
    (after (withVariables own x) s).vars = s.vars := by
  unfold after withVariables
  cases x { s with vars := own } with
  | ok a s' => rfl
  | error halt s' => rfl

/-- Counts a line or a block that is going to be executed. Without a limit nothing is counted. -/
def spend : Exec Unit := do
  match (← get).allowance with
  | none => pure ()
  | some 0 => exhaust
  | some (n + 1) => modify fun s => { s with allowance := some n }

theorem spend_of_unlimited {s : State} (h : s.allowance = none) : spend s = .ok () s := by
  rw [spend, get_bind, h]
  rfl

def modifyBlocks (change : Blocks BodyId → Blocks BodyId) : Exec Unit :=
  modify fun s => { s with blocks := change s.blocks }

def setVariable (name : Name) (value : Value) : Exec Unit :=
  modify fun s => { s with vars := s.vars.set name value }

def printLine (t : Text) : Exec Unit :=
  modify fun s => { s with output := s.output ++ String.ofList (t ++ ['\n']) }

def newBody (lines : List Text) : Exec BodyId := do
  let s ← get
  set { s with bodies := s.bodies.push lines.toArray }
  pure s.bodies.size

def appendLine (id : BodyId) (line : Text) : Exec Unit :=
  modify fun s => { s with bodies := s.bodies.modify id (·.push line) }

def newList (items : List Value) : Exec Value := do
  let s ← get
  set { s with heap := { s.heap with lists := s.heap.lists.push items } }
  pure (.list s.heap.lists.size)

def newDict (entries : List (Value × Value)) : Exec Value := do
  let s ← get
  set { s with heap := { s.heap with dicts := s.heap.dicts.push entries } }
  pure (.dict s.heap.dicts.size)

def newObject (object : Object) : Exec Address := do
  let s ← get
  set { s with heap := { s.heap with objects := s.heap.objects.push object } }
  pure s.heap.objects.size

def setItems (address : Address) (items : List Value) : Exec Unit :=
  modify fun s =>
    { s with heap := { s.heap with lists := s.heap.lists.setIfInBounds address items } }

def setEntries (address : Address) (entries : List (Value × Value)) : Exec Unit :=
  modify fun s =>
    { s with heap := { s.heap with dicts := s.heap.dicts.setIfInBounds address entries } }

def setField (address : Address) (field : Text) (value : Value) : Exec Unit :=
  modify fun s =>
    { s with
      heap :=
        { s.heap with
          objects := s.heap.objects.modify address fun object =>
            { object with fields := object.fields.set field value } } }

/-- A caught fault as a value, with a number of its own. -/
def newFault (cause : Fault) : Exec Value := do
  let s ← get
  set { s with faultCount := s.faultCount + 1 }
  pure (.fault s.faultCount cause)

end Exec

end LineScript
