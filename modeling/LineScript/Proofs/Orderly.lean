import LineScript.Proofs.Observer

/-!
What every execution keeps of a state: at most one block is open, stored lines are stripped and say
something other than a closing brace, and no class or object has a method. So it is in every state
that a new interpreter reaches.
-/

namespace LineScript

open Exec

def EveryLine (P : Text → Prop) (bodies : Array (Array Text)) : Prop :=
  ∀ id : BodyId, ∀ line ∈ bodies[id]?.getD #[], P line

namespace EveryLine

variable {P : Text → Prop} {bodies : Array (Array Text)} (h : EveryLine P bodies)

include h

theorem pushBody : EveryLine P (bodies.push #[]) := by
  intro id line hline
  rw [Array.getElem?_push] at hline
  split at hline
  · simp at hline
  · exact h id line hline

theorem appendLine (id : BodyId) {line : Text} (hline : P line) :
    EveryLine P (bodies.modify id (·.push line)) := by
  intro i l hl
  rw [Array.getElem?_modify] at hl
  split at hl
  · cases hbody : bodies[i]? with
    | none => simp [hbody] at hl
    | some body =>
        rw [hbody, Option.map_some, Option.getD_some, Array.mem_push] at hl
        rcases hl with hl | rfl
        · exact h i l (by simpa [hbody] using hl)
        · exact hline
  · exact h i l hl

end EveryLine

theorem EveryLine.initial (P : Text → Prop) : EveryLine P State.initial.bodies := by
  intro id line hline
  change line ∈ (Array.replicate 7 #[])[id]?.getD #[] at hline
  rw [Array.getElem?_replicate] at hline
  split at hline <;> simp at hline

/-- The parts of a state are in order. Lines are executed with the given current objects; if none of
these is an object at all, objects have no fields either. -/
structure Orderly (selfs : Option Address → Prop) (blocks : Blocks BodyId)
    (bodies : Array (Array Text)) (functions : Table Name Routine)
    (classes : Table Name (Table Name Routine)) (objects : Array Object)
    (allowance : Option Nat) : Prop where
  openCount_le : blocks.openCount ≤ 1
  body_stored : EveryLine Statement.IsStored bodies
  function_stored : ∀ entry ∈ functions, ∀ line ∈ entry.2.body, Statement.IsStored line
  pending_empty : blocks.classDef.methods = []
  class_empty : ∀ entry ∈ classes, entry.2 = []
  methods_empty : ∀ address : Address, (objects[address]?.getD ⟨[], [], []⟩).methods = []
  fields_empty : (∀ address, ¬selfs (some address)) →
    ∀ address : Address, (objects[address]?.getD ⟨[], [], []⟩).fields = []
  unlimited : allowance = none

def State.IsOrderly (selfs : Option Address → Prop) (s : State) : Prop :=
  Orderly selfs s.blocks s.bodies s.functions s.classes s.heap.objects s.allowance

namespace Orderly

variable {selfs : Option Address → Prop} {blocks : Blocks BodyId} {bodies : Array (Array Text)}
  {functions : Table Name Routine} {classes : Table Name (Table Name Routine)}
  {objects : Array Object} {allowance : Option Nat}
  (h : Orderly selfs blocks bodies functions classes objects allowance)

include h

theorem pushBody : Orderly selfs blocks (bodies.push #[]) functions classes objects allowance :=
  { h with body_stored := h.body_stored.pushBody }

theorem appendLine (id : BodyId) {line : Text} (hstored : Statement.IsStored line) :
    Orderly selfs blocks (bodies.modify id (·.push line)) functions classes objects allowance :=
  { h with body_stored := h.body_stored.appendLine id hstored }

theorem move {blocks' : Blocks BodyId} (hmove : blocks.Moves blocks') :
    Orderly selfs blocks' bodies functions classes objects allowance :=
  { h with
    openCount_le := by
      have hle := h.openCount_le
      rcases hmove.count with hcount | ⟨_, hcount⟩
      · omega
      · exact hcount
    pending_empty := by
      rcases hmove.methods with hsame | hempty
      · rw [hsame, h.pending_empty]
      · exact hempty }

theorem pushObject {name : Text} {methods : Table Name Routine} (hmethods : methods = []) :
    Orderly selfs blocks bodies functions classes (objects.push ⟨name, [], methods⟩) allowance :=
  { h with
    methods_empty := by
      intro address
      rw [Array.getElem?_push]
      split
      · exact hmethods
      · exact h.methods_empty address
    fields_empty := by
      intro hnone address
      rw [Array.getElem?_push]
      split
      · rfl
      · exact h.fields_empty hnone address }

theorem setField {address : Address} (hself : selfs (some address)) (field : Text)
    (value : Value) :
    Orderly selfs blocks bodies functions classes
      (objects.modify address fun object =>
        { object with fields := object.fields.set field value }) allowance :=
  { h with
    methods_empty := by
      intro a
      have ha := h.methods_empty a
      rw [Array.getElem?_modify]
      split
      · cases hobject : objects[a]? with
        | none => rfl
        | some object => simpa [hobject] using ha
      · exact ha
    fields_empty := fun hnone => (hnone address hself).elim }

theorem setFunction (name : Name) {routine : Routine}
    (hstored : ∀ line ∈ routine.body, Statement.IsStored line) :
    Orderly selfs blocks bodies (functions.set name routine) classes objects allowance :=
  { h with
    function_stored :=
      Table.forall_set (fun routine : Routine => ∀ line ∈ routine.body, Statement.IsStored line)
        h.function_stored name hstored }

theorem setClass (name : Name) :
    Orderly selfs blocks bodies functions (classes.set name blocks.classDef.methods) objects
      allowance :=
  { h with class_empty := Table.forall_set (· = []) h.class_empty name h.pending_empty }

end Orderly

namespace State.IsOrderly

variable {selfs : Option Address → Prop} {s : State} (h : s.IsOrderly selfs)

include h

theorem no_method (address : Address) (name : Name) (routine : Routine) :
    (s.heap.object address).methods.get? name ≠ some routine := by
  have hempty : (s.heap.object address).methods = [] := h.methods_empty address
  rw [hempty]
  exact nofun

theorem no_allowance (n : Nat) : s.allowance ≠ some n := by
  rw [h.unlimited]
  exact nofun

end State.IsOrderly

theorem Blocks.not_class_and_function {blocks : Blocks BodyId} (h : blocks.openCount ≤ 1)
    (hclass : blocks.classDef.isOpen = true) : blocks.function.isOpen = false := by
  rw [openCount_eq, hclass, Bool.toNat_true] at h
  cases hfunction : blocks.function.isOpen with
  | false => rfl
  | true =>
      rw [hfunction, Bool.toNat_true] at h
      omega

theorem Comparison.keptBySources_orderly {selfs : Option Address → Prop} (hnone : selfs none) :
    (keeping (State.IsOrderly selfs) selfs).KeptBySources where
  self_none := hnone
  agrees := by rintro s _ ⟨rfl, _⟩; exact .refl s
  lists := by rintro s _ items - ⟨rfl, h⟩; exact ⟨rfl, h⟩
  dicts := by rintro s _ entries - ⟨rfl, h⟩; exact ⟨rfl, h⟩
  vars := by rintro s _ own ⟨rfl, h⟩; exact ⟨rfl, h⟩
  faultCount := by rintro s _ n ⟨rfl, h⟩; exact ⟨rfl, h⟩
  output := by rintro s _ o ⟨rfl, h⟩; exact ⟨rfl, h⟩
  lineNumber_eq h := congrArg _ h.1
  lineNumber := by rintro s _ n ⟨rfl, h⟩; exact ⟨rfl, h⟩
  object := by
    rintro s _ s' _ name methods ⟨rfl, h⟩ hclass ⟨rfl, h'⟩
    exact ⟨rfl, h'.pushObject (h.class_empty _ (Table.mem_of_get? hclass))⟩
  routine _ _ _ _ := trivial
  method h hmethod := absurd hmethod (h.2.no_method _ _ _)
  spent h hn := absurd hn (h.2.no_allowance _)
  body_lines _ _ := trivial
  body := by
    rintro s _ ⟨rfl, h⟩
    exact ⟨rfl, h.pushBody⟩
  named _ := trivial
  blocks := by
    rintro s _ blocks ⟨rfl, h⟩ hmove _
    exact ⟨rfl, h.move hmove⟩
  stored := by
    rintro s _ id line ⟨rfl, h⟩ hopen _ hstored
    exact .ok () ⟨rfl, h.appendLine id hstored⟩
  field := by
    rintro s _ address field value ⟨rfl, h⟩ hself
    exact .ok () ⟨rfl, h.setField hself field value⟩
  function := by
    rintro s _ ⟨rfl, h⟩ hopen
    have hroutine : ∀ line ∈ (Execution.pendingRoutine s).body, Statement.IsStored line :=
      fun line hline => h.body_stored s.blocks.function.body line (Array.mem_toList_iff.mp hline)
    have hmove : s.blocks.Moves
        { s.blocks with function.isOpen := false, function.body := s.bodies.size } :=
      ⟨.inl rfl, .inl (Blocks.openCount_le_of_closed 3 rfl)⟩
    exact .ok () ⟨rfl, ((h.setFunction _ hroutine).pushBody).move hmove⟩
  classDef := by
    rintro s _ ⟨rfl, h⟩ hopen
    have hmove : s.blocks.Moves
        { s.blocks with classDef.isOpen := false, classDef.methods := [] } :=
      ⟨.inr rfl, .inl (Blocks.openCount_le_of_closed 4 rfl)⟩
    exact .ok () ⟨rfl, (h.setClass _).move hmove⟩
  classMethod := by
    -- No method is ever defined: a class and a function would have to be open together.
    rintro s _ ⟨rfl, h⟩ hclass hfunction
    rw [Blocks.not_class_and_function h.openCount_le hclass] at hfunction
    simp at hfunction

/-- The states that a new interpreter reaches by lines and sources, whether they end by a fault or
not. Lines are executed with the given current objects. The disk may change in between. -/
inductive Reachable (selfs : Option Address → Prop) : State → Prop
  | initial : Reachable selfs .initial
  | line {s : State} (disk : Disk) (n : Nat) (source : Text) (self : Option Address)
      (hs : Reachable selfs s) (hself : selfs self)
      (hfin : finishes ((Machine.ofBound disk n).line source self) s = true) :
      Reachable selfs (after ((Machine.ofBound disk n).line source self) s)
  | run {s : State} (disk : Disk) (n : Nat) (source : Source) (hs : Reachable selfs s)
      (hfin : finishes (Source.run disk (Machine.ofBound disk n) source) s = true) :
      Reachable selfs (after (Source.run disk (Machine.ofBound disk n) source) s)

theorem State.isOrderly_initial (selfs : Option Address → Prop) : initial.IsOrderly selfs where
  openCount_le := by decide
  body_stored := .initial _
  function_stored := by
    intro entry hentry
    exact absurd hentry List.not_mem_nil
  pending_empty := rfl
  class_empty := by
    intro entry hentry
    exact absurd hentry List.not_mem_nil
  methods_empty _ := rfl
  fields_empty _ _ := rfl
  unlimited := rfl

theorem Reachable.isOrderly {selfs : Option Address → Prop} {s : State} (hs : Reachable selfs s)
    (hnone : selfs none) : s.IsOrderly selfs := by
  have hkept := Comparison.keptBySources_orderly hnone
  induction hs with
  | initial => exact State.isOrderly_initial selfs
  | line disk n source self hs hself hfin ih =>
      have hm := Machine.ofBound_runsAlike_self (hkept.goesOver disk) n
      exact ((hm.line source self trivial hself).eq_of_keeping ih).2
  | run disk n source hs hfin ih =>
      have hm := Machine.ofBound_runsAlike_self (hkept.goesOver disk) n
      exact ((hkept.run hm disk source fun _ => trivial).eq_of_keeping ih).2

/-- The state after lines, each executed whatever the one before it has ended by. -/
def State.afterLines (disk : Disk) (n : Nat) (lines : List Text) (s : State) : State :=
  lines.foldl (fun s line => after ((Machine.ofBound disk n).line line none) s) s

/-- Whether lines come to their ends, one after the other. -/
def State.linesFinish (disk : Disk) (n : Nat) : List Text → State → Bool
  | [], _ => true
  | line :: rest, s =>
      finishes ((Machine.ofBound disk n).line line none) s &&
        linesFinish disk n rest (after ((Machine.ofBound disk n).line line none) s)

theorem Reachable.afterLines {selfs : Option Address → Prop} {disk : Disk} {n : Nat}
    {lines : List Text} {s : State} (hs : Reachable selfs s) (hnone : selfs none)
    (h : s.linesFinish disk n lines = true) : Reachable selfs (s.afterLines disk n lines) := by
  induction lines generalizing s with
  | nil => exact hs
  | cons line rest ih =>
      rw [State.linesFinish, Bool.and_eq_true] at h
      exact ih (.line disk n line none hs hnone h.1) h.2

/-- At most one block is open, and no line of a block or a function is, when stripped, empty, a
comment or a closing brace. -/
structure State.IsTidy (s : State) : Prop where
  flags : s.blocks.flags.count true ≤ 1
  bodies : ∀ id, ∀ line ∈ s.body id,
    Statement.isSilent (Text.strip line) = false ∧ Text.strip line ≠ [Text.closeBrace]
  functions : ∀ entry ∈ s.functions, ∀ line ∈ entry.2.body,
    Statement.isSilent (Text.strip line) = false ∧ Text.strip line ≠ [Text.closeBrace]

theorem State.IsOrderly.isTidy {selfs : Option Address → Prop} {s : State}
    (h : s.IsOrderly selfs) : s.IsTidy := by
  have hstored {line : Text} (hline : Statement.IsStored line) :
      Statement.isSilent (Text.strip line) = false ∧ Text.strip line ≠ [Text.closeBrace] := by
    rw [hline.strip_eq]
    exact ⟨hline.not_silent, hline.ne_brace⟩
  exact
    { flags := h.openCount_le
      bodies := fun id line hline => hstored (h.body_stored id line hline)
      functions := fun entry hentry line hline =>
        hstored (h.function_stored entry hentry line hline) }

/-- In every reachable state, and at every moment of every line and source that is executed from it,
at most one block is open and stored lines say something other than a closing brace. -/
theorem blocks_open_one_at_a_time {s : State} (hs : Reachable (fun _ => True) s) :
    s.IsTidy ∧
      (∀ disk source self,
        Throughout disk (fun _ t => t.IsTidy) (fun m => m.line source self) s) ∧
      ∀ disk source,
        Throughout disk (fun _ t => t.IsTidy) (fun m => Source.run disk m source) s := by
  have horderly := hs.isOrderly trivial
  have hkept : (Comparison.keeping (State.IsOrderly fun _ => True) fun _ => True).KeptBySources :=
    Comparison.keptBySources_orderly trivial
  refine ⟨horderly.isTidy, fun disk source self => ?_, fun disk source => ?_⟩
  · refine .of_keeping (hkept.goesOver disk) (fun _ _ _ h => h.isTidy) fun m m' hm => ?_
    exact ((hm.line source self trivial trivial).eq_of_keeping horderly).1
  · refine .of_keeping (hkept.goesOver disk) (fun _ _ _ h => h.isTidy) fun m m' hm => ?_
    exact ((hkept.run hm disk source fun _ => trivial).eq_of_keeping horderly).1

/-- A function opens a block and returns: the block stays open, and no other one is. -/
theorem blocks_open_one_at_a_time_call :
    (State.initial.afterLines .empty 9
        ["func f() \x7b", "Now \x7b", "\x7d", "f()"]).blocks.flags =
      [false, false, false, false, false, false, false, true] ∧
    (State.initial.afterLines .empty 9 ["func f() \x7b", "Now \x7b", "\x7d", "f()"]).IsTidy :=
  ⟨by decide, (blocks_open_one_at_a_time (.afterLines .initial trivial (by decide))).1⟩

end LineScript
