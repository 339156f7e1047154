import LineScript.Execution

namespace LineScript

open Exec

namespace Text

theorem dropWhile_stripEnd (p : Char → Bool) {t : Text} (h : t.dropWhile p = t) :
    (stripEnd p t).dropWhile p = stripEnd p t := by
  rw [stripEnd_eq]
  cases t with
  | nil => rfl
  | cons c t =>
      have hc : p c = false := by
        cases hp : p c with
        | false => rfl
        | true =>
            rw [List.dropWhile_cons_of_pos hp] at h
            have hle := (List.dropWhile_suffix p : t.dropWhile p <:+ t).length_le
            rw [h, List.length_cons] at hle
            omega
      -- The first character stays, so it is also the first of what is left.
      have hkeep : (c :: t).reverse.dropWhile p = t.reverse.dropWhile p ++ [c] := by
        rw [List.reverse_cons, List.dropWhile_append]
        split
        · rename_i hempty
          rw [List.isEmpty_iff.mp hempty, List.nil_append,
            List.dropWhile_cons_of_neg (by simp [hc])]
        · rfl
      rw [hkeep, List.reverse_append, List.reverse_singleton, List.singleton_append,
        List.dropWhile_cons_of_neg (by simp [hc])]

theorem stripEnd_stripEnd (p : Char → Bool) (t : Text) :
    stripEnd p (stripEnd p t) = stripEnd p t := by
  simp only [stripEnd_eq, List.reverse_reverse, List.reverse_inj]
  generalize t.reverse = u
  induction u with
  | nil => rfl
  | cons c u ih =>
      cases hc : p c with
      | true => rw [List.dropWhile_cons_of_pos hc, ih]
      | false => simp [hc]

theorem strip_strip (t : Text) : strip (strip t) = strip t := by
  have hdrop : (t.dropWhile isBlank).dropWhile isBlank = t.dropWhile isBlank := by
    induction t with
    | nil => rfl
    | cons c t ih =>
        cases hc : isBlank c with
        | true => rw [List.dropWhile_cons_of_pos hc, ih]
        | false => simp [hc]
  rw [strip, strip, stripBoth, stripBoth, dropWhile_stripEnd isBlank hdrop, stripEnd_stripEnd]

end Text

/-- A line as blocks store it: stripped, and neither silent nor a closing brace. -/
structure Statement.IsStored (line : Text) : Prop where
  strip_eq : Text.strip line = line
  not_silent : Statement.isSilent line = false
  ne_brace : line ≠ [Text.closeBrace]

theorem Statement.IsStored.strip_ne_brace {line : Text} (h : IsStored line) :
    Text.strip line ≠ [Text.closeBrace] := by
  rw [h.strip_eq]
  exact h.ne_brace

/-- The name that a header gives to its block, to be bound when the block runs. -/
def Statement.binder : Statement → Name
  | openHandler name => some name
  | openFor name _ _ => some name
  | _ => none

namespace Blocks

variable {β : Type}

def flags (blocks : Blocks β) : List Bool :=
  [blocks.branch.isOpen, blocks.forLoop.isOpen, blocks.whileLoop.isOpen, blocks.function.isOpen,
    blocks.classDef.isOpen, blocks.attempt.isOpen, blocks.handler.isOpen, blocks.final.isOpen]

def openCount (blocks : Blocks β) : Nat := blocks.flags.count true

theorem openCount_eq (blocks : Blocks β) :
    blocks.openCount =
      blocks.branch.isOpen.toNat + blocks.forLoop.isOpen.toNat + blocks.whileLoop.isOpen.toNat +
        blocks.function.isOpen.toNat + blocks.classDef.isOpen.toNat +
        blocks.attempt.isOpen.toNat + blocks.handler.isOpen.toNat + blocks.final.isOpen.toNat := by
  have hcons (b : Bool) (l : List Bool) : (b :: l).count true = b.toNat + l.count true := by
    cases b <;> simp [Nat.add_comm]
  simp only [openCount, flags, hcons, List.count_nil]
  omega

theorem openBody?_eq_none_iff (blocks : Blocks β) :
    blocks.openBody? = none ↔ blocks.openCount = 0 := by
  have hzero (b : Bool) : b.toNat = 0 ↔ b = false := by cases b <;> simp
  have hsome (p : Bool) (a : β) (o : Option β) :
      (if p then some a else o) = none ↔ p = false ∧ o = none := by
    cases p <;> simp
  rw [openCount_eq, openBody?]
  simp only [hsome, Nat.add_eq_zero_iff, hzero, Bool.or_eq_false_iff, and_true,
    and_assoc]

theorem exists_openBody? {blocks : Blocks β} (hopen : true ∈ blocks.flags) :
    ∃ body, blocks.openBody? = some body := by
  rw [← Option.ne_none_iff_exists', Ne, openBody?_eq_none_iff, openCount, List.count_eq_zero]
  exact not_not_intro hopen

theorem mem_flags_of_forLoop {blocks : Blocks β} (hopen : blocks.forLoop.isOpen = true) :
    true ∈ blocks.flags := by
  simp [flags, hopen]

theorem mem_flags_of_whileLoop {blocks : Blocks β} (hopen : blocks.whileLoop.isOpen = true) :
    true ∈ blocks.flags := by
  simp [flags, hopen]

/-- The names that blocks are to bind: that of the loop over integers, and that of the handler. -/
def binders (blocks : Blocks β) : List Name :=
  [blocks.forLoop.variableName, blocks.handler.variableName]

theorem forall_binders_of_forLoop (blocks : Blocks β) {P : Name → Prop} {name : Name}
    (hname : P name) :
    ∀ other ∈ [name, blocks.handler.variableName], other ∈ blocks.binders ∨ P other :=
  List.forall_mem_cons.mpr ⟨.inr hname, fun _ hmem => .inl (List.mem_cons_of_mem _ hmem)⟩

theorem forall_binders_of_handler (blocks : Blocks β) {P : Name → Prop} {name : Name}
    (hname : P name) :
    ∀ other ∈ [blocks.forLoop.variableName, name], other ∈ blocks.binders ∨ P other :=
  List.forall_mem_cons.mpr ⟨.inl List.mem_cons_self, List.forall_mem_singleton.mpr (.inr hname)⟩

/-- The changes that an execution makes to the blocks, apart from the methods of a class. -/
structure Moves (before after : Blocks β) : Prop where
  methods : after.classDef.methods = before.classDef.methods ∨ after.classDef.methods = []
  count : after.openCount ≤ before.openCount ∨
    before.openCount = 0 ∧ after.openCount ≤ 1

section Flag

variable {before after : Blocks β} (place : Nat)

theorem openCount_le_of_set {isOpen : Bool}
    (hflags : after.flags = before.flags.set place isOpen) :
    after.openCount ≤ before.openCount + isOpen.toNat := by
  rw [openCount, hflags, openCount]
  by_cases hplace : place < before.flags.length
  · rw [List.count_set hplace]
    cases isOpen with
    | false => exact Nat.sub_le _ _
    | true => exact Nat.add_le_add_right (Nat.sub_le _ _) 1
  · rw [List.set_eq_of_length_le (Nat.le_of_not_lt hplace)]
    exact Nat.le_add_right _ _

theorem openCount_le_of_closed (hflags : after.flags = before.flags.set place false) :
    after.openCount ≤ before.openCount :=
  openCount_le_of_set place hflags

theorem Moves.of_opened (hnone : before.openCount = 0)
    (hflags : after.flags = before.flags.set place true)
    (hmethods : after.classDef.methods = before.classDef.methods ∨ after.classDef.methods = []) :
    before.Moves after := by
  have hle := openCount_le_of_set place hflags
  rw [hnone] at hle
  exact ⟨hmethods, .inr ⟨hnone, hle⟩⟩

end Flag

end Blocks

namespace Execution

/-- Runs the parts of an attempt: its body, the handler if the body fails, and the final block. -/
def runParts (m : Machine) (bound : Nat) : Exec Unit := do
  let blocks := (← get).blocks
  match ← failureOf m bound blocks.attempt.body with
  | some cause =>
      if !((← get).body blocks.handler.body).isEmpty then
        setVariable (← get).blocks.handler.variableName (← newFault cause)
        let _ ← runBody m bound blocks.handler.body
  | none => pure ()
  runIfAny m bound blocks.final.body

theorem runAttempt_eq (m : Machine) (bound : Nat) :
    runAttempt m bound = (do runParts m bound; resetAttempt) := by
  unfold runAttempt runParts
  simp only [bind_assoc]
  congr 1
  funext s
  congr 1
  funext failure
  cases failure with
  | none => rfl
  | some cause =>
      simp only [bind_assoc]
      congr 1
      funext t
      split
      · simp only [bind_assoc]
      · rfl

variable {m : Machine} {bound : Nat} {s : State}

theorem close_of_class (hclass : s.blocks.classDef.isOpen = true) :
    close m bound s = if s.blocks.function.isOpen then closeMethod s else closeClass s := by
  change (if s.blocks.classDef.isOpen = true then _ else _ : Exec Unit) s = _
  rw [if_pos hclass]
  cases s.blocks.function.isOpen <;> rfl

theorem close_of_function (hclass : s.blocks.classDef.isOpen = false)
    (hfunction : s.blocks.function.isOpen = true) : close m bound s = closeFunction s := by
  change (if s.blocks.classDef.isOpen = true then _ else _ : Exec Unit) s = _
  rw [hclass, hfunction]
  rfl

def closeFinal (m : Machine) (bound : Nat) : Exec Unit := do
  runAttempt m bound
  modifyBlocks fun b => { b with final.isOpen := false }

theorem close_of_final (hclass : s.blocks.classDef.isOpen = false)
    (hfunction : s.blocks.function.isOpen = false) (hfinal : s.blocks.final.isOpen = true) :
    close m bound s = closeFinal m bound s := by
  change (if s.blocks.classDef.isOpen = true then _ else _ : Exec Unit) s = _
  rw [hclass, hfunction, hfinal]
  rfl

/-- Closes a loop or a branch; an attempt and its handler are closed first. -/
def closeRunning (m : Machine) (bound : Nat) (blocks : Blocks BodyId) : Exec Unit := do
  modifyBlocks fun b => { b with handler.isOpen := false, attempt.isOpen := false }
  if blocks.forLoop.isOpen then
    runFor m bound
    modifyBlocks fun b => { b with forLoop.isOpen := false }
  else if blocks.whileLoop.isOpen then
    runWhile m bound
    modifyBlocks fun b => { b with whileLoop.isOpen := false }
  else if blocks.branch.isOpen then
    runBranch m bound
    modifyBlocks fun b => { b with branch.isOpen := false }
  else fail .strayBrace

theorem close_of_running (hclass : s.blocks.classDef.isOpen = false)
    (hfunction : s.blocks.function.isOpen = false) (hfinal : s.blocks.final.isOpen = false) :
    close m bound s = closeRunning m bound s.blocks s := by
  change (if s.blocks.classDef.isOpen = true then _ else _ : Exec Unit) s = _
  rw [hclass, hfunction, hfinal]
  rfl

/-- Executes a line that says something and closes nothing: captures it, or does what it says. -/
def capture (m : Machine) (line : Text) (self : Option Address) : Exec Unit := do
  match (← get).blocks.openBody? with
  | some id => appendLine id line
  | none => perform m line self (Statement.ofLine line)

theorem line_eq (m : Machine) (bound : Nat) (source : Text) (self : Option Address) :
    line m bound source self = (do
      spend
      if Statement.isSilent (Text.strip source) then pure ()
      else if Text.strip source = [Text.closeBrace] then close m bound
      else capture m (Text.strip source) self) := rfl

theorem capture_of_open {id : BodyId} (hopen : s.blocks.openBody? = some id) (line : Text)
    (self : Option Address) : capture m line self s = appendLine id line s := by
  rw [capture, get_bind, hopen]

theorem capture_of_none (hopen : s.blocks.openBody? = none) (line : Text)
    (self : Option Address) :
    capture m line self s = perform m line self (Statement.ofLine line) s := by
  rw [capture, get_bind, hopen]

theorem line_of_none {source : Text} (hsilent : Statement.isSilent (Text.strip source) = false)
    (hbrace : Text.strip source ≠ [Text.closeBrace]) (hopen : s.blocks.openCount = 0)
    (hunlimited : s.allowance = none) (bound : Nat) (self : Option Address) :
    line m bound source self s =
      perform m (Text.strip source) self (Statement.ofLine (Text.strip source)) s := by
  rw [line_eq, hsilent, if_neg Bool.false_ne_true, if_neg hbrace,
    bind_of_ok (spend_of_unlimited hunlimited),
    capture_of_none ((Blocks.openBody?_eq_none_iff _).mpr hopen)]

end Execution

end LineScript
