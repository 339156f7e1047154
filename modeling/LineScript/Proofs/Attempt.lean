import Mathlib.Data.List.Nodup
import LineScript.Proofs.Closing
import LineScript.Proofs.Running

/-!
Attempts in the run of one source. A brace that closes an attempt or a handler is an error, so it
ends the run. A body of either is therefore empty, unless it is still being captured: a final block
runs alone, and no fault is ever caught.
-/

namespace LineScript

open Exec

namespace Blocks

def bodyIds (blocks : Blocks BodyId) : List BodyId :=
  [blocks.branch.body, blocks.forLoop.body, blocks.whileLoop.body, blocks.function.body,
    blocks.attempt.body, blocks.handler.body, blocks.final.body]

variable {blocks : Blocks BodyId} {id : BodyId} (hnodup : blocks.bodyIds.Nodup)
  (hopen : blocks.openBody? = some id)

include hnodup hopen

theorem ne_attempt_of_openBody? (hclosed : blocks.attempt.isOpen = false) :
    id ≠ blocks.attempt.body := by
  simp only [bodyIds, List.nodup_cons, List.mem_cons, not_or] at hnodup
  unfold openBody? at hopen
  grind

theorem ne_handler_of_openBody? (hclosed : blocks.handler.isOpen = false) :
    id ≠ blocks.handler.body := by
  simp only [bodyIds, List.nodup_cons, List.mem_cons, not_or] at hnodup
  unfold openBody? at hopen
  grind

end Blocks

/-- The blocks have bodies of their own in the store. Those of the attempt and its handler are empty
where the block is not open, and no fault has been caught. -/
structure Unattempted (blocks : Blocks BodyId) (bodies : Array (Array Text)) (faultCount : Nat) :
    Prop where
  nodup : blocks.bodyIds.Nodup
  lt_size : ∀ id ∈ blocks.bodyIds, id < bodies.size
  attempt_empty : blocks.attempt.isOpen = false → bodies[blocks.attempt.body]?.getD #[] = #[]
  handler_empty : blocks.handler.isOpen = false → bodies[blocks.handler.body]?.getD #[] = #[]
  faultCount_eq : faultCount = 0

namespace Unattempted

variable {blocks blocks' : Blocks BodyId} {bodies : Array (Array Text)} {faultCount : Nat}
  (h : Unattempted blocks bodies faultCount)

include h

theorem move (hids : blocks'.bodyIds = blocks.bodyIds)
    (hattempt : blocks'.attempt.isOpen = false → blocks.attempt.isOpen = false)
    (hhandler : blocks'.handler.isOpen = false → blocks.handler.isOpen = false) :
    Unattempted blocks' bodies faultCount where
  nodup := by rw [hids]; exact h.nodup
  lt_size := by rw [hids]; exact h.lt_size
  attempt_empty hclosed := by
    have hbody : blocks'.attempt.body = blocks.attempt.body := congrArg (·.getD 4 0) hids
    rw [hbody, h.attempt_empty (hattempt hclosed)]
  handler_empty hclosed := by
    have hbody : blocks'.handler.body = blocks.handler.body := congrArg (·.getD 5 0) hids
    rw [hbody, h.handler_empty (hhandler hclosed)]
  faultCount_eq := h.faultCount_eq

theorem renew (place : Nat) (hids : blocks'.bodyIds = blocks.bodyIds.set place bodies.size)
    (hattempt : blocks'.attempt = blocks.attempt ∨ blocks'.attempt.body = bodies.size)
    (hhandler : blocks'.handler = blocks.handler ∨ blocks'.handler.body = bodies.size) :
    Unattempted blocks' (bodies.push #[]) faultCount := by
  have hfresh : bodies.size ∉ blocks.bodyIds := fun hmem => Nat.lt_irrefl _ (h.lt_size _ hmem)
  have hpush (id : BodyId) : (bodies.push #[])[id]?.getD #[] = bodies[id]?.getD #[] := by
    rw [Array.getElem?_push]
    split
    · rename_i heq
      simp [heq]
    · rfl
  refine ⟨?_, ?_, ?_, ?_, h.faultCount_eq⟩
  · rw [hids]
    exact h.nodup.set hfresh
  · intro id hid
    rw [hids] at hid
    rw [Array.size_push]
    rcases List.mem_or_eq_of_mem_set hid with hold | rfl
    · exact Nat.lt_succ_of_lt (h.lt_size id hold)
    · exact Nat.lt_succ_self _
  · intro hclosed
    rw [hpush]
    rcases hattempt with hsame | hnew
    · rw [hsame] at hclosed ⊢
      exact h.attempt_empty hclosed
    · simp [hnew]
  · intro hclosed
    rw [hpush]
    rcases hhandler with hsame | hnew
    · rw [hsame] at hclosed ⊢
      exact h.handler_empty hclosed
    · simp [hnew]

theorem reset :
    Unattempted
      { blocks with
        attempt.body := bodies.size
        handler.body := (bodies.push #[]).size
        final.body := ((bodies.push #[]).push #[]).size }
      (((bodies.push #[]).push #[]).push #[]) faultCount := by
  have hattempt : Unattempted { blocks with attempt.body := bodies.size } (bodies.push #[])
      faultCount := h.renew 4 rfl (.inr rfl) (.inl rfl)
  have hhandler : Unattempted
      { blocks with attempt.body := bodies.size, handler.body := (bodies.push #[]).size }
      ((bodies.push #[]).push #[]) faultCount := hattempt.renew 5 rfl (.inl rfl) (.inr rfl)
  exact hhandler.renew 6 rfl (.inl rfl) (.inl rfl)

theorem appendLine {id : BodyId} (hopen : blocks.openBody? = some id) (line : Text) :
    Unattempted blocks (bodies.modify id (·.push line)) faultCount := by
  have hne {other : BodyId} (hother : id ≠ other) :
      (bodies.modify id (·.push line))[other]? = bodies[other]? := by
    rw [Array.getElem?_modify, if_neg hother]
  refine ⟨h.nodup, ?_, ?_, ?_, h.faultCount_eq⟩
  · rw [Array.size_modify]
    exact h.lt_size
  · intro hclosed
    rw [hne (Blocks.ne_attempt_of_openBody? h.nodup hopen hclosed), h.attempt_empty hclosed]
  · intro hclosed
    rw [hne (Blocks.ne_handler_of_openBody? h.nodup hopen hclosed), h.handler_empty hclosed]

end Unattempted

/-- The state is in order, and no attempt has run in it. -/
def State.IsUnattempted (s : State) : Prop :=
  s.IsOrderly (fun _ => True) ∧ Unattempted s.blocks s.bodies s.faultCount

theorem State.isUnattempted_initial : initial.IsUnattempted := by
  refine ⟨isOrderly_initial _, ?_, ?_, ?_, ?_, rfl⟩
  · decide
  · decide
  · exact fun _ => rfl
  · exact fun _ => rfl

namespace Comparison

/-- Both executions run in the same state, where no attempt has run, and execute no closing brace.
-/
def unattempted : Comparison :=
  keeping State.IsUnattempted (fun _ => True) fun line => Text.strip line ≠ [Text.closeBrace]

theorem keptByCommands_unattempted : unattempted.KeptByCommands where
  self_none := trivial
  agrees := by rintro s _ ⟨rfl, _⟩; exact .refl s
  lists := by rintro s _ items - ⟨rfl, h⟩; exact ⟨rfl, h⟩
  dicts := by rintro s _ entries - ⟨rfl, h⟩; exact ⟨rfl, h⟩
  vars := by rintro s _ own ⟨rfl, h⟩; exact ⟨rfl, h⟩
  output := by rintro s _ o ⟨rfl, h⟩; exact ⟨rfl, h⟩
  object := by
    rintro s _ s' _ name methods ⟨rfl, h⟩ hclass ⟨rfl, h'⟩
    exact ⟨rfl, h'.1.pushObject (h.1.class_empty _ (Table.mem_of_get? hclass)), h'.2⟩
  routine := by
    rintro s _ name routine ⟨rfl, h⟩ hroutine line hline
    exact (h.1.function_stored _ (Table.mem_of_get? hroutine) line hline).strip_ne_brace
  method h hmethod := absurd hmethod (h.2.1.no_method _ _ _)
  spent h hn := absurd hn (h.2.1.no_allowance _)
  body_lines := by
    rintro s _ id line ⟨rfl, h⟩ hline
    exact (h.1.body_stored id line hline).strip_ne_brace
  field := by
    rintro s _ address field value ⟨rfl, h⟩ hself
    exact .ok () ⟨rfl, h.1.setField hself field value, h.2⟩

theorem isOrderly_perform_idle {s : State} (hs : s.IsUnattempted) (hnone : s.blocks.openCount = 0)
    (line : Text) (self : Option Address) (statement : Statement) :
    (after (Execution.perform Machine.idle line self statement) s).IsOrderly fun _ => True := by
  have hkept : (keeping (State.IsOrderly fun _ => True) fun _ => True).KeptBySources :=
    keptBySources_orderly trivial
  have hself : (keeping (State.IsOrderly fun _ => True) fun _ => True).selfs self := trivial
  have hname : (keeping (State.IsOrderly fun _ => True) fun _ => True).names statement.binder :=
    trivial
  have hperform := hkept.perform Machine.idle_runsAlike line hself hname ⟨rfl, hs.1⟩ hnone
  exact hperform.eq_of_keeping.2

variable {m m' : Machine} (hm : m.RunsAlike unattempted m')

include hm

theorem perform_unattempted (line : Text) (self : Option Address) (statement : Statement)
    {s : State} (hs : s.IsUnattempted) (hnone : s.blocks.openCount = 0) :
    Matches unattempted (Execution.perform m line self statement s)
      (Execution.perform m' line self statement s) := by
  have hc := keptByCommands_unattempted
  have horderly := isOrderly_perform_idle hs hnone line self statement
  -- A header renews the body of its block, which is given by its place among the bodies.
  cases statement with
  | openTry =>
      exact .ok () ⟨rfl, horderly, hs.2.reset.move rfl nofun id⟩
  | openHandler name => exact .ok () ⟨rfl, horderly, hs.2.renew 5 rfl (.inl rfl) (.inr rfl)⟩
  | openFinal => exact .ok () ⟨rfl, horderly, hs.2.renew 6 rfl (.inl rfl) (.inl rfl)⟩
  | openFor name first last =>
      exact .ok () ⟨rfl, horderly, hs.2.renew 1 rfl (.inl rfl) (.inl rfl)⟩
  | openWhile condition => exact .ok () ⟨rfl, horderly, hs.2.renew 2 rfl (.inl rfl) (.inl rfl)⟩
  | openBranch condition =>
      have hopen : State.IsUnattempted
          { s with
            bodies := s.bodies.push #[]
            blocks := { s.blocks with branch.isOpen := true, branch.body := s.bodies.size } } :=
        ⟨horderly, hs.2.renew 0 rfl (.inl rfl) (.inl rfl)⟩
      have hactive (isActive : Bool) :
          Alike unattempted (modifyBlocks fun b => { b with branch.isActive := isActive })
            (modifyBlocks fun b => { b with branch.isActive := isActive }) := by
        refine Alike.modify ?_
        rintro t _ ⟨rfl, ht⟩
        exact ⟨rfl, ht.1.move ⟨.inl rfl, .inl (Nat.le_refl _)⟩, ht.2.move rfl id id⟩
      exact ((hc.condition hm.toEvaluatesAlike condition).bind hactive) ⟨rfl, hopen⟩
  | openClass name => exact .ok () ⟨rfl, horderly, hs.2.move rfl id id⟩
  | openFunction name params =>
      exact .ok () ⟨rfl, horderly, hs.2.renew 3 rfl (.inl rfl) (.inl rfl)⟩
  | malformed header => exact .error _ ⟨rfl, hs⟩
  | assign target source => exact hc.assign hm.toEvaluatesAlike target source trivial ⟨rfl, hs⟩
  | breakLoop => exact .error _ ⟨rfl, hs⟩
  | continueLoop => exact .error _ ⟨rfl, hs⟩
  | print source => exact hc.printStatement hm.toEvaluatesAlike line source trivial ⟨rfl, hs⟩
  | call => exact KeptByEvaluation.callStatement hm.toEvaluatesAlike line trivial ⟨rfl, hs⟩
  | unknown => exact .error _ ⟨rfl, hs⟩

theorem line_unattempted (bound : Nat) {source : Text}
    (hsource : Text.strip source ≠ [Text.closeBrace]) (self : Option Address) :
    Alike unattempted (Execution.line m bound source self)
      (Execution.line m' bound source self) := by
  refine alike_line keptByCommands_unattempted.spend ?_ (fun hbrace => absurd hbrace hsource) ?_ ?_
  · rintro s _ ⟨rfl, _⟩
    rfl
  · rintro s _ id ⟨rfl, hs⟩ hopen hstored
    exact .ok () ⟨rfl, hs.1.appendLine id hstored, hs.2.appendLine hopen _⟩
  · rintro s _ ⟨rfl, hs⟩ hnone
    exact perform_unattempted hm _ self _ hs hnone

omit hm in
theorem goesOver_unattempted (disk : Disk) : unattempted.GoesOver disk := by
  have hc := keptByCommands_unattempted
  intro m m' bound hm
  refine ⟨hm.evaluates_next hc.toKeptByCalls.keptByRoutines disk bound bound, ?_⟩
  intro source self hline _
  exact line_unattempted hm bound hline self

end Comparison

theorem Blocks.closed_of_final {blocks : Blocks BodyId} (hone : blocks.openCount ≤ 1)
    (hfinal : blocks.final.isOpen = true) :
    blocks.attempt.isOpen = false ∧ blocks.handler.isOpen = false := by
  rw [openCount_eq, hfinal, Bool.toNat_true] at hone
  exact ⟨Bool.toNat_eq_zero.mp (by omega), Bool.toNat_eq_zero.mp (by omega)⟩

namespace Execution

theorem runParts_of_empty {m : Machine} {s : State} (hempty : s.body s.blocks.attempt.body = #[])
    (hs : s.allowance = none) (bound : Nat) :
    runParts m (bound + 1) s = runIfAny m (bound + 1) s.blocks.final.body s := by
  rw [runParts, get_bind, bind_of_ok (failureOf_of_empty hempty hs bound)]

theorem runParts_zero (m : Machine) {s : State} (hs : s.allowance = none) :
    runParts m 0 s = .error .exhausted s := by
  have hbody : runBody m 0 s.blocks.attempt.body s = .error .exhausted s := by
    rw [runBody, bind_of_ok (spend_of_unlimited hs)]
    rfl
  have hfailure : failureOf m 0 s.blocks.attempt.body s = .error .exhausted s := by
    rw [failureOf, rescue, bind_of_error hbody]
  rw [runParts, get_bind, bind_of_error hfailure]

theorem runOpen_unattempted {m m' : Machine} (hm : m.RunsAlike .unattempted m') (bound : Nat)
    {s : State} (hs : s.IsUnattempted) :
    Matches .unattempted (runOpen m bound s.blocks s) (runOpen m' bound s.blocks s) := by
  have hc := Comparison.keptByCommands_unattempted
  refine hc.toKeptByBodies.runOpen hm ?_ ⟨rfl, hs⟩ fun hfinal => ?_
  · rintro _ t _ i ⟨rfl, ht⟩
    exact ⟨rfl, ht⟩
  · have hclosed := Blocks.closed_of_final hs.1.openCount_le hfinal
    have hempty : s.body s.blocks.attempt.body = #[] := hs.2.attempt_empty hclosed.1
    cases bound with
    | zero =>
        rw [runParts_zero m hs.1.unlimited, runParts_zero m' hs.1.unlimited]
        exact .error _ ⟨rfl, hs⟩
    | succ bound =>
        rw [runParts_of_empty hempty hs.1.unlimited, runParts_of_empty hempty hs.1.unlimited]
        exact (hc.runsBody hm _ (.inl rfl)).runIfAny ⟨rfl, hs⟩

theorem leave_unattempted {blocks : Blocks BodyId} {s t : State}
    (hs : Unattempted s.blocks s.bodies s.faultCount) (h : leave blocks s = .ok () t) :
    Unattempted t.blocks t.bodies t.faultCount := by
  unfold leave at h
  -- A class, a function, the final block, the loops, a branch; all else is a fault.
  split at h
  · cases h
    exact hs.move rfl id id
  split at h
  · cases h
    exact hs.renew 3 rfl (.inl rfl) (.inl rfl)
  split at h
  · cases h
    exact hs.reset.move rfl id id
  split at h
  · cases h
    exact hs.renew 1 rfl (.inl rfl) (.inl rfl)
  split at h
  · cases h
    exact hs.renew 2 rfl (.inl rfl) (.inl rfl)
  split at h
  · cases h
    exact hs.renew 0 rfl (.inl rfl) (.inl rfl)
  · cases h

theorem faultCount_leave (blocks : Blocks BodyId) (s : State) :
    (after (leave blocks) s).faultCount = s.faultCount := by
  unfold leave
  repeat' split
  all_goals rfl

/-- A closing brace does not depend on the machine as far as lines other than closing braces go. -/
theorem close_eq_of_unattempted {m m' : Machine} (hm : m.RunsAlike .unattempted m') (bound : Nat)
    {s : State} (hs : s.IsUnattempted) : close m bound s = close m' bound s := by
  rw [close_eq hs.1.openCount_le, close_eq hs.1.openCount_le]
  exact bind_eq_of_eq (runOpen_unattempted hm bound hs).eq_of_keeping.1 _

theorem close_unattempted {m : Machine} (hm : m.RunsAlike .unattempted m) (bound : Nat)
    {s : State} (hs : s.IsUnattempted) :
    (after (close m bound) s).faultCount = 0 ∧
      ∀ t, close m bound s = .ok () t → Unattempted t.blocks t.bodies t.faultCount := by
  have hrun := (runOpen_unattempted hm bound hs).eq_of_keeping.2
  rw [after_eq_of_eq (close_eq hs.1.openCount_le), close_eq hs.1.openCount_le]
  constructor
  · have hcount : (after (runOpen m bound s.blocks) s).faultCount = 0 := hrun.2.faultCount_eq
    refine after_bind (P := fun t => t.faultCount = 0) hcount fun _ t ht => ?_
    rw [faultCount_leave, ht]
  · intro t h
    cases ho : runOpen m bound s.blocks s with
    | error halt u => simp [bind_of_error ho] at h
    | ok a u =>
        rw [after, ho] at hrun
        rw [bind_of_ok ho] at h
        exact leave_unattempted hrun.2 h

theorem close_of_attempt {m : Machine} {bound : Nat} {s : State} (hone : s.blocks.openCount ≤ 1)
    (hopen : s.blocks.attempt.isOpen = true ∨ s.blocks.handler.isOpen = true) :
    close m bound s =
      .error (.fault .strayBrace)
        { s with
          blocks := { s.blocks with handler.isOpen := false, attempt.isOpen := false } } := by
  -- One of the two is open, so all other blocks are closed and nothing is left to run.
  have hcount : 0 < s.blocks.attempt.isOpen.toNat + s.blocks.handler.isOpen.toNat := by
    rcases hopen with h | h <;> rw [h, Bool.toNat_true] <;> omega
  rw [Blocks.openCount_eq] at hone
  have hclass : s.blocks.classDef.isOpen = false := Bool.toNat_eq_zero.mp (by omega)
  have hfunction : s.blocks.function.isOpen = false := Bool.toNat_eq_zero.mp (by omega)
  have hfinal : s.blocks.final.isOpen = false := Bool.toNat_eq_zero.mp (by omega)
  have hfor : s.blocks.forLoop.isOpen = false := Bool.toNat_eq_zero.mp (by omega)
  have hwhile : s.blocks.whileLoop.isOpen = false := Bool.toNat_eq_zero.mp (by omega)
  have hbranch : s.blocks.branch.isOpen = false := Bool.toNat_eq_zero.mp (by omega)
  rw [close_of_running hclass hfunction hfinal, closeRunning, hfor, hwhile, hbranch]
  rfl

end Execution

namespace Machine

theorem next_line_closeBrace {disk : Disk} {m : Machine} {bound : Nat} {source : Text}
    (hbrace : Text.strip source = [Text.closeBrace]) (self : Option Address) {s : State}
    (hs : s.allowance = none) :
    (next disk m bound).line source self s = Execution.close m bound s := by
  change Execution.line m bound source self s = _
  rw [Execution.line_eq, hbrace, bind_of_ok (spend_of_unlimited hs)]
  rfl

theorem next_line_eq {disk : Disk} {m m' : Machine} (hm : m.RunsAlike .unattempted m')
    (bound : Nat) (source : Text) (self : Option Address) {s : State} (hs : s.IsUnattempted) :
    (next disk m bound).line source self s = (next disk m' bound).line source self s := by
  by_cases hbrace : Text.strip source = [Text.closeBrace]
  · rw [next_line_closeBrace hbrace self hs.1.unlimited,
      next_line_closeBrace hbrace self hs.1.unlimited]
    exact Execution.close_eq_of_unattempted hm bound hs
  · exact ((Comparison.line_unattempted hm bound hbrace self).eq_of_keeping hs).1

theorem next_line_unattempted (disk : Disk) (n bound : Nat) (source : Text) {s : State}
    (hs : s.IsUnattempted) :
    let m := next disk (ofBound disk n) bound
    (after (m.line source none) s).faultCount = 0 ∧
      ∀ t, m.line source none s = .ok () t → t.IsUnattempted := by
  intro m
  have hm := ofBound_runsAlike_self (Comparison.goesOver_unattempted disk) n
  by_cases hbrace : Text.strip source = [Text.closeBrace]
  · have hline : m.line source none s = Execution.close (ofBound disk n) bound s :=
      next_line_closeBrace hbrace none hs.1.unlimited
    obtain ⟨hcount, hok⟩ := Execution.close_unattempted hm bound hs
    rw [after_eq_of_eq hline]
    refine ⟨hcount, fun t ht => ⟨?_, hok t (hline.symm.trans ht)⟩⟩
    have hkept : (Comparison.keeping (State.IsOrderly fun _ => True)
        fun _ => True).KeptBySources := Comparison.keptBySources_orderly trivial
    have horderly := hkept.goesOver disk bound (ofBound_runsAlike_self (hkept.goesOver disk) n)
    exact (horderly.line source none trivial trivial).holds_of_ok hs.1 ht
  · have hline := Comparison.line_unattempted hm bound hbrace none
    exact ⟨(hline.eq_of_keeping hs).2.2.faultCount_eq, fun t ht => hline.holds_of_ok hs ht⟩

end Machine

def Event.Closes : Event → Prop
  | .line source _ => Text.strip source = [Text.closeBrace]
  | _ => False

namespace Source

variable {disk : Disk} {n bound : Nat}

theorem runLines_unattempted (disk : Disk) (n bound count : Nat) (lines : List Text) {s : State}
    (hs : s.IsUnattempted) :
    let m := Machine.next disk (.ofBound disk n) bound
    (after (runLines m count lines) s).faultCount = 0 ∧
      ∀ t, runLines m count lines s = .ok () t → t.IsUnattempted := by
  intro m
  induction lines generalizing count s with
  | nil =>
      refine ⟨hs.2.faultCount_eq, fun t ht => ?_⟩
      cases ht
      exact hs
  | cons line rest ih =>
      have hnumbered : State.IsUnattempted { s with lineNumber := count + 1 } := hs
      obtain ⟨hcount, hok⟩ := Machine.next_line_unattempted disk n bound line hnumbered
      rw [after_eq_of_eq (runLines_cons m count line rest s), runLines_cons]
      cases ho : m.line line none { s with lineNumber := count + 1 } with
      | error halt u =>
          rw [after, ho] at hcount
          rw [after, bind_of_error ho]
          exact ⟨hcount, fun t ht => by cases ht⟩
      | ok _ u =>
          rw [after_eq_of_eq (bind_of_ok ho _), bind_of_ok ho]
          exact ih (count + 1) (hok u ho)

theorem runLines_eq_of_unattempted {m : Machine}
    (hm : m.RunsAlike .unattempted (.ofBound disk n)) (count : Nat) (lines : List Text)
    {s : State} (hs : s.IsUnattempted) :
    runLines (Machine.next disk m bound) count lines s =
      runLines (Machine.next disk (.ofBound disk n) bound) count lines s := by
  induction lines generalizing count s with
  | nil => rfl
  | cons line rest ih =>
      have hnumbered : State.IsUnattempted { s with lineNumber := count + 1 } := hs
      have hline : (Machine.next disk m bound).line line none { s with lineNumber := count + 1 } =
          (Machine.next disk (.ofBound disk n) bound).line line none _ :=
        Machine.next_line_eq hm bound line none hnumbered
      rw [runLines_cons, runLines_cons]
      cases ho : (Machine.next disk (.ofBound disk n) bound).line line none
          { s with lineNumber := count + 1 } with
      | error halt u => rw [bind_of_error ho, bind_of_error (hline.trans ho)]
      | ok _ u =>
          rw [bind_of_ok ho, bind_of_ok (hline.trans ho)]
          exact ih (count + 1) ((Machine.next_line_unattempted disk n bound line hnumbered).2 u ho)

theorem opening_unattempted (banner : Option Text) {s : State} (hs : s.IsUnattempted) :
    ∃ t, opening banner s = .ok () t ∧ t.IsUnattempted := by
  cases banner with
  | some banner => exact ⟨_, rfl, hs⟩
  | none => exact ⟨_, rfl, hs⟩

theorem run_eq_of_unattempted {m : Machine} (hm : m.RunsAlike .unattempted (.ofBound disk n))
    (source : Source) {s : State} (hs : s.IsUnattempted) :
    run disk (Machine.next disk m bound) source s =
      run disk (Machine.next disk (.ofBound disk n) bound) source s := by
  cases hload : load disk source with
  | refused message => rw [run, run, hload]
  | lines banner lines =>
      obtain ⟨t, hopening, ht⟩ := opening_unattempted banner hs
      rw [run_eq hload, run_eq hload, bind_of_ok hopening, bind_of_ok hopening, runAll, runAll]
      refine bind_eq_of_eq ?_ _
      rw [rescue, rescue, runLines_eq_of_unattempted hm 0 lines ht]

theorem faultCount_report (cause : Fault) (s : State) :
    (after (report cause) s).faultCount = s.faultCount := by
  unfold report
  split <;> rfl

theorem faultCount_run (source : Source) {s : State} (hs : s.IsUnattempted) :
    (after (run disk (Machine.next disk (.ofBound disk n) bound) source) s).faultCount = 0 := by
  cases hload : load disk source with
  | refused message =>
      rw [run, hload]
      exact hs.2.faultCount_eq
  | lines banner lines =>
      obtain ⟨t, hopening, ht⟩ := opening_unattempted banner hs
      rw [run_eq hload, after_eq_of_eq (bind_of_ok hopening _), runAll]
      have hlines := (runLines_unattempted disk n bound 0 lines ht).1
      have hreported : (after (rescue (runLines _ 0 lines) report) t).faultCount = 0 :=
        after_rescue (P := fun u => u.faultCount = 0) hlines fun cause u hu => by
          rw [faultCount_report, hu]
      exact after_bind (P := fun u => u.faultCount = 0) hreported fun _ u hu => hu

/-- The state in which a run ends that is stopped by the closing brace of an attempt or a handler,
at the line with the given number. -/
def stoppedAt (number : Nat) (s : State) : State :=
  { s with
    lineNumber := number
    blocks := { s.blocks with attempt.isOpen := false, handler.isOpen := false }
    output := s.output ++ ("\nERRO INTERNO DO INTERPRETADOR (Linha " ++ toString number ++
      "): LineNoRecognized: '\x7d' sem bloco ativo\n") ++ closing }

theorem runAll_of_attempt (disk : Disk) (n bound : Nat) {before rest : List Text} {line : Text}
    {s t : State} (hs : s.IsUnattempted)
    (hbefore : runLines (Machine.next disk (.ofBound disk n) bound) 0 before s = .ok () t)
    (hbrace : Text.strip line = [Text.closeBrace])
    (hopen : t.blocks.attempt.isOpen = true ∨ t.blocks.handler.isOpen = true) :
    runAll (Machine.next disk (.ofBound disk n) bound) (before ++ line :: rest) s =
      .ok () (stoppedAt (before.length + 1) t) := by
  have ht := (runLines_unattempted disk n bound 0 before hs).2 t hbefore
  have hunlimited : State.allowance { t with lineNumber := before.length + 1 } = none :=
    ht.1.unlimited
  have hline : (Machine.next disk (.ofBound disk n) bound).line line none
      { t with lineNumber := before.length + 1 } =
        .error (.fault .strayBrace)
          { t with
            lineNumber := before.length + 1
            blocks := { t.blocks with handler.isOpen := false, attempt.isOpen := false } } := by
    rw [Machine.next_line_closeBrace hbrace none hunlimited]
    exact Execution.close_of_attempt ht.1.openCount_le hopen
  rw [← Nat.zero_add before.length] at hline
  rw [runAll_of_error (runLines_of_error hbefore hline) rfl, stoppedAt, Nat.zero_add]
  have htext : reportText .strayBrace (before.length + 1) =
      "\nERRO INTERNO DO INTERPRETADOR (Linha " ++ toString (before.length + 1) ++
        "): LineNoRecognized: '\x7d' sem bloco ativo\n" := by
    simp only [reportText, String.append_assoc]
    rfl
  rw [htext]

end Source

/-- Attempts do not run. Where a closing brace of a source meets an open attempt or handler, the run
is stopped by it. Where it meets a final block, the attempt and the handler are empty, and the final
block runs alone. No line that a line of the source executes is a closing brace, and no fault is
ever caught. -/
theorem attempts_never_run (disk : Disk) (source : Source) (n : Nat) :
    (∀ banner before line rest s,
      Source.load disk source = .lines banner (before ++ line :: rest) →
      Source.runLines (.ofBound disk (n + 1)) 0 before (after (Source.opening banner) .initial) =
        .ok () s →
      Text.strip line = [Text.closeBrace] →
      (s.blocks.attempt.isOpen = true ∨ s.blocks.handler.isOpen = true →
        Source.run disk (.ofBound disk (n + 1)) source .initial =
          .ok () (Source.stoppedAt (before.length + 1) s)) ∧
      (s.blocks.final.isOpen = true →
        s.body s.blocks.attempt.body = #[] ∧ s.body s.blocks.handler.body = #[] ∧
          ∀ m bound, Execution.runAttempt m (bound + 1) s =
            (do Execution.runIfAny m (bound + 1) s.blocks.final.body
                Execution.resetAttempt : Exec Unit) s)) ∧
    Throughout disk (fun e t => ¬e.Closes ∧ t.faultCount = 0)
      (fun m => Source.run disk (.next disk m n) source) .initial ∧
    (after (Source.run disk (.ofBound disk (n + 1)) source) .initial).faultCount = 0 := by
  have hinitial := State.isUnattempted_initial
  refine ⟨?_, ?_, Source.faultCount_run source hinitial⟩
  · intro banner before line rest s hload hbefore hbrace
    obtain ⟨t, hopening, ht⟩ := Source.opening_unattempted banner hinitial
    rw [after, hopening] at hbefore
    have hs := (Source.runLines_unattempted disk n n 0 before ht).2 s hbefore
    constructor
    · intro hopen
      rw [Source.run_eq hload, bind_of_ok hopening]
      exact Source.runAll_of_attempt disk n n ht hbefore hbrace hopen
    · intro hfinal
      obtain ⟨hattempt, hhandler⟩ := Blocks.closed_of_final hs.1.openCount_le hfinal
      have hempty : s.body s.blocks.attempt.body = #[] := hs.2.attempt_empty hattempt
      refine ⟨hempty, hs.2.handler_empty hhandler, fun m bound => ?_⟩
      rw [Execution.runAttempt_eq]
      exact bind_eq_of_eq (Execution.runParts_of_empty hempty hs.1.unlimited bound) _
  · refine .of_keeping_below (Comparison.goesOver_unattempted disk) (fun e t he ht => ?_)
      fun k m hm => Source.run_eq_of_unattempted hm source hinitial
    refine ⟨?_, ht.2.faultCount_eq⟩
    cases e with
    | line source self => exact he.1
    | eval source locals self => exact id
    | call lines own self => exact id

/-- An attempt that would fail, up to its closing brace. -/
def openAttempt : List Text := ["Try \x7b".toList, "print|[x]".toList]

def beforeAttemptCloses : State :=
  after (Source.runLines (.ofBound .empty 3) 0 openAttempt)
    (after (Source.opening (some "--- TyrtLang: Executando código em string ---")) .initial)

theorem attempts_never_run_undefined :
    beforeAttemptCloses.blocks.attempt.isOpen = true ∧
      Source.run .empty (.ofBound .empty 3) (.text "Try \x7b\nprint|[x]\n\x7d\nprint|[1]")
          .initial =
        .ok () (Source.stoppedAt 3 beforeAttemptCloses) := by
  have hopen : beforeAttemptCloses.blocks.attempt.isOpen = true := by decide +kernel
  have hlines : halt? (Source.runLines (.ofBound .empty 3) 0 openAttempt)
      (after (Source.opening (some "--- TyrtLang: Executando código em string ---")) .initial) =
        none := by
    decide +kernel
  have hpath : Source.isPath "Try \x7b\nprint|[x]\n\x7d\nprint|[1]" = false := by decide +kernel
  have hsplit : Text.splitAll '\n' "Try \x7b\nprint|[x]\n\x7d\nprint|[1]" =
      openAttempt ++ [Text.closeBrace] :: ["print|[1]".toList] := by
    decide +kernel
  have hload : Source.load .empty (.text "Try \x7b\nprint|[x]\n\x7d\nprint|[1]") = _ :=
    Source.load_text hpath
  rw [hsplit] at hload
  exact ⟨hopen, ((attempts_never_run .empty _ 2).1 _ openAttempt _ _ _ hload (eq_ok_of_halt? hlines)
    (by decide +kernel)).1 (.inl hopen)⟩

end LineScript
