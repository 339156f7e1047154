import LineScript.Proofs.Closing

/-!
Which block is open after a closing brace. A block that runs its lines is closed after they have
run, so a fault among them leaves it open, and the lines that follow are captured into it. An
attempt and its handler are closed first, and functions and classes run nothing.
-/

namespace LineScript

open Exec

namespace Blocks

theorem openCount_of_set {before after : Blocks BodyId} (hone : before.openCount = 1) (place : Nat)
    (hopen : before.flags[place]? = some true)
    (hflags : after.flags = before.flags.set place false) : after.openCount = 0 := by
  obtain ⟨hlt, hflag⟩ := List.getElem?_eq_some_iff.mp hopen
  rw [openCount] at hone ⊢
  rw [hflags, List.count_set hlt, hflag, hone]
  rfl

/-- The brace of an attempt or of its handler ends by a fault, but closes the block first. -/
def ClosesFirst (blocks : Blocks BodyId) : Prop :=
  blocks.attempt.isOpen = true ∨ blocks.handler.isOpen = true

end Blocks

namespace Execution

theorem openCount_leave {s : State} (hone : s.blocks.openCount = 1) :
    (after (leave s.blocks) s).blocks.openCount = 0 := by
  unfold leave
  -- A class, a function, the final block, the loops, a branch: each stands at a place of its own.
  split
  · rename_i hopen
    exact Blocks.openCount_of_set hone 4 (congrArg some hopen) rfl
  split
  · rename_i hopen
    exact Blocks.openCount_of_set hone 3 (congrArg some hopen) rfl
  split
  · rename_i hopen
    exact Blocks.openCount_of_set hone 7 (congrArg some hopen) rfl
  split
  · rename_i hopen
    exact Blocks.openCount_of_set hone 1 (congrArg some hopen) rfl
  split
  · rename_i hopen
    exact Blocks.openCount_of_set hone 2 (congrArg some hopen) rfl
  split
  · rename_i hopen
    exact Blocks.openCount_of_set hone 0 (congrArg some hopen) rfl
  · rename_i hclass hfunction hfinal hfor hwhile hbranch
    change Blocks.openCount { s.blocks with handler.isOpen := false, attempt.isOpen := false } = 0
    simp only [Blocks.openCount_eq, hclass, hfunction, hfinal, hfor, hwhile, hbranch,
      Bool.toNat_false]

theorem halt?_leave {s : State} (hone : s.blocks.openCount = 1)
    (hfirst : ¬s.blocks.ClosesFirst) : halt? (leave s.blocks) s = none := by
  obtain ⟨hattempt, hhandler⟩ := not_or.mp hfirst
  rw [Bool.not_eq_true] at hattempt hhandler
  unfold leave
  repeat' split
  all_goals try rfl
  -- Where none of these blocks is open, none is.
  rename_i hclass hfunction hfinal hfor hwhile hbranch
  simp [Blocks.openCount_eq, hclass, hfunction, hfinal, hfor, hwhile, hbranch, hattempt,
    hhandler] at hone

theorem runOpen_of_closesFirst {blocks : Blocks BodyId} (hone : blocks.openCount = 1)
    (hfirst : blocks.ClosesFirst) (m : Machine) (bound : Nat) :
    runOpen m bound blocks = pure () := by
  rw [Blocks.openCount_eq] at hone
  unfold runOpen
  rcases hfirst with hopen | hopen
  · rw [hopen, Bool.toNat_true] at hone
    grind [Bool.toNat_eq_zero]
  · rw [hopen, Bool.toNat_true] at hone
    grind [Bool.toNat_eq_zero]

theorem runOpen_of_definition {blocks : Blocks BodyId}
    (hopen : blocks.function.isOpen = true ∨ blocks.classDef.isOpen = true) (m : Machine)
    (bound : Nat) : runOpen m bound blocks = pure () := by
  unfold runOpen
  rcases hopen with hopen | hopen
  · rw [hopen, Bool.or_true]
    rfl
  · rw [hopen, Bool.true_or]
    rfl

theorem halt?_leave_of_definition {s : State}
    (hopen : s.blocks.function.isOpen = true ∨ s.blocks.classDef.isOpen = true) :
    halt? (leave s.blocks) s = none := by
  unfold leave
  split
  · rfl
  · rename_i hclass
    rw [if_pos (hopen.resolve_right hclass)]
    rfl

end Execution

theorem State.IsCapturing.line_eq {before s : State} (hs : before.IsCapturing s) {id : BodyId}
    (hid : before.blocks.openBody? = some id) (disk : Disk) (n : Nat) {line : Text}
    (hline : Statement.IsStored line) (self : Option Address) :
    (Machine.ofBound disk (n + 1)).line line self s = appendLine id line s := by
  have hopen : s.blocks.openBody? = some id := by rw [hs.2.1, hid]
  exact Execution.line_of_stored hline hopen hs.1.unlimited

theorem State.IsOrderly.isCapturing_runOpen {s : State} (h : s.IsOrderly fun _ => True)
    {id : BodyId} (hid : s.blocks.openBody? = some id) (disk : Disk) (n bound : Nat) :
    s.IsCapturing (after (Execution.runOpen (.ofBound disk n) bound s.blocks) s) := by
  have hm := Machine.ofBound_runsAlike_self (Comparison.goesOver_capturing hid disk) n
  exact ((Comparison.runOpen_capturing hm bound).eq_of_keeping ⟨h, rfl, rfl⟩).2

/-- Where one block is open and its closing brace comes to its end, no block is open afterwards if
the brace ends without a fault, as it does for a function and a class, or if the block is an attempt
or a handler. In all other cases the blocks are as before, and each line that follows is captured
into the block that was to be closed. -/
theorem closing_brace_closes_unless_run_fails {s t : State} (hs : Reachable (fun _ => True) s)
    (hone : s.blocks.openCount = 1) {disk : Disk} {n : Nat} {self : Option Address}
    (hfin : finishes ((Machine.ofBound disk n).line [Text.closeBrace] self) s = true)
    (ht : t = after ((Machine.ofBound disk n).line [Text.closeBrace] self) s) :
    (halt? ((Machine.ofBound disk n).line [Text.closeBrace] self) s = none ∨
        s.blocks.ClosesFirst → t.blocks.openCount = 0) ∧
      (s.blocks.function.isOpen = true ∨ s.blocks.classDef.isOpen = true →
        halt? ((Machine.ofBound disk n).line [Text.closeBrace] self) s = none) ∧
      (halt? ((Machine.ofBound disk n).line [Text.closeBrace] self) s ≠ none →
        ¬s.blocks.ClosesFirst →
        t.blocks = s.blocks ∧
          ∃ id, s.blocks.openBody? = some id ∧
            ∀ (disk : Disk) (k : Nat) (line : Text) (self : Option Address),
              Statement.IsStored line →
              (Machine.ofBound disk (k + 1)).line line self t = appendLine id line t) := by
  have horderly := hs.isOrderly trivial
  have hbody : s.blocks.openBody? ≠ none := by
    rw [Ne, Blocks.openBody?_eq_none_iff, hone]
    exact Nat.one_ne_zero
  obtain ⟨id, hid⟩ := Option.ne_none_iff_exists'.mp hbody
  cases n with
  | zero => exact absurd hfin Bool.false_ne_true
  | succ n =>
      have hcapturing := horderly.isCapturing_runOpen hid disk n n
      have hline : (Machine.ofBound disk (n + 1)).line [Text.closeBrace] self s =
          (do Execution.runOpen (.ofBound disk n) n s.blocks; Execution.leave s.blocks) s :=
        (Execution.line_closeBrace horderly.unlimited).trans
          (Execution.close_eq horderly.openCount_le)
      rw [after_eq_of_eq hline] at ht
      rw [halt?_eq_of_eq hline]
      cases hrun : Execution.runOpen (.ofBound disk n) n s.blocks s with
      | error halt u =>
          -- The fault comes before the block is left, so it is still open.
          rw [after, hrun] at hcapturing
          rw [after, bind_of_error hrun] at ht
          rw [halt?, bind_of_error hrun]
          subst ht
          refine ⟨?_, ?_, ?_⟩
          · rintro (hnone | hfirst)
            · cases hnone
            · rw [Execution.runOpen_of_closesFirst hone hfirst] at hrun
              cases hrun
          · intro hdefinition
            rw [Execution.runOpen_of_definition hdefinition] at hrun
            cases hrun
          · intro _ _
            refine ⟨hcapturing.2.1, id, hid, ?_⟩
            intro disk k line self hstored
            exact hcapturing.line_eq hid disk k hstored self
      | ok _ u =>
          rw [after, hrun] at hcapturing
          have hblocks : u.blocks = s.blocks := hcapturing.2.1
          rw [after, bind_of_ok hrun, ← after, ← hblocks] at ht
          rw [halt?, bind_of_ok hrun, ← halt?, ← hblocks]
          rw [← hblocks] at hone
          refine ⟨?_, ?_, ?_⟩
          · intro _
            rw [ht]
            exact Execution.openCount_leave hone
          · exact Execution.halt?_leave_of_definition
          · intro hfault hfirst
            exact absurd (Execution.halt?_leave hone hfirst) hfault

/-- A loop whose condition cannot be evaluated. -/
def loopOverUndefined : State := State.initial.afterLines .empty 8 ["/1 zz \x7b"]

theorem closing_brace_closes_unless_run_fails_condition :
    loopOverUndefined.blocks.openCount = 1 ∧
      finishes ((Machine.ofBound .empty 8).line [Text.closeBrace] none) loopOverUndefined = true ∧
      (after ((Machine.ofBound .empty 8).line [Text.closeBrace] none) loopOverUndefined).blocks =
        loopOverUndefined.blocks := by
  have hone : loopOverUndefined.blocks.openCount = 1 := by decide +kernel
  have hfin : finishes ((Machine.ofBound .empty 8).line [Text.closeBrace] none) loopOverUndefined =
    true := by decide +kernel
  have hclosing := closing_brace_closes_unless_run_fails
    (.afterLines .initial trivial (by decide +kernel)) hone hfin rfl
  have hblocks := hclosing.2.2 (by decide +kernel) (by unfold Blocks.ClosesFirst; decide +kernel)
  exact ⟨hone, hfin, hblocks.1⟩

/-- The closing brace of a loop fails, and the loop is still open: the line after it is not executed
but captured. -/
theorem block_left_open_by_failed_condition :
    Reachable (fun _ => True) loopOverUndefined ∧ loopOverUndefined.blocks.openCount = 1 ∧
      halt? ((Machine.ofBound .empty 8).line [Text.closeBrace] none) loopOverUndefined =
        some (.fault (.undefinedExpression "zz")) ∧
      (after ((Machine.ofBound .empty 8).line [Text.closeBrace] none)
        loopOverUndefined).blocks.flags =
          [false, false, true, false, false, false, false, false] ∧
      (State.initial.afterLines .empty 8 ["/1 zz \x7b", "\x7d", "print|[1]"]).output = "" :=
  ⟨.afterLines .initial trivial (by decide +kernel), by decide +kernel⟩

end LineScript
