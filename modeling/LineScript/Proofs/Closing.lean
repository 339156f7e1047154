import LineScript.Proofs.Capture

namespace LineScript

open Exec

namespace Execution

/-- What a closing brace runs while its block is open. -/
def runOpen (m : Machine) (bound : Nat) (blocks : Blocks BodyId) : Exec Unit :=
  if blocks.classDef.isOpen || blocks.function.isOpen then pure ()
  else if blocks.final.isOpen then runParts m bound
  else if blocks.forLoop.isOpen then do
    let first ← ofExcept (boundOf blocks.forLoop.first)
    let last ← ofExcept (boundOf blocks.forLoop.last)
    forRounds m bound bound first last
  else if blocks.whileLoop.isOpen then whileRounds m bound blocks.whileLoop.body bound
  else if blocks.branch.isOpen && blocks.branch.isActive then do
    let _ ← runBody m bound blocks.branch.body
    pure ()
  else pure ()

/-- What a closing brace does after its block has run. -/
def leave (blocks : Blocks BodyId) : Exec Unit :=
  if blocks.classDef.isOpen then closeClass
  else if blocks.function.isOpen then closeFunction
  else if blocks.final.isOpen then do
    resetAttempt
    modifyBlocks fun b => { b with final.isOpen := false }
  else if blocks.forLoop.isOpen then do
    let fresh ← newBody []
    modifyBlocks fun b => { b with forLoop.body := fresh }
    modifyBlocks fun b => { b with forLoop.isOpen := false }
  else if blocks.whileLoop.isOpen then do
    let fresh ← newBody []
    modifyBlocks fun b => { b with whileLoop.condition := none, whileLoop.body := fresh }
    modifyBlocks fun b => { b with whileLoop.isOpen := false }
  else if blocks.branch.isOpen then do
    let fresh ← newBody []
    modifyBlocks fun b => { b with branch.isActive := false, branch.body := fresh }
    modifyBlocks fun b => { b with branch.isOpen := false }
  else do
    modifyBlocks fun b => { b with handler.isOpen := false, attempt.isOpen := false }
    fail .strayBrace

variable {m : Machine} {bound : Nat} {s : State}

theorem modifyBlocks_of_eq {change : Blocks BodyId → Blocks BodyId}
    (h : change s.blocks = s.blocks) (x : Exec Unit) :
    (do modifyBlocks change; x : Exec Unit) s = x s := by
  change x { s with blocks := change s.blocks } = x s
  rw [h]

theorem closeAttempt_of_closed {blocks : Blocks BodyId} (hattempt : blocks.attempt.isOpen = false)
    (hhandler : blocks.handler.isOpen = false) :
    { blocks with handler.isOpen := false, attempt.isOpen := false } = blocks := by
  obtain ⟨branch, forLoop, whileLoop, function, classDef, ⟨_, _⟩, ⟨_, _, _⟩, final⟩ := blocks
  cases hattempt
  cases hhandler
  rfl

theorem close_eq_of_running (hone : s.blocks.openCount ≤ 1)
    (hclass : s.blocks.classDef.isOpen = false) (hfunction : s.blocks.function.isOpen = false)
    (hfinal : s.blocks.final.isOpen = false) :
    close m bound s = (do runOpen m bound s.blocks; leave s.blocks : Exec Unit) s := by
  rw [close_of_running hclass hfunction hfinal, closeRunning, runOpen, leave, hclass, hfunction,
    hfinal]
  -- Where a loop or a branch is open, an attempt and its handler are not.
  rw [Blocks.openCount_eq] at hone
  have hclosed (h : 0 < s.blocks.forLoop.isOpen.toNat + s.blocks.whileLoop.isOpen.toNat +
      s.blocks.branch.isOpen.toNat) :
      { s.blocks with handler.isOpen := false, attempt.isOpen := false } = s.blocks :=
    closeAttempt_of_closed (Bool.toNat_eq_zero.mp (by omega)) (Bool.toNat_eq_zero.mp (by omega))
  simp only [Bool.or_self, Bool.false_eq_true, if_false]
  split
  · rename_i hfor
    rw [modifyBlocks_of_eq (hclosed (by rw [hfor, Bool.toNat_true]; omega))]
    simp only [runFor, bind_assoc]
    rfl
  split
  · rename_i hwhile
    rw [modifyBlocks_of_eq (hclosed (by rw [hwhile, Bool.toNat_true]; omega))]
    simp only [runWhile, bind_assoc]
    rfl
  cases hbranch : s.blocks.branch.isOpen with
  | true =>
      rw [modifyBlocks_of_eq (hclosed (by rw [hbranch, Bool.toNat_true]; omega))]
      simp only [runBranch, if_true, bind_assoc, Bool.true_and]
      change ((if s.blocks.branch.isActive = true then _ else _) >>= fun _ => _ : Exec Unit) s = _
      split
      · simp only [bind_assoc, pure_bind]
      · simp only [bind_assoc, pure_bind]
  | false => rfl

theorem close_eq (hone : s.blocks.openCount ≤ 1) :
    close m bound s = (do runOpen m bound s.blocks; leave s.blocks : Exec Unit) s := by
  cases hclass : s.blocks.classDef.isOpen with
  | true =>
      have hfunction := Blocks.not_class_and_function hone hclass
      rw [close_of_class hclass, runOpen, leave, hclass, hfunction]
      rfl
  | false =>
      cases hfunction : s.blocks.function.isOpen with
      | true =>
          rw [close_of_function hclass hfunction, runOpen, leave, hclass, hfunction]
          rfl
      | false =>
          cases hfinal : s.blocks.final.isOpen with
          | true =>
              rw [close_of_final hclass hfunction hfinal, closeFinal, runAttempt_eq, bind_assoc,
                runOpen, leave, hclass, hfunction, hfinal]
              rfl
          | false => exact close_eq_of_running hone hclass hfunction hfinal

theorem close_of_none (hnone : s.blocks.openCount = 0) :
    close m bound s = .error (.fault .strayBrace) s := by
  have hflags := hnone
  simp only [Blocks.openCount_eq, Nat.add_eq_zero_iff, Bool.toNat_eq_zero] at hflags
  obtain ⟨⟨⟨⟨⟨⟨⟨hbranch, hfor⟩, hwhile⟩, hfunction⟩, hclass⟩, hattempt⟩, hhandler⟩, hfinal⟩ :=
    hflags
  rw [close_of_running hclass hfunction hfinal, closeRunning,
    modifyBlocks_of_eq (closeAttempt_of_closed hattempt hhandler), hfor, hwhile, hbranch]
  rfl

section

variable {blocks : Blocks BodyId} (hone : blocks.openCount ≤ 1)

include hone

theorem runOpen_of_final (hopen : blocks.final.isOpen = true) :
    runOpen m bound blocks = runParts m bound := by
  rw [Blocks.openCount_eq] at hone
  unfold runOpen
  grind [Bool.toNat_eq_zero]

theorem runOpen_of_forLoop (hopen : blocks.forLoop.isOpen = true) :
    runOpen m bound blocks = (do
      let first ← ofExcept (boundOf blocks.forLoop.first)
      let last ← ofExcept (boundOf blocks.forLoop.last)
      forRounds m bound bound first last) := by
  rw [Blocks.openCount_eq] at hone
  unfold runOpen
  grind [Bool.toNat_eq_zero]

theorem runOpen_of_whileLoop (hopen : blocks.whileLoop.isOpen = true) :
    runOpen m bound blocks = whileRounds m bound blocks.whileLoop.body bound := by
  rw [Blocks.openCount_eq] at hone
  unfold runOpen
  grind [Bool.toNat_eq_zero]

theorem runOpen_of_branch (hopen : blocks.branch.isOpen = true)
    (hactive : blocks.branch.isActive = true) :
    runOpen m bound blocks = (do
      let _ ← runBody m bound blocks.branch.body
      pure ()) := by
  rw [Blocks.openCount_eq] at hone
  unfold runOpen
  grind [Bool.toNat_eq_zero]

end

theorem failureOf_of_empty {m : Machine} {id : BodyId} (hempty : s.body id = #[])
    (hunlimited : s.allowance = none) (bound : Nat) :
    failureOf m (bound + 1) id s = .ok none s := by
  have hlines : runBodyFrom m id (bound + 1) 0 s = .ok .null s := by
    rw [runBodyFrom, get_bind, hempty]
    rfl
  have hbody : runBody m (bound + 1) id s = .ok .null s := by
    rw [runBody, bind_of_ok (spend_of_unlimited hunlimited)]
    exact rescue_of_ok hlines _
  exact rescue_of_ok (bind_of_ok hbody fun _ => pure none) _

theorem after_leave (blocks : Blocks BodyId) (s : State) :
    (after (leave blocks) s).output = s.output ∧ (after (leave blocks) s).vars = s.vars := by
  unfold leave
  repeat' split
  all_goals exact ⟨rfl, rfl⟩

end Execution

namespace Comparison

theorem KeptByBodies.runOpen {c : Comparison} (hc : c.KeptByBodies) {m m' : Machine}
    (hm : m.RunsAlike c m') {bound : Nat} {blocks : Blocks BodyId}
    (hfor : blocks.forLoop.isOpen = true → ∀ ⦃s t : State⦄ (i : Int), c.rel s t →
      c.rel { s with vars := s.vars.set s.blocks.forLoop.variableName (.int i) }
        { t with vars := t.vars.set t.blocks.forLoop.variableName (.int i) })
    {s t : State} (h : c.rel s t)
    (hfinal : blocks.final.isOpen = true →
      Matches c (Execution.runParts m bound s) (Execution.runParts m' bound t)) :
    Matches c (Execution.runOpen m bound blocks s) (Execution.runOpen m' bound blocks t) := by
  have hb : c.Bounds bound bound := .inl rfl
  unfold Execution.runOpen
  split
  · exact Alike.pure () h
  split
  · rename_i hopen
    exact hfinal hopen
  split
  · rename_i hopen
    have hrounds (first last : Int) := hc.forRounds hm (hfor hopen) hb hb first last
    exact ((Alike.ofExcept _).bind fun first => (Alike.ofExcept _).bind (hrounds first)) h
  split
  · exact hc.whileRounds hm hb _ hb h
  split
  · exact ((hc.runBody hm _ hb).bind fun _ => Alike.pure ()) h
  · exact Alike.pure () h

theorem KeptByRounds.runOpen {c : Comparison} (hc : c.KeptByRounds) {m m' : Machine}
    (hm : m.RunsAlike c m') {bound : Nat} {blocks : Blocks BodyId}
    (hfor : blocks.forLoop.isOpen = true → ∀ ⦃s t : State⦄ (i : Int), c.rel s t →
      c.rel { s with vars := s.vars.set s.blocks.forLoop.variableName (.int i) }
        { t with vars := t.vars.set t.blocks.forLoop.variableName (.int i) })
    (hfinal : blocks.final.isOpen = true → ∀ ⦃s t : State⦄ (value : Value), c.rel s t →
      c.rel { s with vars := s.vars.set s.blocks.handler.variableName value }
        { t with vars := t.vars.set t.blocks.handler.variableName value }) :
    Alike c (Execution.runOpen m bound blocks) (Execution.runOpen m' bound blocks) :=
  fun _ _ h => hc.toKeptByBodies.runOpen hm hfor h fun hopen =>
    hc.runParts hm (hfinal hopen) (.inl rfl) h

variable {before : State}

theorem confined_set (name : Blocks BodyId → Name)
    (hname : before.blocks.Binds (name before.blocks)) {s t : State} (value : Value)
    (h : (confined before).rel s t) :
    (confined before).rel { s with vars := s.vars.set (name s.blocks) value }
      { t with vars := t.vars.set (name t.blocks) value } := by
  obtain ⟨rfl, hs⟩ := h
  refine ⟨rfl, hs.1, hs.2.1, ?_⟩
  -- The blocks are still those of the state before, so the name is the one that they bind.
  intro other hother
  have hne : other ≠ name s.blocks := by
    rintro rfl
    rw [hs.1.2.1] at hother
    exact hother hname
  change (s.vars.set (name s.blocks) value).get? other = _
  rw [Table.get?_set_of_ne hne]
  exact hs.2.2 other hother

theorem runOpen_confined {m : Machine} (hm : m.RunsAlike (confined before) m) (bound : Nat) :
    Alike (confined before) (Execution.runOpen m bound before.blocks)
      (Execution.runOpen m bound before.blocks) := by
  refine keptByRounds_confined.runOpen hm (fun hopen s t i h => ?_) fun hopen s t value h => ?_
  · exact confined_set (fun b => b.forLoop.variableName) (.inl ⟨hopen, rfl⟩) (.int i) h
  · exact confined_set (fun b => b.handler.variableName) (.inr ⟨hopen, rfl⟩) value h

theorem runOpen_capturing {m m' : Machine} (hm : m.RunsAlike (capturing before) m')
    (bound : Nat) :
    Alike (capturing before) (Execution.runOpen m bound before.blocks)
      (Execution.runOpen m' bound before.blocks) := by
  -- Nothing is said of the variables, so any of them may be written.
  have hc : (capturing before).KeptByRounds :=
    { keptByCalls_capturing.toKeptByBodies with
      faultCount := by rintro s _ n ⟨rfl, h⟩; exact ⟨rfl, h⟩ }
  refine hc.runOpen hm (fun _ s t i h => ?_) fun _ s t value h => ?_
  · obtain ⟨rfl, hs⟩ := h
    exact ⟨rfl, hs⟩
  · obtain ⟨rfl, hs⟩ := h
    exact ⟨rfl, hs⟩

end Comparison

/-- Where a block is open, a line is captured or closes it, and so does at most what closing it
does. -/
theorem Machine.isConfined_line {s : State} (horderly : s.IsOrderly fun _ => True) {id : BodyId}
    (hid : s.blocks.openBody? = some id) (disk : Disk) (n : Nat) (source : Text)
    (self : Option Address) : s.IsConfined (after ((ofBound disk n).line source self) s) := by
  have hconfined : s.IsConfined s := ⟨rfl, fun _ _ => rfl⟩
  cases n with
  | zero => exact hconfined
  | succ n =>
      change s.IsConfined (after (Execution.line _ n source self) s)
      rw [Execution.line_eq, after_eq_of_eq (bind_of_ok (spend_of_unlimited horderly.unlimited) _)]
      split
      · exact hconfined
      split
      · have hm := Comparison.runsAlike_confined hid disk n
        have hrun := ((Comparison.runOpen_confined hm n).eq_of_keeping
          ⟨⟨horderly, rfl, rfl⟩, hconfined⟩).2
        rw [after_eq_of_eq (Execution.close_eq horderly.openCount_le)]
        refine Exec.after_bind hrun.2 fun _ t ht => ?_
        obtain ⟨houtput, hvars⟩ := Execution.after_leave s.blocks t
        rw [State.IsConfined, houtput, hvars]
        exact ht
      · rw [after_eq_of_eq (Execution.capture_of_open hid _ _)]
        exact hconfined

/-- Where a block is open, a closing brace prints nothing and writes no variable but the one that
the block binds. Every line that it executes is captured and does nothing else. -/
theorem closing_brace_is_silent {s : State} (hs : Reachable (fun _ => True) s)
    (hopen : true ∈ s.blocks.flags) (disk : Disk) (self : Option Address) :
    (∀ n, s.IsConfined (after ((Machine.ofBound disk n).line [Text.closeBrace] self) s)) ∧
      ∀ bound, Throughout disk Event.IsCaptured
        (fun m => Execution.line m bound [Text.closeBrace] self) s := by
  have horderly := hs.isOrderly trivial
  have hbody : ∃ id, s.blocks.openBody? = some id := by
    apply Option.ne_none_iff_exists'.mp
    rw [Ne, Blocks.openBody?_eq_none_iff]
    exact Nat.ne_of_gt (List.count_pos_iff.mpr hopen)
  obtain ⟨id, hid⟩ := hbody
  have hcapturing : s.IsCapturing s := ⟨horderly, rfl, rfl⟩
  have hconfined : s.IsConfined s := ⟨rfl, fun _ _ => rfl⟩
  constructor
  · intro n
    cases n with
    | zero => exact hconfined
    | succ n =>
        have hm := Comparison.runsAlike_confined hid disk n
        have hrun := ((Comparison.runOpen_confined hm n).eq_of_keeping ⟨hcapturing, hconfined⟩).2
        change s.IsConfined (after (Execution.line _ n [Text.closeBrace] self) s)
        rw [after, Execution.line_closeBrace horderly.unlimited,
          Execution.close_eq horderly.openCount_le]
        refine Exec.after_bind hrun.2 fun _ t ht => ?_
        obtain ⟨houtput, hvars⟩ := Execution.after_leave s.blocks t
        rw [State.IsConfined, houtput, hvars]
        exact ht
  · intro bound
    refine .of_keeping (Comparison.goesOver_capturing hid disk)
      (fun e t he ht => ht.isCaptured hid he) fun m m' hm => ?_
    have hrun := ((Comparison.runOpen_capturing hm bound).eq_of_keeping hcapturing).1
    rw [Execution.line_closeBrace horderly.unlimited, Execution.line_closeBrace horderly.unlimited,
      Execution.close_eq horderly.openCount_le, Execution.close_eq horderly.openCount_le]
    exact Exec.bind_eq_of_eq hrun _

/-- A loop over two integers whose body calls a function that would print and assign. -/
def loopOverCall : State :=
  State.initial.afterLines .empty 8
    ["tyrt x = 1", "func f() \x7b", "print|[x]", "tyrt x = 2", "\x7d", "entr_i i ty 1:2 \x7b",
      "return_object f()"]

theorem closing_brace_is_silent_loop :
    true ∈ loopOverCall.blocks.flags ∧
      finishes ((Machine.ofBound .empty 8).line [Text.closeBrace] none) loopOverCall = true ∧
      loopOverCall.IsConfined
        (after ((Machine.ofBound .empty 8).line [Text.closeBrace] none) loopOverCall) :=
  ⟨by decide +kernel, by decide +kernel,
    (closing_brace_is_silent (.afterLines .initial trivial (by decide +kernel)) (by decide +kernel)
      .empty none).1 8⟩

end LineScript
