import LineScript.Proofs.FailedLine

/-!
Two variants of one body. Where states differ in one body only, they stay so as long as that body is
not run, whatever is executed: it is run by a loop, or, if the loop is open, it grows.
-/

namespace LineScript

open Exec

/-- Two stores of bodies are the same but for one body, and both variants of that one start with the
given lines. -/
structure Variants (id : BodyId) (lead : List Text) (bodies others : Array (Array Text)) :
    Prop where
  size_eq : bodies.size = others.size
  lt_size : id < bodies.size
  same : ∀ j, j ≠ id → bodies[j]? = others[j]?
  lead_left : lead <+: (bodies[id]?.getD #[]).toList
  lead_right : lead <+: (others[id]?.getD #[]).toList

theorem prefix_push {lead : List Text} {bodies : Array (Array Text)} {id : BodyId}
    (h : lead <+: (bodies[id]?.getD #[]).toList) :
    lead <+: ((bodies.push #[])[id]?.getD #[]).toList := by
  rw [Array.getElem?_push]
  split
  · rename_i hid
    rwa [hid, Array.getElem?_eq_none (Nat.le_refl _)] at h
  · exact h

theorem prefix_appendLine {lead : List Text} {bodies : Array (Array Text)} {id : BodyId}
    (h : lead <+: (bodies[id]?.getD #[]).toList) (j : BodyId) (line : Text) :
    lead <+: ((bodies.modify j (·.push line))[id]?.getD #[]).toList := by
  rw [Array.getElem?_modify]
  split
  · cases hbody : bodies[id]? with
    | none => rwa [hbody] at h
    | some body =>
        rw [hbody] at h
        rw [Option.map_some, Option.getD_some, Array.toList_push]
        exact h.trans (List.prefix_append _ _)
  · exact h

namespace Variants

variable {id : BodyId} {lead : List Text} {bodies others : Array (Array Text)}
  (h : Variants id lead bodies others)

include h

theorem push : Variants id lead (bodies.push #[]) (others.push #[]) where
  size_eq := by rw [Array.size_push, Array.size_push, h.size_eq]
  lt_size := by
    rw [Array.size_push]
    exact Nat.lt_succ_of_lt h.lt_size
  same j hj := by rw [Array.getElem?_push, Array.getElem?_push, h.size_eq, h.same j hj]
  lead_left := prefix_push h.lead_left
  lead_right := prefix_push h.lead_right

theorem appendLine (j : BodyId) (line : Text) :
    Variants id lead (bodies.modify j (·.push line)) (others.modify j (·.push line)) where
  size_eq := by rw [Array.size_modify, Array.size_modify, h.size_eq]
  lt_size := by
    rw [Array.size_modify]
    exact h.lt_size
  same i hi := by rw [Array.getElem?_modify, Array.getElem?_modify, h.same i hi]
  lead_left := prefix_appendLine h.lead_left j line
  lead_right := prefix_appendLine h.lead_right j line

theorem size_ne : bodies.size ≠ id := Nat.ne_of_gt h.lt_size

end Variants

/-- No block but a loop has the given body, and where they are told so, the loops do not have it
either. -/
structure Blocks.Apart (id : BodyId) (notFor notWhile : Prop) (blocks : Blocks BodyId) : Prop where
  branch : blocks.branch.body ≠ id
  function : blocks.function.body ≠ id
  attempt : blocks.attempt.body ≠ id
  handler : blocks.handler.body ≠ id
  final : blocks.final.body ≠ id
  forLoop : notFor → blocks.forLoop.body ≠ id
  whileLoop : notWhile → blocks.whileLoop.body ≠ id

theorem State.everyRoutine_true (s : State) : s.EveryRoutine fun _ => True := by
  constructor <;> (intros; trivial)

/-- What may be known of the blocks and of two stores. -/
abbrev Circumstance := Blocks BodyId → Array (Array Text) → Array (Array Text) → Prop

/-- What is known stays so wherever a body is not run. Blocks other than loops change freely, as
long as they do not get that body; loops are opened with another body. -/
structure Circumstance.Kept (known : Circumstance) (id : BodyId) : Prop where
  apart {b : Blocks BodyId} {s t : Array (Array Text)} : known b s t → b.Apart id False False
  push {b : Blocks BodyId} {s t : Array (Array Text)} : known b s t →
    known b (s.push #[]) (t.push #[])
  append {b : Blocks BodyId} {s t : Array (Array Text)} {j : BodyId} (line : Text) :
    known b s t → b.openBody? = some j →
    known b (s.modify j (·.push line)) (t.modify j (·.push line))
  change {b b' : Blocks BodyId} {s t : Array (Array Text)} : known b s t →
    b'.Apart id False False → b'.forLoop = b.forLoop → b'.whileLoop = b.whileLoop → known b' s t
  openFor {b : Blocks BodyId} {s t : Array (Array Text)} {loop : ForBlock BodyId} : known b s t →
    b.openCount = 0 → loop.body ≠ id → known { b with forLoop := loop } s t
  openWhile {b : Blocks BodyId} {s t : Array (Array Text)} {loop : WhileBlock BodyId} :
    known b s t → b.openCount = 0 → loop.body ≠ id → known { b with whileLoop := loop } s t

namespace Comparison

/-- The second state has another variant of one body. The lines of routines are restricted, and
nothing is counted. -/
def variants (id : BodyId) (lead : List Text) (known : Circumstance) (lines : Text → Prop) :
    Comparison where
  rel s t :=
    (∃ bodies, t = { s with bodies } ∧ Variants id lead s.bodies bodies ∧
      known s.blocks s.bodies bodies) ∧
    s.EveryRoutine lines ∧ s.allowance = none
  lines := lines

section

variable {id : BodyId} {lead : List Text} {known : Circumstance} {lines : Text → Prop}

theorem keptByStatements_variants : (variants id lead known lines).KeptByStatements where
  heap := by rintro s _ ⟨⟨_, rfl, _⟩, _⟩; rfl
  lists := by rintro s _ items - ⟨⟨bodies, rfl, h⟩, hs⟩; exact ⟨⟨bodies, rfl, h⟩, hs⟩
  dicts := by rintro s _ entries - ⟨⟨bodies, rfl, h⟩, hs⟩; exact ⟨⟨bodies, rfl, h⟩, hs⟩
  functions := by rintro s _ ⟨⟨_, rfl, _⟩, _⟩; rfl
  classes := by rintro s _ ⟨⟨_, rfl, _⟩, _⟩; rfl
  object := by
    rintro s _ s' _ name methods ⟨⟨_, rfl, _⟩, hs⟩ hclass ⟨⟨bodies, rfl, h⟩, hroutines, hfree⟩
    have hlines := hs.1.class_lines _ (Table.mem_of_get? hclass)
    exact ⟨⟨bodies, rfl, h⟩, hroutines.pushObject hlines, hfree⟩
  routine := by
    rintro s _ name routine ⟨⟨_, rfl, _⟩, hs⟩ hroutine
    exact hs.1.of_function hroutine
  method := by
    rintro s _ address name routine ⟨⟨_, rfl, _⟩, hs⟩ hroutine
    exact ⟨trivial, hs.1.of_method hroutine⟩
  self_none := trivial
  vars_eq := by rintro s _ ⟨⟨_, rfl, _⟩, _⟩; rfl
  consts_eq := by rintro s _ ⟨⟨_, rfl, _⟩, _⟩; rfl
  allowance_eq := by rintro s _ ⟨⟨_, rfl, _⟩, _⟩; rfl
  spent := by
    rintro s _ n ⟨⟨_, rfl, _⟩, hs⟩ hspent
    rw [hs.2] at hspent
    cases hspent
  vars := by rintro s _ own ⟨⟨bodies, rfl, h⟩, hs⟩; exact ⟨⟨bodies, rfl, h⟩, hs⟩
  output := by rintro s _ o ⟨⟨bodies, rfl, h⟩, hs⟩; exact ⟨⟨bodies, rfl, h⟩, hs⟩
  field := by
    rintro s _ address field value ⟨⟨bodies, rfl, h⟩, hroutines, hfree⟩ _
    exact .ok () ⟨⟨bodies, rfl, h⟩, hroutines.setField address field value, hfree⟩

theorem variants_blocks_eq ⦃s t : State⦄ (h : (variants id lead known lines).rel s t) :
    s.blocks = t.blocks := by
  obtain ⟨⟨bodies, rfl, -⟩, -⟩ := h
  rfl

theorem spend_variants : Alike (variants id lead known lines) spend spend :=
  alike_spend keptByStatements_variants.allowance_eq keptByStatements_variants.spent

theorem startRound_variants ⦃s t : State⦄ (i : Int) (h : (variants id lead known lines).rel s t) :
    (variants id lead known lines).rel (s.startRound i) (t.startRound i) := by
  obtain ⟨⟨bodies, rfl, h⟩, hs⟩ := h
  exact ⟨⟨bodies, rfl, h⟩, hs⟩

theorem body_variants {j : BodyId} (hj : j ≠ id) ⦃s t : State⦄
    (h : (variants id lead known lines).rel s t) : s.body j = t.body j := by
  obtain ⟨⟨bodies, rfl, h, -⟩, -⟩ := h
  rw [State.body, State.body, h.same j hj]

end

/-- The second state has another variant of one body, and nothing is counted. -/
abbrev beside (id : BodyId) (lead : List Text) (known : Circumstance) : Comparison :=
  variants id lead known fun _ => True

theorem beside_of_variants {id : BodyId} {lead : List Text} {known weaker : Circumstance}
    {lines : Text → Prop} (hweak : ∀ ⦃b s t⦄, known b s t → weaker b s t) ⦃s t : State⦄
    (h : (variants id lead known lines).rel s t) : (beside id lead weaker).rel s t := by
  obtain ⟨⟨bodies, rfl, hbodies, hk⟩, hs⟩ := h
  exact ⟨⟨bodies, rfl, hbodies, hweak hk⟩, State.everyRoutine_true _, hs.2⟩

/-!
What lines do to the blocks and the bodies.
-/

section

variable {id : BodyId} {lead : List Text} {known : Circumstance}

theorem modifyBlocks_beside (change : Blocks BodyId → Blocks BodyId)
    (hchange : ∀ ⦃b s t⦄, known b s t → known (change b) s t) :
    Alike (beside id lead known) (modifyBlocks change) (modifyBlocks change) := by
  apply Alike.modify
  rintro s _ ⟨⟨bodies, rfl, hbodies, hk⟩, hs⟩
  exact ⟨⟨bodies, rfl, hbodies, hchange hk⟩, hs⟩

variable (hknown : known.Kept id)

include hknown

theorem openWith_beside {change : BodyId → Blocks BodyId → Blocks BodyId} {s t : State}
    (h : (beside id lead known).rel s t)
    (hchange : ∀ fresh others, fresh ≠ id → known s.blocks s.bodies others →
      known (change fresh s.blocks) s.bodies others) :
    Matches (beside id lead known)
      ((do let fresh ← newBody []; modifyBlocks (change fresh) : Exec Unit) s)
      ((do let fresh ← newBody []; modifyBlocks (change fresh) : Exec Unit) t) := by
  obtain ⟨⟨bodies, rfl, hbodies, hk⟩, hs⟩ := h
  change Matches _
    (.ok () { s with bodies := s.bodies.push #[], blocks := change s.bodies.size s.blocks })
    (.ok () { s with bodies := bodies.push #[], blocks := change bodies.size s.blocks })
  rw [← hbodies.size_eq]
  exact .ok () ⟨⟨_, rfl, hbodies.push, hknown.push (hchange _ _ hbodies.size_ne hk)⟩, hs⟩

theorem resetAttempt_beside :
    Alike (beside id lead known) Execution.resetAttempt Execution.resetAttempt := by
  rintro s _ ⟨⟨bodies, rfl, hbodies, hk⟩, hs⟩
  have hattempt := hbodies.push
  have hhandler := hattempt.push
  have hreset : known
      { s.blocks with
        attempt.body := s.bodies.size
        handler.body := (s.bodies.push #[]).size
        final.body := ((s.bodies.push #[]).push #[]).size } s.bodies bodies :=
    hknown.change hk
      { hknown.apart hk with
        attempt := hbodies.size_ne
        handler := hattempt.size_ne
        final := hhandler.size_ne } rfl rfl
  have hpushed := hknown.push (hknown.push (hknown.push hreset))
  rw [hbodies.size_eq, hattempt.size_eq, hhandler.size_eq] at hpushed
  change Matches _
    (.ok () { s with
      bodies := ((s.bodies.push #[]).push #[]).push #[]
      blocks :=
        { s.blocks with
          attempt.body := s.bodies.size
          handler.body := (s.bodies.push #[]).size
          final.body := ((s.bodies.push #[]).push #[]).size } })
    (.ok () { s with
      bodies := ((bodies.push #[]).push #[]).push #[]
      blocks :=
        { s.blocks with
          attempt.body := bodies.size
          handler.body := (bodies.push #[]).size
          final.body := ((bodies.push #[]).push #[]).size } })
  rw [hbodies.size_eq, hattempt.size_eq, hhandler.size_eq]
  exact .ok () ⟨⟨_, rfl, hhandler.push, hpushed⟩, hs⟩

theorem endFunction_beside :
    Alike (beside id lead known) Execution.endFunction Execution.endFunction := by
  intro s t h
  refine openWith_beside hknown h fun fresh others hfresh hk => ?_
  exact hknown.change hk { hknown.apart hk with function := hfresh } rfl rfl

theorem pendingRoutine_beside ⦃s t : State⦄ (h : (beside id lead known).rel s t) :
    Execution.pendingRoutine s = Execution.pendingRoutine t := by
  obtain ⟨bodies, -, -, hk⟩ := h.1
  have hbody := body_variants (hknown.apart hk).function h
  rw [Execution.pendingRoutine, Execution.pendingRoutine, hbody, variants_blocks_eq h]

theorem closeMethod_beside :
    Alike (beside id lead known) Execution.closeMethod Execution.closeMethod := by
  refine Alike.get fun s t h => ?_
  rw [pendingRoutine_beside hknown h]
  refine (modifyBlocks_beside _ fun b _ _ hk => ?_).bind fun _ => endFunction_beside hknown
  exact hknown.change hk { hknown.apart hk with } rfl rfl

theorem closeFunction_beside :
    Alike (beside id lead known) Execution.closeFunction Execution.closeFunction := by
  refine Alike.get fun s t h => ?_
  rw [pendingRoutine_beside hknown h]
  refine Alike.bind (Alike.modify ?_) fun _ => endFunction_beside hknown
  rintro u _ ⟨⟨bodies, rfl, hu⟩, hs⟩
  exact ⟨⟨bodies, rfl, hu⟩, State.everyRoutine_true _, hs.2⟩

theorem closeClass_beside :
    Alike (beside id lead known) Execution.closeClass Execution.closeClass := by
  apply Alike.modify
  rintro s _ ⟨⟨bodies, rfl, hbodies, hk⟩, hs⟩
  refine ⟨⟨bodies, rfl, hbodies, ?_⟩, State.everyRoutine_true _, hs.2⟩
  exact hknown.change hk { hknown.apart hk with } rfl rfl

variable {m m' : Machine} (hm : m.RunsAlike (beside id lead known) m')

include hm

omit hknown in
theorem runsBody_beside {j : BodyId} (hj : j ≠ id) (bound : Nat) :
    (beside id lead known).RunsBodyAlike m m' bound bound j where
  body_eq := body_variants hj
  run := by
    refine spend_variants.bind fun _ => Alike.leavingBlock ?_
    exact keptByStatements_variants.runBodyFrom hm (body_variants hj) (fun _ _ _ _ _ => trivial)
      (.inl rfl) 0

theorem runAttempt_beside (bound : Nat) :
    Alike (beside id lead known) (Execution.runAttempt m bound)
      (Execution.runAttempt m' bound) := by
  have happart ⦃s t : State⦄ (h : (beside id lead known).rel s t) :
      s.blocks.Apart id False False := by
    obtain ⟨bodies, -, -, hk⟩ := h.1
    exact hknown.apart hk
  rw [Execution.runAttempt_eq, Execution.runAttempt_eq]
  refine (alike_runParts variants_blocks_eq ?_ ?_ ?_ ?_).bind fun _ => resetAttempt_beside hknown
  · rintro cause s _ ⟨⟨bodies, rfl, h⟩, hs⟩
    exact .ok () ⟨⟨bodies, rfl, h⟩, hs⟩
  · intro s t h
    exact runsBody_beside hm (happart h).attempt bound
  · intro s t h
    exact runsBody_beside hm (happart h).handler bound
  · intro s t h
    exact runsBody_beside hm (happart h).final bound

theorem closeFinal_beside (bound : Nat) :
    Alike (beside id lead known) (Execution.closeFinal m bound)
      (Execution.closeFinal m' bound) := by
  refine (runAttempt_beside hknown hm bound).bind fun _ => modifyBlocks_beside _ fun b _ _ hk => ?_
  exact hknown.change hk { hknown.apart hk with } rfl rfl

theorem runBranch_beside (bound : Nat) :
    Alike (beside id lead known) (Execution.runBranch m bound) (Execution.runBranch m' bound) := by
  have hreset : Alike (beside id lead known)
      (do let fresh ← newBody []
          modifyBlocks fun b => { b with branch.isActive := false, branch.body := fresh })
      (do let fresh ← newBody []
          modifyBlocks fun b => { b with branch.isActive := false, branch.body := fresh }) := by
    intro s t h
    refine openWith_beside hknown h fun fresh others hfresh hk => ?_
    exact hknown.change hk { hknown.apart hk with branch := hfresh } rfl rfl
  refine Alike.get fun s t h => ?_
  obtain ⟨bodies, -, -, hk⟩ := h.1
  rw [← variants_blocks_eq h]
  dsimp only
  split
  · exact (runsBody_beside hm (hknown.apart hk).branch bound).run.bind fun _ => hreset
  · exact hreset

variable {bound : Nat}
  (hfor : ∀ ⦃s t : State⦄, (beside id lead known).rel s t → s.blocks.classDef.isOpen = false →
    s.blocks.function.isOpen = false → s.blocks.final.isOpen = false →
    s.blocks.forLoop.isOpen = true →
    Matches (beside id lead known)
      ((do
        Execution.runFor m bound
        modifyBlocks fun b => { b with forLoop.isOpen := false } : Exec Unit) s)
      ((do
        Execution.runFor m' bound
        modifyBlocks fun b => { b with forLoop.isOpen := false } : Exec Unit) t))
  (hwhile : ∀ ⦃s t : State⦄, (beside id lead known).rel s t → s.blocks.forLoop.isOpen = false →
    s.blocks.whileLoop.isOpen = true →
    Matches (beside id lead known)
      ((do
        Execution.runWhile m bound
        modifyBlocks fun b => { b with whileLoop.isOpen := false } : Exec Unit) s)
      ((do
        Execution.runWhile m' bound
        modifyBlocks fun b => { b with whileLoop.isOpen := false } : Exec Unit) t))

include hfor hwhile

theorem closeRunning_beside ⦃s t : State⦄ (h : (beside id lead known).rel s t)
    (hclass : s.blocks.classDef.isOpen = false) (hfunction : s.blocks.function.isOpen = false)
    (hfinal : s.blocks.final.isOpen = false) :
    Matches (beside id lead known) (Execution.closeRunning m bound s.blocks s)
      (Execution.closeRunning m' bound s.blocks t) := by
  have hattempt : Alike (beside id lead known)
      (modifyBlocks fun b => { b with handler.isOpen := false, attempt.isOpen := false })
      (modifyBlocks fun b => { b with handler.isOpen := false, attempt.isOpen := false }) :=
    modifyBlocks_beside _ fun b _ _ hk => hknown.change hk { hknown.apart hk with } rfl rfl
  refine (hattempt h).bind_of_ok ?_
  rintro _ u u' hok hu
  cases hok
  split
  · rename_i hopen
    exact hfor hu hclass hfunction hfinal hopen
  split
  · rename_i hclosed hopen
    exact hwhile hu (Bool.not_eq_true _ ▸ hclosed) hopen
  split
  · have hbranch := (runBranch_beside hknown hm bound).bind fun _ =>
      modifyBlocks_beside (fun b => { b with branch.isOpen := false }) fun b _ _ hk =>
        hknown.change hk { hknown.apart hk with } rfl rfl
    exact hbranch hu
  · exact .error _ hu

theorem close_beside :
    Alike (beside id lead known) (Execution.close m bound) (Execution.close m' bound) :=
  alike_close variants_blocks_eq (fun _ _ h _ _ => closeMethod_beside hknown h)
    (fun _ _ h _ => closeClass_beside hknown h) (fun _ _ h _ => closeFunction_beside hknown h)
    (closeFinal_beside hknown hm bound) (closeRunning_beside hknown hm hfor hwhile)

omit hfor hwhile in
theorem perform_beside (line : Text) (self : Option Address) (statement : Statement) ⦃s t : State⦄
    (h : (beside id lead known).rel s t) (hnone : s.blocks.openCount = 0) :
    Matches (beside id lead known) (Execution.perform m line self statement s)
      (Execution.perform m' line self statement t) := by
  have hc : (beside id lead known).KeptByStatements := keptByStatements_variants
  cases statement with
  | openTry =>
      refine ((resetAttempt_beside hknown).bind fun _ => modifyBlocks_beside _ fun b _ _ hk => ?_) h
      exact hknown.change hk { hknown.apart hk with } rfl rfl
  | openHandler name =>
      refine openWith_beside hknown h fun fresh others hfresh hk => ?_
      exact hknown.change hk { hknown.apart hk with handler := hfresh } rfl rfl
  | openFinal =>
      refine openWith_beside hknown h fun fresh others hfresh hk => ?_
      exact hknown.change hk { hknown.apart hk with final := hfresh } rfl rfl
  | openFor name first last =>
      refine openWith_beside hknown h fun fresh others hfresh hk => ?_
      exact hknown.openFor hk hnone hfresh
  | openWhile condition =>
      refine openWith_beside hknown h fun fresh others hfresh hk => ?_
      exact hknown.openWhile hk hnone hfresh
  | openBranch condition =>
      have hopen : Matches (beside id lead known)
          ((do
            let fresh ← newBody []
            modifyBlocks fun b => { b with branch.isOpen := true, branch.body := fresh } :
              Exec Unit) s)
          ((do
            let fresh ← newBody []
            modifyBlocks fun b => { b with branch.isOpen := true, branch.body := fresh } :
              Exec Unit) t) := by
        refine openWith_beside hknown h fun fresh others hfresh hk => ?_
        exact hknown.change hk { hknown.apart hk with branch := hfresh } rfl rfl
      have hall := hopen.bind fun _ =>
        (hc.condition hm.toEvaluatesAlike condition).bind fun isActive =>
          modifyBlocks_beside (fun b => { b with branch.isActive := isActive })
            fun b _ _ hk => hknown.change hk { hknown.apart hk with } rfl rfl
      rwa [bind_assoc, bind_assoc] at hall
  | openClass name =>
      rw [Execution.perform, Execution.perform]
      refine modifyBlocks_beside _ (fun b _ _ hk => ?_) h
      exact hknown.change hk { hknown.apart hk with } rfl rfl
  | openFunction name params =>
      refine openWith_beside hknown h fun fresh others hfresh hk => ?_
      exact hknown.change hk { hknown.apart hk with function := hfresh } rfl rfl
  | _ => exact hc.perform hm.toEvaluatesAlike line trivial rfl h

theorem line_beside (source : Text) (self : Option Address) :
    Alike (beside id lead known) (Execution.line m bound source self)
      (Execution.line m' bound source self) := by
  refine alike_line spend_variants variants_blocks_eq
    (fun _ => close_beside hknown hm hfor hwhile) ?_ (perform_beside hknown hm _ self _)
  rintro s _ j ⟨⟨bodies, rfl, hbodies, hk⟩, hs⟩ hopen -
  exact .ok () ⟨⟨_, rfl, hbodies.appendLine j _, hknown.append _ hk hopen⟩, hs⟩

end

end Comparison

end LineScript
