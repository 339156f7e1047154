import LineScript.Source
import LineScript.Proofs.Comparison.Body

/-!
Comparisons that executions keep. From machines that are alike, the next ones are alike: with
this step, what two machines have in common is shown by induction on their bounds.
-/

namespace LineScript

open Exec

namespace Comparison

/-- A comparison that statements without blocks keep, whatever blocks there are: assignments,
printing and calls. -/
structure KeptByStatements (c : Comparison) : Prop extends c.KeptByRoutines where
  output {s t : State} (o : String) : c.rel s t →
    c.rel { s with output := s.output ++ o } { t with output := t.output ++ o }
  field {s t : State} {address : Address} (field : Text) (value : Value) : c.rel s t →
    c.selfs (some address) →
    Matches c (setField address field value s) (setField address field value t)

/-- A comparison that commands keep: assignments, printing and calls. -/
structure KeptByCommands (c : Comparison) : Prop extends c.KeptByCalls where
  output {s t : State} (o : String) : c.rel s t →
    c.rel { s with output := s.output ++ o } { t with output := t.output ++ o }
  field {s t : State} {address : Address} (field : Text) (value : Value) : c.rel s t →
    c.selfs (some address) →
    Matches c (setField address field value s) (setField address field value t)

/-- A comparison that the execution of lines keeps. Each field is a change that some line makes,
under what is known where it is made. -/
structure KeptByExecution (c : Comparison) : Prop extends c.KeptByCommands, c.KeptByRounds where
  body {s t : State} : c.rel s t →
    c.rel { s with bodies := s.bodies.push #[] } { t with bodies := t.bodies.push #[] }
  named {line : Text} : c.lines line → c.names (Statement.ofLine (Text.strip line)).binder
  blocks {s t : State} {blocks : Blocks BodyId} : c.rel s t → s.blocks.Moves blocks →
    (∀ name ∈ blocks.binders, name ∈ s.blocks.binders ∨ c.names name) →
    c.rel { s with blocks := blocks } { t with blocks := blocks }
  stored {s t : State} {id : BodyId} {line : Text} : c.rel s t →
    s.blocks.openBody? = some id → c.lines line → Statement.IsStored (Text.strip line) →
    Matches c (appendLine id (Text.strip line) s) (appendLine id (Text.strip line) t)
  function {s t : State} : c.rel s t → s.blocks.function.isOpen = true →
    Matches c (Execution.closeFunction s) (Execution.closeFunction t)
  classDef {s t : State} : c.rel s t → s.blocks.classDef.isOpen = true →
    Matches c (Execution.closeClass s) (Execution.closeClass t)
  classMethod {s t : State} : c.rel s t → s.blocks.classDef.isOpen = true →
    s.blocks.function.isOpen = true → Matches c (Execution.closeMethod s) (Execution.closeMethod t)

/-- A comparison that the run of a source keeps too: it numbers its lines. -/
structure KeptBySources (c : Comparison) : Prop extends c.KeptByExecution where
  lineNumber_eq {s t : State} : c.rel s t → s.lineNumber = t.lineNumber
  lineNumber {s t : State} (n : Nat) : c.rel s t →
    c.rel { s with lineNumber := n } { t with lineNumber := n }

theorem KeptByExpressions.assignElement {c : Comparison} (hc : c.KeptByExpressions)
    {m m' : Machine} (hm : m.EvaluatesAlike c m') (target : Text) (value : Value) :
    Alike c (Execution.assignElement m target value) (Execution.assignElement m' target value) := by
  unfold Execution.assignElement
  split
  · exact Alike.pure false
  · refine Alike.get fun s t h => ?_
    rw [hc.vars_eq h]
    split
    · exact Alike.fail _
    · refine (hm.eval _ [] none hc.self_none).bind fun index => ?_
      split
      · refine Alike.get fun s t h => ?_
        rw [hc.heap h]
        split
        · exact (hc.callMethod hm.call _ _ _).bind fun _ => Alike.pure true
        · exact Alike.pure false
      · exact (hc.writeItem _ index value).bind fun _ => Alike.pure true
      · exact (hc.writeEntry _ index value).bind fun _ => Alike.pure true
      · exact Alike.pure false

namespace KeptByEvaluation

variable {c : Comparison} {m m' : Machine} (hm : m.EvaluatesAlike c m')

include hm

theorem assignElement (hc : c.KeptByEvaluation) (target : Text) (value : Value) :
    Alike c (Execution.assignElement m target value) (Execution.assignElement m' target value) :=
  hc.keptByExpressions.assignElement hm target value

theorem callStatement (line : Text) {self : Option Address} (hself : c.selfs self) :
    Alike c (Execution.callStatement m line self) (Execution.callStatement m' line self) :=
  ((hm.eval line [] self hself).bind fun _ => Alike.pure ()).rescue fun _ => Alike.fail _

end KeptByEvaluation

namespace KeptByStatements

variable {c : Comparison} (hc : c.KeptByStatements)

include hc

theorem printLine (t : Text) : Alike c (printLine t) (printLine t) :=
  Alike.modify fun _ _ h => hc.output _ h

theorem setVariable (name : Name) (value : Value) :
    Alike c (setVariable name value) (setVariable name value) := by
  refine Alike.modify fun s t h => ?_
  rw [← hc.vars_eq h]
  exact hc.vars _ h

theorem assignVariable (target : Text) (value : Value) :
    Alike c (Execution.assignVariable target value) (Execution.assignVariable target value) := by
  refine Alike.get fun s t h => ?_
  rw [hc.consts_eq h]
  split
  · exact Alike.fail _
  · exact hc.setVariable _ value

variable {m m' : Machine} (hm : m.EvaluatesAlike c m')

include hm

theorem assign (target source : Text) {self : Option Address} (hself : c.selfs self) :
    Alike c (Execution.assign m target source self) (Execution.assign m' target source self) := by
  refine (hm.eval source [] self hself).bind fun value => ?_
  split
  · exact fun s t h => hc.field _ value h hself
  · refine (hc.assignElement hm target value).bind fun isElement => ?_
    split
    · exact Alike.pure ()
    · exact hc.assignVariable target value

theorem printStatement (line source : Text) {self : Option Address} (hself : c.selfs self) :
    Alike c (Execution.perform m line self (.print source))
      (Execution.perform m' line self (.print source)) := by
  refine (hm.eval source [] self hself).bind fun value => Alike.get fun s t h => ?_
  rw [hc.heap h]
  exact (Alike.ofExcept _).bind fun shown => hc.printLine shown

end KeptByStatements

namespace KeptByCommands

variable {c : Comparison} (hc : c.KeptByCommands)

include hc

theorem keptByStatements : c.KeptByStatements :=
  { hc.toKeptByCalls.keptByRoutines with
    output := hc.output
    field := hc.field }

theorem printLine (t : Text) : Alike c (printLine t) (printLine t) :=
  hc.keptByStatements.printLine t

variable {m m' : Machine} (hm : m.EvaluatesAlike c m')

include hm

theorem assign (target source : Text) {self : Option Address} (hself : c.selfs self) :
    Alike c (Execution.assign m target source self) (Execution.assign m' target source self) :=
  hc.keptByStatements.assign hm target source hself

theorem printStatement (line source : Text) {self : Option Address} (hself : c.selfs self) :
    Alike c (Execution.perform m line self (.print source))
      (Execution.perform m' line self (.print source)) :=
  hc.keptByStatements.printStatement hm line source hself

end KeptByCommands

theorem alike_close {c : Comparison} {m m' : Machine} {bound bound' : Nat}
    (hblocks : ∀ ⦃s t : State⦄, c.rel s t → s.blocks = t.blocks)
    (hmethod : ∀ ⦃s t : State⦄, c.rel s t → s.blocks.classDef.isOpen = true →
      s.blocks.function.isOpen = true →
      Matches c (Execution.closeMethod s) (Execution.closeMethod t))
    (hclass : ∀ ⦃s t : State⦄, c.rel s t → s.blocks.classDef.isOpen = true →
      Matches c (Execution.closeClass s) (Execution.closeClass t))
    (hfunction : ∀ ⦃s t : State⦄, c.rel s t → s.blocks.function.isOpen = true →
      Matches c (Execution.closeFunction s) (Execution.closeFunction t))
    (hfinal : Alike c (Execution.closeFinal m bound) (Execution.closeFinal m' bound'))
    (hrunning : ∀ ⦃s t : State⦄, c.rel s t → s.blocks.classDef.isOpen = false →
      s.blocks.function.isOpen = false → s.blocks.final.isOpen = false →
      Matches c (Execution.closeRunning m bound s.blocks s)
        (Execution.closeRunning m' bound' s.blocks t)) :
    Alike c (Execution.close m bound) (Execution.close m' bound') := by
  intro s t h
  have heq := hblocks h
  cases hclassOpen : s.blocks.classDef.isOpen with
  | true =>
      rw [Execution.close_of_class hclassOpen, Execution.close_of_class (heq ▸ hclassOpen), ← heq]
      split
      · rename_i hfunctionOpen
        exact hmethod h hclassOpen hfunctionOpen
      · exact hclass h hclassOpen
  | false =>
      cases hfunctionOpen : s.blocks.function.isOpen with
      | true =>
          rw [Execution.close_of_function hclassOpen hfunctionOpen,
            Execution.close_of_function (heq ▸ hclassOpen) (heq ▸ hfunctionOpen)]
          exact hfunction h hfunctionOpen
      | false =>
          cases hfinalOpen : s.blocks.final.isOpen with
          | true =>
              rw [Execution.close_of_final hclassOpen hfunctionOpen hfinalOpen,
                Execution.close_of_final (heq ▸ hclassOpen) (heq ▸ hfunctionOpen)
                  (heq ▸ hfinalOpen)]
              exact hfinal h
          | false =>
              rw [Execution.close_of_running hclassOpen hfunctionOpen hfinalOpen,
                Execution.close_of_running (heq ▸ hclassOpen) (heq ▸ hfunctionOpen)
                  (heq ▸ hfinalOpen), ← heq]
              exact hrunning h hclassOpen hfunctionOpen hfinalOpen

theorem alike_line {c : Comparison} {m m' : Machine} {bound bound' : Nat} {source : Text}
    {self : Option Address} (hspend : Alike c spend spend)
    (hblocks : ∀ ⦃s t : State⦄, c.rel s t → s.blocks = t.blocks)
    (hclose : Text.strip source = [Text.closeBrace] →
      Alike c (Execution.close m bound) (Execution.close m' bound'))
    (hcapture : ∀ ⦃s t : State⦄ ⦃id : BodyId⦄, c.rel s t → s.blocks.openBody? = some id →
      Statement.IsStored (Text.strip source) →
      Matches c (appendLine id (Text.strip source) s) (appendLine id (Text.strip source) t))
    (hperform : ∀ ⦃s t : State⦄, c.rel s t → s.blocks.openCount = 0 →
      Matches c (Execution.perform m (Text.strip source) self
          (Statement.ofLine (Text.strip source)) s)
        (Execution.perform m' (Text.strip source) self (Statement.ofLine (Text.strip source)) t)) :
    Alike c (Execution.line m bound source self) (Execution.line m' bound' source self) := by
  rw [Execution.line_eq, Execution.line_eq]
  refine hspend.bind fun _ => ?_
  cases hsilent : Statement.isSilent (Text.strip source) with
  | true => exact Alike.pure ()
  | false =>
      by_cases hbrace : Text.strip source = [Text.closeBrace]
      · simp only [hbrace, Bool.false_eq_true, if_false, if_true]
        exact hclose hbrace
      · simp only [hbrace, Bool.false_eq_true, if_false]
        intro s t h
        have heq := hblocks h
        cases hopen : s.blocks.openBody? with
        | some id =>
            rw [Execution.capture_of_open hopen, Execution.capture_of_open (heq ▸ hopen)]
            exact hcapture h hopen ⟨Text.strip_strip source, hsilent, hbrace⟩
        | none =>
            rw [Execution.capture_of_none hopen, Execution.capture_of_none (heq ▸ hopen)]
            exact hperform h ((Blocks.openBody?_eq_none_iff _).mp hopen)

namespace KeptByExecution

variable {c : Comparison} (hc : c.KeptByExecution)

include hc

theorem newBody : Alike c (newBody []) (newBody []) := by
  intro s t h
  change Matches c (.ok s.bodies.size { s with bodies := s.bodies.push #[] })
    (.ok t.bodies.size { t with bodies := t.bodies.push #[] })
  rw [(hc.agrees h).bodies]
  have hbody := hc.body h
  rw [(hc.agrees h).bodies] at hbody
  exact .ok _ hbody

theorem modifyBlocksAt {change : Blocks BodyId → Blocks BodyId} {s t : State} (h : c.rel s t)
    (hnames : ∀ name ∈ (change s.blocks).binders, name ∈ s.blocks.binders ∨ c.names name)
    (hmove : s.blocks.Moves (change s.blocks)) :
    Matches c (modifyBlocks change s) (modifyBlocks change t) := by
  change Matches c (.ok () { s with blocks := change s.blocks })
    (.ok () { t with blocks := change t.blocks })
  rw [← (hc.agrees h).blocks]
  exact .ok () (hc.blocks h hmove hnames)

theorem modifyBlocks {change : Blocks BodyId → Blocks BodyId}
    (hmove : ∀ b : Blocks BodyId, b.Moves (change b))
    (hbinders : ∀ b, (change b).binders = b.binders) :
    Alike c (modifyBlocks change) (modifyBlocks change) := by
  intro s t h
  refine hc.modifyBlocksAt h (fun name hname => ?_) (hmove s.blocks)
  rw [hbinders] at hname
  exact .inl hname

theorem setNamed (name : Blocks BodyId → Name) (value : Value) {s t : State} (h : c.rel s t) :
    c.rel { s with vars := s.vars.set (name s.blocks) value }
      { t with vars := t.vars.set (name t.blocks) value } := by
  have heq : t.vars.set (name t.blocks) value = s.vars.set (name s.blocks) value := by
    rw [(hc.agrees h).vars, (hc.agrees h).blocks]
  rw [heq]
  exact hc.vars _ h

theorem openWith {change : BodyId → Blocks BodyId → Blocks BodyId} {s t : State} (h : c.rel s t)
    (hnames : ∀ id, ∀ name ∈ (change id s.blocks).binders,
      name ∈ s.blocks.binders ∨ c.names name)
    (hmove : ∀ id, s.blocks.Moves (change id s.blocks)) :
    Matches c ((do let fresh ← Exec.newBody []; Exec.modifyBlocks (change fresh) : Exec Unit) s)
      ((do let fresh ← Exec.newBody []; Exec.modifyBlocks (change fresh) : Exec Unit) t) := by
  change Matches c
    (.ok () { s with bodies := s.bodies.push #[], blocks := change s.bodies.size s.blocks })
    (.ok () { t with bodies := t.bodies.push #[], blocks := change t.bodies.size t.blocks })
  have hbody := hc.body h
  have hnew := hc.blocks hbody (hmove s.bodies.size) (hnames s.bodies.size)
  rw [← (hc.agrees h).blocks, ← (hc.agrees h).bodies]
  rw [← (hc.agrees h).bodies] at hnew
  exact .ok () hnew

theorem changeBlocks {change : Blocks BodyId → Blocks BodyId}
    (hmethods : ∀ b, (change b).classDef.methods = b.classDef.methods)
    (hbinders : ∀ b, (change b).binders = b.binders) (hflags : ∀ b, (change b).flags = b.flags) :
    Alike c (Exec.modifyBlocks change) (Exec.modifyBlocks change) := by
  refine hc.modifyBlocks (fun b => ⟨.inl (hmethods b), .inl ?_⟩) hbinders
  exact Nat.le_of_eq (congrArg (List.count true) (hflags b))

theorem resetAttempt : Alike c Execution.resetAttempt Execution.resetAttempt :=
  hc.newBody.bind fun _ => hc.newBody.bind fun _ => hc.newBody.bind fun _ =>
    hc.changeBlocks (fun _ => rfl) (fun _ => rfl) fun _ => rfl

theorem closeBlocks {change : Blocks BodyId → Blocks BodyId}
    (hmethods : ∀ b, (change b).classDef.methods = b.classDef.methods)
    (hbinders : ∀ b, (change b).binders = b.binders)
    (hcount : ∀ b, (change b).openCount ≤ b.openCount) :
    Alike c (Exec.modifyBlocks change) (Exec.modifyBlocks change) :=
  hc.modifyBlocks (fun b => ⟨.inl (hmethods b), .inl (hcount b)⟩) hbinders

theorem setActive (isActive : Bool) :
    Alike c (Exec.modifyBlocks fun b => { b with branch.isActive := isActive })
      (Exec.modifyBlocks fun b => { b with branch.isActive := isActive }) :=
  hc.changeBlocks (fun _ => rfl) (fun _ => rfl) fun _ => rfl

variable {m m' : Machine} (hm : m.RunsAlike c m')

include hm

theorem runFor {bound bound' : Nat} (hb : c.Bounds bound bound') :
    Alike c (Execution.runFor m bound) (Execution.runFor m' bound') := by
  refine Alike.get fun s t h => ?_
  rw [(hc.agrees h).blocks]
  refine (Alike.ofExcept _).bind fun first => (Alike.ofExcept _).bind fun last => ?_
  have hset ⦃s t : State⦄ (i : Int) (h : c.rel s t) :=
    hc.setNamed (fun blocks => blocks.forLoop.variableName) (.int i) h
  refine (hc.toKeptByRounds.forRounds hm hset hb hb first last).bind fun _ => ?_
  exact hc.newBody.bind fun _ => hc.changeBlocks (fun _ => rfl) (fun _ => rfl) fun _ => rfl

theorem runWhile {bound bound' : Nat} (hb : c.Bounds bound bound') :
    Alike c (Execution.runWhile m bound) (Execution.runWhile m' bound') := by
  refine Alike.get fun s t h => ?_
  rw [(hc.agrees h).blocks]
  refine (hc.toKeptByRounds.whileRounds hm hb _ hb).bind fun _ => ?_
  exact hc.newBody.bind fun _ => hc.changeBlocks (fun _ => rfl) (fun _ => rfl) fun _ => rfl

theorem runBranch {bound bound' : Nat} (hb : c.Bounds bound bound') :
    Alike c (Execution.runBranch m bound) (Execution.runBranch m' bound') := by
  refine Alike.get fun s t h => ?_
  rw [(hc.agrees h).blocks]
  have hreset : Alike c
      (do let fresh ← Exec.newBody []
          Exec.modifyBlocks fun b => { b with branch.isActive := false, branch.body := fresh })
      (do let fresh ← Exec.newBody []
          Exec.modifyBlocks fun b => { b with branch.isActive := false, branch.body := fresh }) :=
    hc.newBody.bind fun _ => hc.changeBlocks (fun _ => rfl) (fun _ => rfl) fun _ => rfl
  dsimp only
  split
  · exact (hc.runBody hm _ hb).bind fun _ => hreset
  · exact hreset

theorem runAttempt {bound bound' : Nat} (hb : c.Bounds bound bound') :
    Alike c (Execution.runAttempt m bound) (Execution.runAttempt m' bound') := by
  have hset ⦃s t : State⦄ (value : Value) (h : c.rel s t) :=
    hc.setNamed (fun blocks => blocks.handler.variableName) value h
  rw [Execution.runAttempt_eq, Execution.runAttempt_eq]
  exact (hc.toKeptByRounds.runParts hm hset hb).bind fun _ => hc.resetAttempt

theorem closeFinal {bound bound' : Nat} (hb : c.Bounds bound bound') :
    Alike c (Execution.closeFinal m bound) (Execution.closeFinal m' bound') := by
  refine (hc.runAttempt hm hb).bind fun _ => ?_
  exact hc.closeBlocks (fun _ => rfl) (fun _ => rfl) fun _ => Blocks.openCount_le_of_closed 7 rfl

theorem closeRunning {bound bound' : Nat} (hb : c.Bounds bound bound') (blocks : Blocks BodyId) :
    Alike c (Execution.closeRunning m bound blocks) (Execution.closeRunning m' bound' blocks) := by
  refine Alike.bind (hc.closeBlocks (fun _ => rfl) (fun _ => rfl) fun b => ?_) fun _ => ?_
  · have hhandler : { b with handler.isOpen := false }.openCount ≤ b.openCount :=
      Blocks.openCount_le_of_closed 6 rfl
    refine Nat.le_trans ?_ hhandler
    exact Blocks.openCount_le_of_closed 5 rfl
  split
  · refine (hc.runFor hm hb).bind fun _ => ?_
    exact hc.closeBlocks (fun _ => rfl) (fun _ => rfl) fun _ => Blocks.openCount_le_of_closed 1 rfl
  split
  · refine (hc.runWhile hm hb).bind fun _ => ?_
    exact hc.closeBlocks (fun _ => rfl) (fun _ => rfl) fun _ => Blocks.openCount_le_of_closed 2 rfl
  split
  · refine (hc.runBranch hm hb).bind fun _ => ?_
    exact hc.closeBlocks (fun _ => rfl) (fun _ => rfl) fun _ => Blocks.openCount_le_of_closed 0 rfl
  · exact Alike.fail _

theorem close {bound bound' : Nat} (hb : c.Bounds bound bound') :
    Alike c (Execution.close m bound) (Execution.close m' bound') :=
  alike_close (fun _ _ h => (hc.agrees h).blocks) (fun _ _ h => hc.classMethod h)
    (fun _ _ h => hc.classDef h) (fun _ _ h => hc.function h) (hc.closeFinal hm hb)
    fun s _ h _ _ _ => hc.closeRunning hm hb s.blocks h

omit hm in
theorem openAttempt (line : Text) (self : Option Address) (hname : c.names none) {s t : State}
    (h : c.rel s t) (hnone : s.blocks.openCount = 0) :
    Matches c (Execution.perform m line self .openTry s)
      (Execution.perform m' line self .openTry t) := by
  have hmoves : s.blocks.Moves
      { s.blocks with
        attempt := ⟨true, s.bodies.size⟩
        handler := ⟨s.blocks.handler.isOpen, (s.bodies.push #[]).size, none⟩
        final := ⟨s.blocks.final.isOpen, ((s.bodies.push #[]).push #[]).size⟩ } :=
    .of_opened 5 hnone rfl (.inl rfl)
  have hnew := hc.blocks (hc.body (hc.body (hc.body h))) hmoves
    (s.blocks.forall_binders_of_handler hname)
  rw [← (hc.agrees h).bodies] at hnew
  change Matches c (.ok () _) (.ok () { t with bodies := _, blocks := _ })
  rw [← (hc.agrees h).blocks, ← (hc.agrees h).bodies]
  exact .ok () hnew

theorem openBranch (line : Text) (self : Option Address) (condition : Text) {s t : State}
    (h : c.rel s t) (hnone : s.blocks.openCount = 0) :
    Matches c (Execution.perform m line self (.openBranch condition) s)
      (Execution.perform m' line self (.openBranch condition) t) := by
  have hopen : Matches c
      ((do
        let fresh ← Exec.newBody []
        Exec.modifyBlocks fun b => { b with branch.isOpen := true, branch.body := fresh } :
          Exec Unit) s)
      ((do
        let fresh ← Exec.newBody []
        Exec.modifyBlocks fun b => { b with branch.isOpen := true, branch.body := fresh } :
          Exec Unit) t) :=
    hc.openWith h (fun _ _ => .inl) fun _ => .of_opened 0 hnone rfl (.inl rfl)
  have hall := hopen.bind fun _ =>
    (hc.condition hm.toEvaluatesAlike condition).bind fun isActive => hc.setActive isActive
  rwa [bind_assoc, bind_assoc] at hall

theorem perform (line : Text) {self : Option Address} (hself : c.selfs self)
    {statement : Statement} (hname : c.names statement.binder) {s t : State} (h : c.rel s t)
    (hnone : s.blocks.openCount = 0) :
    Matches c (Execution.perform m line self statement s)
      (Execution.perform m' line self statement t) := by
  -- A header sets the flag of its block, which stands at a place of its own.
  cases statement with
  | openTry => exact hc.openAttempt line self hname h hnone
  | openHandler name =>
      refine hc.openWith h (fun _ => s.blocks.forall_binders_of_handler hname) fun _ => ?_
      exact .of_opened 6 hnone rfl (.inl rfl)
  | openFinal =>
      exact hc.openWith h (fun _ _ => .inl) fun _ => .of_opened 7 hnone rfl (.inl rfl)
  | openFor name first last =>
      refine hc.openWith h (fun _ => s.blocks.forall_binders_of_forLoop hname) fun _ => ?_
      exact .of_opened 1 hnone rfl (.inl rfl)
  | openWhile condition =>
      exact hc.openWith h (fun _ _ => .inl) fun _ => .of_opened 2 hnone rfl (.inl rfl)
  | openBranch condition => exact hc.openBranch hm line self condition h hnone
  | openClass name =>
      rw [Execution.perform, Execution.perform]
      exact hc.modifyBlocksAt h (fun _ => .inl) (.of_opened 4 hnone rfl (.inr rfl))
  | openFunction name params =>
      exact hc.openWith h (fun _ _ => .inl) fun _ => .of_opened 3 hnone rfl (.inl rfl)
  | malformed header => exact Alike.fail _ h
  | assign target source => exact hc.assign hm.toEvaluatesAlike target source hself h
  | breakLoop => exact Alike.fail _ h
  | continueLoop => exact Alike.fail _ h
  | print source => exact hc.printStatement hm.toEvaluatesAlike line source hself h
  | call => exact KeptByEvaluation.callStatement hm.toEvaluatesAlike line hself h
  | unknown => exact Alike.fail _ h

theorem line {bound bound' : Nat} (hb : c.Bounds bound bound') {source : Text}
    (hline : c.lines source) {self : Option Address} (hself : c.selfs self) :
    Alike c (Execution.line m bound source self) (Execution.line m' bound' source self) :=
  alike_line hc.spend (fun _ _ h => (hc.agrees h).blocks) (fun _ => hc.close hm hb)
    (fun _ _ _ h hopen hstored => hc.stored h hopen hline hstored)
    fun _ _ h hnone => hc.perform hm _ hself (hc.named hline) h hnone

end KeptByExecution

namespace KeptBySources

variable {c : Comparison} (hc : c.KeptBySources)

include hc

variable {m m' : Machine} (hm : m.RunsAlike c m')

include hm

theorem runSource (count : Nat) (lines : List Text) (hlines : ∀ line ∈ lines, c.lines line) :
    Alike c (Source.runLines m count lines) (Source.runLines m' count lines) := by
  induction lines generalizing count with
  | nil => exact Alike.pure ()
  | cons line rest ih =>
      refine Alike.bind (Alike.modify fun _ _ h => hc.lineNumber (count + 1) h) fun _ => ?_
      refine (hm.line line none (hlines line List.mem_cons_self) hc.self_none).bind fun _ => ?_
      exact ih (count + 1) fun line hline => hlines line (List.mem_cons_of_mem _ hline)

omit hm in
theorem report (cause : Fault) : Alike c (Source.report cause) (Source.report cause) := by
  unfold Source.report
  split
  · exact Alike.fail _
  · refine (hc.printLine []).bind fun _ => Alike.get fun s t h => ?_
    rw [hc.lineNumber_eq h]
    exact hc.printLine _

/-- Machines that are alike run a source alike. -/
theorem run (disk : Disk) (source : Source) (hlines : ∀ line, c.lines line) :
    Alike c (Source.run disk m source) (Source.run disk m' source) := by
  unfold Source.run
  split
  · exact hc.printLine _
  · rename_i banner lines hload
    have hrun : Alike c (rescue (Source.runLines m 0 lines) Source.report)
        (rescue (Source.runLines m' 0 lines) Source.report) :=
      (hc.runSource hm 0 lines fun line _ => hlines line).rescue hc.report
    cases banner with
    | some banner =>
        refine (hc.printLine banner).bind fun _ => ?_
        refine (hc.printLine _).bind fun _ => (hc.printLine _).bind fun _ => ?_
        exact hrun.bind fun _ => (hc.printLine _).bind fun _ => hc.printLine _
    | none =>
        refine (hc.printLine _).bind fun _ => (hc.printLine _).bind fun _ => ?_
        exact hrun.bind fun _ => (hc.printLine _).bind fun _ => hc.printLine _

end KeptBySources

end Comparison

namespace Machine

/-- The machine that uses another one for all that it evaluates and executes. -/
def next (disk : Disk) (m : Machine) (bound : Nat) : Machine where
  eval source locals self := Evaluation.eval disk m source locals self
  call lines own self := Execution.call m lines own self
  line source self := Execution.line m bound source self

theorem ofBound_succ (disk : Disk) (n : Nat) :
    ofBound disk (n + 1) = next disk (ofBound disk n) n := rfl

theorem RunsAlike.evaluates_next {c : Comparison} {m m' : Machine} (hc : c.KeptByRoutines)
    (hm : m.RunsAlike c m') (disk : Disk) (bound bound' : Nat) :
    (next disk m bound).EvaluatesAlike c (next disk m' bound') where
  eval source locals _ hself := hc.eval hm.toEvaluatesAlike disk source locals hself
  call lines own _ hlines hself := hc.call hm hself own lines hlines

theorem RunsAlike.next {c : Comparison} {m m' : Machine} (hc : c.KeptByExecution)
    (hm : m.RunsAlike c m') (disk : Disk) {bound bound' : Nat} (hb : c.Bounds bound bound') :
    (next disk m bound).RunsAlike c (next disk m' bound') where
  toEvaluatesAlike := hm.evaluates_next hc.toKeptByCalls.keptByRoutines disk bound bound'
  line _ _ hline hself := hc.line hm hb hline hself

end Machine

end LineScript
