import LineScript.Proofs.Divergence
import LineScript.Proofs.Routines
import LineScript.Proofs.Running

/-!
Which lines leave a block open although they fail. A block is opened by a header and by nothing
else, so a line during which no header is executed opens none. The header of a branch opens its
block before it evaluates the condition, and a function that is called may execute a header and then
fail.
-/

namespace LineScript

open Exec

namespace Statement

def isHeader : Statement → Bool
  | openTry | openHandler _ | openFinal | openFor .. | openWhile _ | openBranch _ | openClass _
  | openFunction .. => true
  | _ => false

theorem isHeader_ofLine_of_none {line : Text} (h : header? line = none) :
    (ofLine line).isHeader = false := by
  rw [ofLine, h]
  dsimp only
  repeat' split
  all_goals rfl

theorem isHeader_ofLine_of_silent {line : Text} (h : isSilent line = true) :
    (ofLine line).isHeader = false := by
  apply isHeader_ofLine_of_none
  rw [isSilent, Bool.or_eq_true, List.isEmpty_iff] at h
  rcases h with hcomment | rfl
  · obtain ⟨rest, hrest⟩ := Option.isSome_iff_exists.mp hcomment
    rw [Text.after?_eq_some_iff.mp hrest]
    rfl
  · rfl

end Statement

/-- Counts the headers that a machine is asked to execute, in place of numbering lines. -/
def headerTally : Observer
  | .line source _, s =>
      if (Statement.ofLine (Text.strip source)).isHeader then
        { s with lineNumber := s.lineNumber + 1 }
      else s
  | _, s => s

theorem headerTally_of_command {source : Text}
    (h : (Statement.ofLine (Text.strip source)).isHeader = false) (self : Option Address)
    (s : State) : headerTally (.line source self) s = s := by
  rw [headerTally, h]
  rfl

theorem headerTally_of_header {source : Text}
    (h : (Statement.ofLine (Text.strip source)).isHeader = true) (self : Option Address)
    (s : State) :
    headerTally (.line source self) s = { s with lineNumber := s.lineNumber + 1 } := by
  rw [headerTally, h]
  rfl

namespace Machine

/-- How many headers a machine of the given bound is asked to execute by a line. The line may be one
itself, and a header counts whether or not it is captured. -/
def headerCalls (disk : Disk) (n : Nat) (source : Text) (self : Option Address) (s : State) : Nat :=
  (after ((observed disk headerTally n).line source self) { s with lineNumber := 0 }).lineNumber

theorem headerTally_runsAlike (disk : Disk) (n : Nat) :
    (observed disk headerTally n).RunsAlike .unnumbered (ofBound disk n) := by
  refine observed_unnumbered ?_ disk n
  intro e s
  cases e with
  | line source self =>
      cases hheader : (Statement.ofLine (Text.strip source)).isHeader with
      | true => exact ⟨s.lineNumber + 1, headerTally_of_header hheader self s⟩
      | false => exact ⟨s.lineNumber, headerTally_of_command hheader self s⟩
  | eval source locals self => exact ⟨s.lineNumber, rfl⟩
  | call lines own self => exact ⟨s.lineNumber, rfl⟩

theorem blocks_headerTally (disk : Disk) (n : Nat) (source : Text) (self : Option Address)
    (s : State) :
    (after ((observed disk headerTally n).line source self) { s with lineNumber := 0 }).blocks =
      (after ((ofBound disk n).line source self) s).blocks := by
  have halike := (headerTally_runsAlike disk n).line source self trivial trivial
    (⟨0, rfl⟩ : Comparison.unnumbered.rel { s with lineNumber := 0 } s)
  unfold after
  generalize (observed disk headerTally n).line source self _ = o at halike
  generalize (ofBound disk n).line source self s = p at halike
  cases halike with
  | ok _ hrel =>
      obtain ⟨k, rfl⟩ := hrel
      rfl
  | error _ hrel =>
      obtain ⟨k, rfl⟩ := hrel
      rfl
  | cut _ _ hslack => exact hslack.elim

/-- What the observed machine keeps is shown for lines: evaluations and calls are not counted. -/
theorem headerTally_runsAlike_self {c : Comparison} (hc : c.KeptByCommands) {disk : Disk}
    (hline : ∀ n, (observed disk headerTally n).RunsAlike c (observed disk headerTally n) →
      ∀ source self, c.lines source → c.selfs self →
        Alike c ((observed disk headerTally (n + 1)).line source self)
          ((observed disk headerTally (n + 1)).line source self)) (n : Nat) :
    (observed disk headerTally n).RunsAlike c (observed disk headerTally n) := by
  induction n with
  | zero => exact idle_runsAlike
  | succ n ih =>
      have hnext := ih.evaluates_next hc.toKeptByCalls.keptByRoutines disk n n
      exact ⟨⟨hnext.eval, hnext.call⟩, hline n ih⟩

theorem headerTally_pos {disk : Disk} {n bound : Nat} {source : Text} {self : Option Address}
    {s : State} (hs : 0 < s.lineNumber) :
    0 < (after (Execution.line (observed disk headerTally n) bound source self) s).lineNumber := by
  have hkept := Comparison.keptByExecution_steady fun _ count => 0 < count
  have hm : (observed disk headerTally n).RunsAlike (.keeping fun t => 0 < t.lineNumber)
      (observed disk headerTally n) := by
    refine observed_runsAlike_self (hkept.goesOver disk) ?_ n
    rintro e t _ - ⟨rfl, ht⟩
    refine ⟨rfl, ?_⟩
    cases e with
    | line source self =>
        cases hheader : (Statement.ofLine (Text.strip source)).isHeader with
        | true =>
            rw [headerTally_of_header hheader]
            exact Nat.succ_pos _
        | false =>
            rw [headerTally_of_command hheader]
            exact ht
    | eval source locals self => exact ht
    | call lines own self => exact ht
  exact ((hkept.line hm (.inl rfl) trivial trivial).eq_of_keeping hs).2

end Machine

theorem Comparison.KeptByStatements.perform {c : Comparison} (hc : c.KeptByStatements)
    {m m' : Machine} (hm : m.EvaluatesAlike c m') (line : Text) {self : Option Address}
    (hself : c.selfs self) {statement : Statement} (hcommand : statement.isHeader = false) :
    Alike c (Execution.perform m line self statement)
      (Execution.perform m' line self statement) := by
  cases statement with
  | malformed header => exact Alike.fail _
  | assign target source => exact hc.assign hm target source hself
  | breakLoop => exact Alike.fail _
  | continueLoop => exact Alike.fail _
  | print source => exact hc.printStatement hm line source hself
  | call => exact KeptByEvaluation.callStatement hm line hself
  | unknown => exact Alike.fail _
  | _ => cases hcommand

theorem Execution.after_line_of_none {m : Machine} {bound : Nat} {source : Text}
    {self : Option Address} {s : State} {P : State → Prop} (hnone : s.blocks.openCount = 0)
    (hs : ∀ allowance, P { s with allowance := allowance })
    (hperform : ∀ allowance,
      P (after (perform m (Text.strip source) self (Statement.ofLine (Text.strip source)))
        { s with allowance := allowance })) :
    P (after (Execution.line m bound source self) s) := by
  rw [line_eq]
  rcases spend_cases s with ⟨allowance, hspent⟩ | hspent
  · rw [after_eq_of_eq (bind_of_ok hspent _)]
    split
    · exact hs allowance
    split
    · rw [after_eq_of_eq (close_of_none (s := { s with allowance := allowance }) hnone)]
      exact hs allowance
    · have hbody : s.blocks.openBody? = none := (Blocks.openBody?_eq_none_iff _).mpr hnone
      rw [after_eq_of_eq (capture_of_none (s := { s with allowance := allowance }) hbody _ _)]
      exact hperform allowance
  · rw [after, bind_of_error hspent]
    exact hs s.allowance

/-- As long as no header is counted, no block is open. -/
def State.IsShutUncounted (s : State) : Prop := s.lineNumber = 0 → s.blocks.openCount = 0

namespace Comparison

def shutUncounted : Comparison := keeping State.IsShutUncounted

theorem keptByCommands_shutUncounted : shutUncounted.KeptByCommands where
  self_none := trivial
  agrees := by rintro s _ ⟨rfl, _⟩; exact .refl s
  lists := by rintro s _ items - ⟨rfl, h⟩; exact ⟨rfl, h⟩
  dicts := by rintro s _ entries - ⟨rfl, h⟩; exact ⟨rfl, h⟩
  object := by rintro _ _ s _ name methods _ _ ⟨rfl, h⟩; exact ⟨rfl, h⟩
  routine _ _ _ _ := trivial
  method _ _ := ⟨trivial, fun _ _ => trivial⟩
  spent := by rintro s _ n ⟨rfl, h⟩ _; exact ⟨rfl, h⟩
  body_lines _ _ := trivial
  vars := by rintro s _ own ⟨rfl, h⟩; exact ⟨rfl, h⟩
  output := by rintro s _ o ⟨rfl, h⟩; exact ⟨rfl, h⟩
  field := by rintro s _ address field value ⟨rfl, h⟩ _; exact .ok () ⟨rfl, h⟩

theorem runsAlike_shutUncounted (disk : Disk) (n : Nat) :
    (Machine.observed disk headerTally n).RunsAlike shutUncounted
      (Machine.observed disk headerTally n) := by
  have hc := keptByCommands_shutUncounted
  refine Machine.headerTally_runsAlike_self hc ?_ n
  rintro n hm source self - hself s _ ⟨rfl, hs⟩
  refine .keeping rfl ?_
  change State.IsShutUncounted
    (after (Execution.line _ n source self) (headerTally (.line source self) s))
  cases hheader : (Statement.ofLine (Text.strip source)).isHeader with
  | true =>
      rw [headerTally_of_header hheader]
      intro hzero
      exact absurd hzero (Nat.ne_of_gt (Machine.headerTally_pos (Nat.succ_pos _)))
  | false =>
      rw [headerTally_of_command hheader]
      rcases Nat.eq_zero_or_pos s.lineNumber with hcount | hcount
      · have hperform := hc.keptByStatements.perform hm.toEvaluatesAlike (Text.strip source) hself
          hheader
        refine Execution.after_line_of_none (hs hcount) ?_ ?_
        · intro _
          exact hs
        · intro allowance
          have hspent : State.IsShutUncounted { s with allowance := allowance } := hs
          exact (hperform.eq_of_keeping hspent).2
      · intro hzero
        exact absurd hzero (Nat.ne_of_gt (Machine.headerTally_pos hcount))

end Comparison

/-- No line of a body, a function or a method closes a block. -/
def State.NeverCloses (s : State) : Prop :=
  s.EveryRoutine Statement.NoBrace ∧ EveryLine Statement.NoBrace s.bodies

theorem State.IsOrderly.neverCloses {selfs : Option Address → Prop} {s : State}
    (h : s.IsOrderly selfs) : s.NeverCloses :=
  ⟨h.everyRoutine, fun id line hline => (h.body_stored id line hline).strip_ne_brace⟩

/-- Once a header is counted, a block is open, and no line will close it. -/
def State.IsOpenCounted (s : State) : Prop :=
  (0 < s.lineNumber → s.blocks.openCount ≠ 0) ∧ s.NeverCloses ∧ s.allowance = none

namespace Comparison

def openCounted : Comparison := keeping State.IsOpenCounted (fun _ => True) Statement.NoBrace

theorem keptByCommands_openCounted : openCounted.KeptByCommands where
  self_none := trivial
  agrees := by rintro s _ ⟨rfl, _⟩; exact .refl s
  lists := by rintro s _ items - ⟨rfl, h⟩; exact ⟨rfl, h⟩
  dicts := by rintro s _ entries - ⟨rfl, h⟩; exact ⟨rfl, h⟩
  object := by
    rintro s _ s' _ name methods ⟨rfl, h⟩ hclass ⟨rfl, hopen, hcloses, hunlimited⟩
    -- The class was looked up before its object is made, in another state.
    have hlines := h.2.1.1.class_lines _ (Table.mem_of_get? hclass)
    exact ⟨rfl, hopen, ⟨hcloses.1.pushObject hlines, hcloses.2⟩, hunlimited⟩
  routine := by
    rintro s _ name routine ⟨rfl, h⟩ hroutine
    exact h.2.1.1.of_function hroutine
  method := by
    rintro s _ address name routine ⟨rfl, h⟩ hroutine
    exact ⟨trivial, h.2.1.1.of_method hroutine⟩
  spent := by
    rintro s _ n ⟨rfl, h⟩ hspent
    rw [h.2.2] at hspent
    cases hspent
  body_lines := by
    rintro s _ id line ⟨rfl, h⟩ hline
    exact h.2.1.2 id line hline
  vars := by rintro s _ own ⟨rfl, h⟩; exact ⟨rfl, h⟩
  output := by rintro s _ o ⟨rfl, h⟩; exact ⟨rfl, h⟩
  field := by
    rintro s _ address field value ⟨rfl, hopen, hcloses, hunlimited⟩ _
    exact .ok () ⟨rfl, hopen, ⟨hcloses.1.setField address field value, hcloses.2⟩, hunlimited⟩

end Comparison

theorem Blocks.openCount_ne_zero {blocks : Blocks BodyId} (h : true ∈ blocks.flags) :
    blocks.openCount ≠ 0 :=
  Nat.ne_of_gt (List.count_pos_iff.mpr h)

/-- A header opens its block first, so whatever happens in it is counted with a block open. -/
theorem Execution.isOpenCounted_perform {m : Machine} (hm : m.EvaluatesAlike .openCounted m)
    {statement : Statement} (hheader : statement.isHeader = true) (line : Text)
    (self : Option Address) {s : State} (hs : s.NeverCloses) (hunlimited : s.allowance = none) :
    (after (perform m line self statement) s).IsOpenCounted := by
  have hopens {blocks : Blocks BodyId} {bodies : Array (Array Text)} (h : true ∈ blocks.flags)
      (hbodies : EveryLine Statement.NoBrace bodies) :
      State.IsOpenCounted { s with blocks := blocks, bodies := bodies } :=
    ⟨fun _ => Blocks.openCount_ne_zero h, ⟨hs.1, hbodies⟩, hunlimited⟩
  cases statement with
  | openTry => exact hopens (by simp [Blocks.flags]) hs.2.pushBody.pushBody.pushBody
  | openHandler name => exact hopens (by simp [Blocks.flags]) hs.2.pushBody
  | openFinal => exact hopens (by simp [Blocks.flags]) hs.2.pushBody
  | openFor name first last => exact hopens (by simp [Blocks.flags]) hs.2.pushBody
  | openWhile condition => exact hopens (by simp [Blocks.flags]) hs.2.pushBody
  | openBranch condition =>
      have hopen : State.IsOpenCounted { s with
          bodies := s.bodies.push #[]
          blocks := { s.blocks with branch.isOpen := true, branch.body := s.bodies.size } } :=
        hopens (by simp [Blocks.flags]) hs.2.pushBody
      have hcondition :=
        ((Comparison.keptByCommands_openCounted.condition hm condition).eq_of_keeping hopen).2
      exact after_bind (x := Evaluation.condition m condition) hcondition fun isActive t ht => ht
  | openClass name => exact hopens (by simp [Blocks.flags]) hs.2
  | openFunction name params => exact hopens (by simp [Blocks.flags]) hs.2.pushBody
  | _ => cases hheader

theorem Execution.isOpenCounted_appendLine {s : State} (hs : s.NeverCloses)
    (hunlimited : s.allowance = none) {id : BodyId} (hopen : s.blocks.openBody? = some id)
    {source : Text} (hsource : Statement.NoBrace source) :
    (after (appendLine id (Text.strip source)) s).IsOpenCounted := by
  refine ⟨fun _ hnone => ?_, ⟨hs.1, hs.2.appendLine id ?_⟩, hunlimited⟩
  · have hbody : s.blocks.openBody? = none := (Blocks.openBody?_eq_none_iff _).mpr hnone
    rw [hopen] at hbody
    cases hbody
  · rw [Statement.NoBrace, Text.strip_strip]
    exact hsource

theorem Execution.after_line_of_noBrace {m : Machine} {bound : Nat} {source : Text}
    {self : Option Address} {s : State} {P : State → Prop} (hsource : Statement.NoBrace source)
    (hunlimited : s.allowance = none)
    (hsilent : Statement.isSilent (Text.strip source) = true → P s)
    (hcapture : ∀ id, s.blocks.openBody? = some id →
      P (after (appendLine id (Text.strip source)) s))
    (hperform :
      P (after (perform m (Text.strip source) self (Statement.ofLine (Text.strip source))) s)) :
    P (after (Execution.line m bound source self) s) := by
  rw [line_eq, after_eq_of_eq (bind_of_ok (spend_of_unlimited hunlimited) _), if_neg hsource]
  split
  · rename_i h
    exact hsilent h
  · cases hopen : s.blocks.openBody? with
    | some id =>
        rw [after_eq_of_eq (capture_of_open hopen _ _)]
        exact hcapture id hopen
    | none =>
        rw [after_eq_of_eq (capture_of_none hopen _ _)]
        exact hperform

theorem Comparison.runsAlike_openCounted (disk : Disk) (n : Nat) :
    (Machine.observed disk headerTally n).RunsAlike openCounted
      (Machine.observed disk headerTally n) := by
  have hc := keptByCommands_openCounted
  refine Machine.headerTally_runsAlike_self hc ?_ n
  rintro n hm source self hsource hself s _ ⟨rfl, hs⟩
  refine .keeping rfl ?_
  change State.IsOpenCounted
    (after (Execution.line _ n source self) (headerTally (.line source self) s))
  cases hheader : (Statement.ofLine (Text.strip source)).isHeader with
  | true =>
      rw [headerTally_of_header hheader]
      refine Execution.after_line_of_noBrace hsource hs.2.2 ?_ ?_ ?_
      · intro hsilent
        rw [Statement.isHeader_ofLine_of_silent hsilent] at hheader
        cases hheader
      · intro id hopen
        exact Execution.isOpenCounted_appendLine (s := { s with lineNumber := s.lineNumber + 1 })
          hs.2.1 hs.2.2 hopen hsource
      · exact Execution.isOpenCounted_perform hm.toEvaluatesAlike hheader _ self hs.2.1 hs.2.2
  | false =>
      rw [headerTally_of_command hheader]
      refine Execution.after_line_of_noBrace hsource hs.2.2 ?_ ?_ ?_
      · intro _
        exact hs
      · intro id hopen
        exact Execution.isOpenCounted_appendLine hs.2.1 hs.2.2 hopen hsource
      · have hperform := hc.keptByStatements.perform hm.toEvaluatesAlike (Text.strip source) hself
          hheader
        exact (hperform.eq_of_keeping hs).2

theorem Machine.headerCalls_of_brace {source : Text}
    (hsource : Text.strip source = [Text.closeBrace]) {s : State} (hnone : s.blocks.openCount = 0)
    (disk : Disk) (n : Nat) (self : Option Address) : headerCalls disk n source self s = 0 := by
  have hcommand : (Statement.ofLine (Text.strip source)).isHeader = false := by
    rw [hsource]
    rfl
  cases n with
  | zero => rfl
  | succ n =>
      change State.lineNumber (after (Execution.line _ n source self)
        (headerTally (.line source self) { s with lineNumber := 0 })) = 0
      rw [headerTally_of_command hcommand]
      refine Execution.after_line_of_none (P := fun t => t.lineNumber = 0) hnone ?_ ?_
      · intro _
        rfl
      · intro _
        rw [hsource]
        rfl

theorem Execution.eq_openBranch_of_perform {m : Machine} {line : Text} {self : Option Address}
    {statement : Statement} (hheader : statement.isHeader = true) {s t : State} {halt : Halt}
    (hfail : perform m line self statement s = .error halt t) :
    ∃ condition, statement = .openBranch condition := by
  cases statement with
  | openBranch condition => exact ⟨condition, rfl⟩
  | openTry => cases hfail
  | openHandler name => cases hfail
  | openFinal => cases hfail
  | openFor name first last => cases hfail
  | openWhile condition => cases hfail
  | openClass name => cases hfail
  | openFunction name params => cases hfail
  | _ => cases hheader

theorem Execution.eq_openBranch_of_line {m : Machine} {bound : Nat} {source : Text}
    {self : Option Address} {s t : State} {cause : Fault} (hnone : s.blocks.openCount = 0)
    (hheader : (Statement.ofLine (Text.strip source)).isHeader = true)
    (hfail : Execution.line m bound source self s = .error (.fault cause) t) :
    ∃ condition, Statement.ofLine (Text.strip source) = .openBranch condition := by
  have hsilent : Statement.isSilent (Text.strip source) = false := by
    rw [← Bool.not_eq_true]
    intro hsilent
    rw [Statement.isHeader_ofLine_of_silent hsilent] at hheader
    cases hheader
  have hbrace : Text.strip source ≠ [Text.closeBrace] := by
    intro hbrace
    rw [hbrace] at hheader
    cases hheader
  have hbody : s.blocks.openBody? = none := (Blocks.openBody?_eq_none_iff _).mpr hnone
  rw [line_eq, hsilent, if_neg hbrace] at hfail
  rcases spend_cases s with ⟨allowance, hspent⟩ | hspent
  · rw [bind_of_ok hspent, if_neg Bool.false_ne_true,
      capture_of_none (s := { s with allowance := allowance }) hbody] at hfail
    exact eq_openBranch_of_perform hheader hfail
  · rw [bind_of_error hspent] at hfail
    cases hfail

/-- Where no block is open and a line fails, no block is open afterwards if no header was executed.
If one was, a block is open, unless some stored line could have closed it. The line itself may be a
header only if it is that of a branch, whose block is opened before its condition is evaluated. -/
theorem failed_line_opens_only_by_header {disk : Disk} {n : Nat} {source : Text}
    {self : Option Address} {s t : State} {cause : Fault} (hnone : true ∉ s.blocks.flags)
    (hfail : (Machine.ofBound disk n).line source self s = .error (.fault cause) t) :
    (Machine.headerCalls disk n source self s = 0 → true ∉ t.blocks.flags) ∧
      (s.NeverCloses → s.allowance = none → Machine.headerCalls disk n source self s ≠ 0 →
        true ∈ t.blocks.flags) ∧
      ((Statement.ofLine (Text.strip source)).isHeader = true →
        ∃ condition, Statement.ofLine (Text.strip source) = .openBranch condition) := by
  have hcount : s.blocks.openCount = 0 := List.count_eq_zero.mpr hnone
  have hafter : after ((Machine.ofBound disk n).line source self) s = t := by rw [after, hfail]
  -- The count is taken by another machine, which ends with the same blocks.
  have hblocks := Machine.blocks_headerTally disk n source self s
  rw [hafter] at hblocks
  refine ⟨?_, ?_, ?_⟩
  · intro hzero
    have hshut := (((Comparison.runsAlike_shutUncounted disk n).line source self trivial
      trivial).eq_of_keeping (s := { s with lineNumber := 0 }) fun _ => hcount).2 hzero
    rw [hblocks] at hshut
    exact List.count_eq_zero.mp hshut
  · intro hcloses hunlimited hcalls
    have hsource : Statement.NoBrace source := by
      intro hbrace
      exact hcalls (Machine.headerCalls_of_brace hbrace hcount disk n self)
    have hstart : State.IsOpenCounted { s with lineNumber := 0 } :=
      ⟨fun hpos => absurd hpos (Nat.lt_irrefl 0), hcloses, hunlimited⟩
    have hopen := (((Comparison.runsAlike_openCounted disk n).line source self hsource
      trivial).eq_of_keeping hstart).2.1 (Nat.pos_of_ne_zero hcalls)
    rw [hblocks] at hopen
    exact List.count_pos_iff.mp (Nat.pos_of_ne_zero hopen)
  · intro hheader
    cases n with
    | zero => cases hfail
    | succ n => exact Execution.eq_openBranch_of_line hcount hheader hfail

/-- A function that opens a block and then fails. -/
def openerThatFails : State :=
  State.initial.afterLines .empty 8 ["func f() \x7b", "Try \x7b", "return_object zz", "\x7d"]

/-- An assignment that fails opens no block. A call fails after the function has opened one. -/
theorem failed_line_opens_only_by_header_call :
    true ∉ openerThatFails.blocks.flags ∧
      (halt? ((Machine.ofBound .empty 8).line "tyrt x = zz" none) openerThatFails =
          some (.fault (.undefinedExpression "zz")) ∧
        true ∉ (after ((Machine.ofBound .empty 8).line "tyrt x = zz" none)
          openerThatFails).blocks.flags) ∧
      halt? ((Machine.ofBound .empty 8).line "f()" none) openerThatFails =
          some (.fault (.unrecognizedLine "f()")) ∧
        true ∈
          (after ((Machine.ofBound .empty 8).line "f()" none) openerThatFails).blocks.flags := by
  have hreachable : Reachable (fun _ => True) openerThatFails :=
    .afterLines .initial trivial (by decide +kernel)
  have horderly := hreachable.isOrderly trivial
  have hnone : true ∉ openerThatFails.blocks.flags := by decide +kernel
  have hassign : halt? ((Machine.ofBound .empty 8).line "tyrt x = zz" none) openerThatFails =
    some (.fault (.undefinedExpression "zz")) := by decide +kernel
  have hcall : halt? ((Machine.ofBound .empty 8).line "f()" none) openerThatFails =
    some (.fault (.unrecognizedLine "f()")) := by decide +kernel
  refine ⟨hnone, ⟨hassign, ?_⟩, hcall, ?_⟩
  · exact (failed_line_opens_only_by_header hnone (eq_error_of_halt? hassign)).1 (by decide +kernel)
  · exact (failed_line_opens_only_by_header hnone (eq_error_of_halt? hcall)).2.1
      horderly.neverCloses horderly.unlimited (by decide +kernel)

/-- The header of a branch fails in its condition, and the branch is open. -/
theorem block_left_open_by_failed_header :
    true ∉ State.initial.blocks.flags ∧
      halt? ((Machine.ofBound .empty 8).line "BILHETE_NADA zz \x7b" none) State.initial =
        some (.fault (.undefinedExpression "zz")) ∧
      (after ((Machine.ofBound .empty 8).line "BILHETE_NADA zz \x7b" none)
        State.initial).blocks.flags = [true, false, false, false, false, false, false, false] := by
  decide +kernel

end LineScript
