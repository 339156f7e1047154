import LineScript.Proofs.Binding
import LineScript.Proofs.Closing
import LineScript.Proofs.Term

/-!
Where names come from. A variable has a name only if some line that the interpreter was given names
it: as the target of an assignment, or as what a loop or a handler is to bind. So a literal stands
for its integer unless some line has made its text a name.
-/

namespace LineScript

open Exec

/-- A line is a header that gives a name to its block. -/
def Statement.Introduces (line name : Text) : Prop :=
  (ofLine (Text.strip line)).binder = some name

/-- A line gives a name: to a variable, or to the block that it opens. -/
def Statement.Names (line name : Text) : Prop :=
  Targets line name ∨ Introduces line name

theorem Statement.introduces_strip {line name : Text} :
    Introduces (Text.strip line) name ↔ Introduces line name := by
  rw [Introduces, Introduces, Text.strip_strip]

/-- No block is to bind a name, and no stored line gives it to a block. Stored lines count because a
loop that a function opens is still open when the function has returned. -/
structure Unnamed (name : Text) (blocks : Blocks BodyId) (bodies : Array (Array Text))
    (functions : Table Name Routine) : Prop where
  binders : some name ∉ blocks.binders
  body_lines : EveryLine (fun line => ¬Statement.Introduces line name) bodies
  function_lines : ∀ entry ∈ functions, ∀ line ∈ entry.2.body, ¬Statement.Introduces line name

namespace Unnamed

variable {name : Text} {blocks : Blocks BodyId} {bodies : Array (Array Text)}
  {functions : Table Name Routine} (h : Unnamed name blocks bodies functions)

include h

theorem pushBody : Unnamed name blocks (bodies.push #[]) functions :=
  { h with body_lines := h.body_lines.pushBody }

theorem appendLine (id : BodyId) {line : Text} (hline : ¬Statement.Introduces line name) :
    Unnamed name blocks (bodies.modify id (·.push (Text.strip line))) functions :=
  { h with body_lines := h.body_lines.appendLine id (mt Statement.introduces_strip.mp hline) }

theorem move {blocks' : Blocks BodyId}
    (hnames : ∀ other ∈ blocks'.binders, other ∈ blocks.binders ∨ other ≠ some name) :
    Unnamed name blocks' bodies functions :=
  { h with
    binders := by
      intro hmem
      rcases hnames _ hmem with hold | hne
      · exact h.binders hold
      · exact hne rfl }

theorem setFunction (key : Name) {routine : Routine}
    (hlines : ∀ line ∈ routine.body, ¬Statement.Introduces line name) :
    Unnamed name blocks bodies (functions.set key routine) :=
  { h with
    function_lines :=
      Table.forall_set
        (fun routine : Routine => ∀ line ∈ routine.body, ¬Statement.Introduces line name)
        h.function_lines key hlines }

end Unnamed

namespace Comparison

/-- Both executions are of lines that do not give a name to a block, in states in order where no
line has done so. -/
def unnamed (name : Text) : Comparison :=
  keeping (fun s => s.IsOrderly (fun _ => True) ∧ Unnamed name s.blocks s.bodies s.functions)
    (fun _ => True) (fun line => ¬Statement.Introduces line name) (· ≠ some name)

theorem keptByExecution_unnamed (name : Text) : (unnamed name).KeptByExecution where
  self_none := trivial
  agrees := by rintro s _ ⟨rfl, _⟩; exact .refl s
  lists := by rintro s _ items - ⟨rfl, h⟩; exact ⟨rfl, h⟩
  dicts := by rintro s _ entries - ⟨rfl, h⟩; exact ⟨rfl, h⟩
  vars := by rintro s _ own ⟨rfl, h⟩; exact ⟨rfl, h⟩
  faultCount := by rintro s _ n ⟨rfl, h⟩; exact ⟨rfl, h⟩
  output := by rintro s _ o ⟨rfl, h⟩; exact ⟨rfl, h⟩
  object := by
    rintro s _ s' _ className methods ⟨rfl, h⟩ hclass ⟨rfl, h'⟩
    exact ⟨rfl, h'.1.pushObject (h.1.class_empty _ (Table.mem_of_get? hclass)), h'.2⟩
  routine := by
    rintro s _ key routine ⟨rfl, h⟩ hroutine
    exact h.2.function_lines _ (Table.mem_of_get? hroutine)
  method h hmethod := absurd hmethod (h.2.1.no_method _ _ _)
  spent h hn := absurd hn (h.2.1.no_allowance _)
  body_lines := by
    rintro s _ id line ⟨rfl, h⟩ hline
    exact h.2.body_lines id line hline
  body := by
    rintro s _ ⟨rfl, h⟩
    exact ⟨rfl, h.1.pushBody, h.2.pushBody⟩
  named hline := hline
  blocks := by
    rintro s _ blocks ⟨rfl, h⟩ hmove hnames
    exact ⟨rfl, h.1.move hmove, h.2.move hnames⟩
  stored := by
    rintro s _ id line ⟨rfl, h⟩ hopen hline hstored
    exact .ok () ⟨rfl, h.1.appendLine id hstored, h.2.appendLine id hline⟩
  field := by
    rintro s _ address field value ⟨rfl, h⟩ hself
    exact .ok () ⟨rfl, h.1.setField hself field value, h.2⟩
  function := by
    rintro s _ ⟨rfl, h⟩ hopen
    have horderly := ((keptBySources_orderly trivial).function ⟨rfl, h.1⟩ hopen).eq_of_keeping.2
    have hlines : ∀ line ∈ (Execution.pendingRoutine s).body,
        ¬Statement.Introduces line name := fun line hline =>
      h.2.body_lines s.blocks.function.body line (Array.mem_toList_iff.mp hline)
    exact .ok () ⟨rfl, horderly, ((h.2.setFunction _ hlines).pushBody).move fun _ => .inl⟩
  classDef := by
    rintro s _ ⟨rfl, h⟩ hopen
    have horderly := ((keptBySources_orderly trivial).classDef ⟨rfl, h.1⟩ hopen).eq_of_keeping.2
    exact .ok () ⟨rfl, horderly, h.2.move fun _ => .inl⟩
  classMethod := by
    rintro s _ ⟨rfl, h⟩ hclass hfunction
    rw [Blocks.not_class_and_function h.1.openCount_le hclass] at hfunction
    simp at hfunction

end Comparison

theorem Blocks.not_binds_of_not_mem_binders {blocks : Blocks BodyId} {name : Name}
    (h : name ∉ blocks.binders) : ¬blocks.Binds name := by
  rintro (⟨_, rfl⟩ | ⟨_, rfl⟩)
  · exact h List.mem_cons_self
  · exact h (List.mem_cons_of_mem _ List.mem_cons_self)

/-- A state in order where no variable has a name and nothing is left that could give it to one. -/
structure State.Lacks (name : Text) (s : State) : Prop where
  orderly : s.IsOrderly fun _ => True
  unnamed : Unnamed name s.blocks s.bodies s.functions
  vars : s.vars.get? (some name) = none

namespace State

variable {name : Text} {s : State}

theorem Rebinds.get?_eq {before : State} {line : Text} {x : Exec Unit}
    (h : before.Rebinds line (x s)) (hline : ¬Statement.Targets line name) :
    (after x s).vars.get? (some name) = before.vars.get? (some name) := by
  unfold after
  generalize x s = o at h
  cases h with
  | error halt h => exact congrArg _ h.vars
  | ok h => exact congrArg _ h.vars
  | target h htarget value =>
      have hne : some name ≠ some _ := fun heq => hline (Option.some.inj heq ▸ htarget)
      exact (Table.get?_set_of_ne hne value _).trans (congrArg _ h.vars)

/-- A line that does not give a name leaves it to nobody. Where a block is open, nothing but the
names of blocks can be bound; where none is, nothing but the target of the line. -/
theorem Lacks.line (h : s.Lacks name) (disk : Disk) (n : Nat) {line : Text}
    (hline : ¬Statement.Names line name) (self : Option Address) :
    (after ((Machine.ofBound disk n).line line self) s).Lacks name := by
  obtain ⟨htarget, hintroduces⟩ := not_or.mp hline
  have hkept := Comparison.keptByExecution_unnamed name
  have hm := Machine.ofBound_runsAlike_self (hkept.goesOver disk) n
  obtain ⟨horderly, hunnamed⟩ :=
    ((hm.line line self hintroduces trivial).eq_of_keeping ⟨h.orderly, h.unnamed⟩).2
  refine ⟨horderly, hunnamed, ?_⟩
  -- The comparison lets calls write variables of their own, so those of the caller are apart.
  rw [← h.vars]
  cases hopen : s.blocks.openBody? with
  | some id =>
      have hconfined := Machine.isConfined_line h.orderly hopen disk n line self
      exact hconfined.2 _ (Blocks.not_binds_of_not_mem_binders h.unnamed.binders)
  | none =>
      cases n with
      | zero => rfl
      | succ n =>
          have hevaluates := Machine.evaluatesAlike_sameNames disk n s
          have hrebinds := Execution.rebinds_line hevaluates ⟨rfl, rfl⟩
            ((Blocks.openBody?_eq_none_iff _).mp hopen) n line self
          exact hrebinds.get?_eq htarget

theorem lacks_initial (name : Text) : initial.Lacks name where
  orderly := isOrderly_initial _
  unnamed :=
    { binders := by
        change some name ∉ [none, none]
        simp
      body_lines := .initial _
      function_lines := by
        intro entry hentry
        exact absurd hentry List.not_mem_nil }
  vars := rfl

end State

/-- The states that a new interpreter reaches, each with the lines that it was given: one by one, or
as those of a source. -/
inductive ReachedBy : List Text → State → Prop
  | initial : ReachedBy [] .initial
  | line {history : List Text} {s : State} (disk : Disk) (n : Nat) (source : Text)
      (self : Option Address) (hs : ReachedBy history s)
      (hfin : finishes ((Machine.ofBound disk n).line source self) s = true) :
      ReachedBy (history ++ [source]) (after ((Machine.ofBound disk n).line source self) s)
  | run {history : List Text} {s : State} (disk : Disk) (n : Nat) (source : Source)
      (hs : ReachedBy history s)
      (hfin : finishes (Source.run disk (Machine.ofBound disk n) source) s = true) :
      ReachedBy (history ++ source.lines disk)
        (after (Source.run disk (Machine.ofBound disk n) source) s)

theorem reachable_iff_exists_reachedBy {s : State} :
    Reachable (fun _ => True) s ↔ ∃ history, ReachedBy history s := by
  constructor
  · intro h
    induction h with
    | initial => exact ⟨_, .initial⟩
    | line disk n source self _ _ hfin ih =>
        obtain ⟨_, hs⟩ := ih
        exact ⟨_, .line disk n source self hs hfin⟩
    | run disk n source _ hfin ih =>
        obtain ⟨_, hs⟩ := ih
        exact ⟨_, .run disk n source hs hfin⟩
  · rintro ⟨history, h⟩
    induction h with
    | initial => exact .initial
    | line disk n source self _ hfin ih => exact .line disk n source self ih trivial hfin
    | run disk n source _ hfin ih => exact .run disk n source ih hfin

namespace ReachedBy

variable {history : List Text} {s : State} (hs : ReachedBy history s)

include hs

/-- What the given lines keep, whatever has been printed and whatever their numbers are, holds in
the state that they reach. -/
theorem invariant {P : State → Prop} (hinitial : P .initial)
    (hline : ∀ line ∈ history, ∀ disk n self s, P s →
      P (after ((Machine.ofBound disk n).line line self) s))
    (hnumber : ∀ s n, P s → P { s with lineNumber := n })
    (houtput : ∀ s o, P s → P { s with output := o }) : P s := by
  induction hs with
  | initial => exact hinitial
  | line disk n source self hs hfin ih =>
      have hlast := hline source (List.mem_append_right _ List.mem_cons_self)
      exact hlast disk n self _ (ih fun line hmem => hline line (List.mem_append_left _ hmem))
  | run disk n source hs hfin ih =>
      refine Source.after_run hnumber (fun line hmem t => ?_) houtput ?_
      · exact hline line (List.mem_append_right _ hmem) disk n none t
      · exact ih fun line hmem => hline line (List.mem_append_left _ hmem)

theorem consts_eq : s.consts = [] := by
  refine hs.invariant (P := fun s => s.consts = []) rfl (fun line _ disk n self t ht => ?_)
    (fun _ _ h => h) fun _ _ h => h
  have hkept := Comparison.keptByExecution_steady fun consts _ => consts = []
  have hm := Machine.ofBound_runsAlike_self (hkept.goesOver disk) n
  exact ((hm.line line self trivial trivial).eq_of_keeping ht).2

theorem lacks {name : Text} (hnames : ∀ line ∈ history, ¬Statement.Names line name) :
    s.Lacks name := by
  refine hs.invariant (State.lacks_initial name) (fun line hmem disk n self t ht => ?_) ?_ ?_
  · exact ht.line disk n (hnames line hmem) self
  · exact fun _ _ h => ⟨h.orderly, h.unnamed, h.vars⟩
  · exact fun _ _ h => ⟨h.orderly, h.unnamed, h.vars⟩

theorem afterLines {disk : Disk} {n : Nat} {lines : List Text}
    (h : s.linesFinish disk n lines = true) :
    ReachedBy (history ++ lines) (s.afterLines disk n lines) := by
  induction lines generalizing history s with
  | nil => rwa [List.append_nil]
  | cons line rest ih =>
      rw [State.linesFinish, Bool.and_eq_true] at h
      rw [List.append_cons]
      exact ih (.line disk n line none hs h.1) h.2

end ReachedBy

/-- A literal stands for its integer unless its text is the name of a variable, and then for the
value of that. It is such a name only if one of the given lines names it. -/
theorem literals_denote_themselves_unless_named (l : Literal) {history : List Text} {s : State}
    (hs : ReachedBy history s) (disk : Disk) (n : Nat) :
    (Machine.ofBound disk (n + 1)).eval l.text [] none s =
        .ok ((s.vars.get? (some l.text)).getD (.int l.value)) s ∧
      ((s.vars.get? (some l.text)).isSome = true →
        ∃ line ∈ history, Statement.Names line l.text) := by
  constructor
  · have hlookup : s.lookup? [] l.text = s.vars.get? (some l.text) := by
      rw [State.lookup?, hs.consts_eq]
      rfl
    refine (Evaluation.eval_of_atom disk (.ofBound disk n) (.literal l) s).trans ?_
    cases hvalue : s.vars.get? (some l.text) with
    | none => exact Evaluation.atom_of_literal l (hlookup.trans hvalue)
    | some value =>
        change Evaluation.atom l.text [] s = _
        rw [Evaluation.atom, get_bind, hlookup, hvalue]
        rfl
  · intro hbound
    by_contra hnames
    push Not at hnames
    rw [(hs.lacks hnames).vars] at hbound
    simp at hbound

def Literal.five (isNegative : Bool) : Literal :=
  ⟨isNegative, "5", by decide, by decide, by decide⟩

/-- An assignment, and a loop that binds the text of a literal. -/
def loopOverFive : State :=
  State.initial.afterLines .empty 8 ["tyrt x = 7", "entr_i 5 ty 1:2 \x7b", "\x7d"]

theorem literals_denote_themselves_unless_named_loop :
    (Machine.ofBound .empty 1).eval "5" [] none loopOverFive = .ok (.int 2) loopOverFive ∧
      (∃ line ∈ (["tyrt x = 7", "entr_i 5 ty 1:2 \x7b", "\x7d"] : List Text),
        Statement.Names line "5") ∧
      (Machine.ofBound .empty 1).eval "-5" [] none loopOverFive = .ok (.int (-5)) loopOverFive := by
  have hreached : ReachedBy ["tyrt x = 7", "entr_i 5 ty 1:2 \x7b", "\x7d"] loopOverFive :=
    .afterLines .initial (by decide +kernel)
  have hnamed : loopOverFive.vars.get? (some (Literal.five false).text) = some (.int 2) := by
    decide +kernel
  have hfree : loopOverFive.vars.get? (some (Literal.five true).text) = none := by
    decide +kernel
  obtain ⟨hfive, horigin⟩ := literals_denote_themselves_unless_named (.five false) hreached .empty 0
  obtain ⟨hminus, _⟩ := literals_denote_themselves_unless_named (.five true) hreached .empty 0
  rw [hnamed] at hfive horigin
  rw [hfree] at hminus
  exact ⟨hfive, horigin rfl, hminus⟩

def fiveAssigned : State := State.initial.afterLines .empty 8 ["tyrt 5 = 7"]

theorem literal_that_is_assigned :
    ReachedBy ["tyrt 5 = 7"] fiveAssigned ∧ (Literal.five false).value = 5 ∧
      (Machine.ofBound .empty 1).eval (Literal.five false).text [] none fiveAssigned =
        .ok (.int 7) fiveAssigned :=
  ⟨.afterLines .initial (by decide +kernel), by decide, rfl⟩

end LineScript
