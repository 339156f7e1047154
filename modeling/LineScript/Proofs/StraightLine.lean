import LineScript.Proofs.Bound
import LineScript.Proofs.Command

namespace LineScript

open Exec

/-- Commands, one on each line. -/
abbrev Script := List Command

/-- What is left at the end of a script. -/
structure Outcome where
  scope : Scope
  printed : List Scalar
  /-- The number of the last line that was executed. -/
  line : Nat
  /-- The name without a value that the last line reads, if it does. -/
  undefined? : Option Identifier

def Outcome.afterPrinting (v : Scalar) (o : Outcome) : Outcome :=
  { o with printed := v :: o.printed }

namespace Script

def text (script : Script) : Text := Text.joinWith ['\n'] (script.map Command.text)

/-- What the commands that follow the given number of lines do. They end at the first one that reads
a name without a value. -/
def outcomeFrom (scope : Scope) (count : Nat) : Script → Outcome
  | [] => ⟨scope, [], count, none⟩
  | command :: rest =>
      match command.source.result scope with
      | .error y => ⟨scope, [], count + 1, some y⟩
      | .ok v =>
          match command with
          | .assign x _ => outcomeFrom (Function.update scope x (some v)) (count + 1) rest
          | .print _ => (outcomeFrom scope (count + 1) rest).afterPrinting v

/-- What a script does where no name has a value. One without commands is an empty line. -/
def outcome : Script → Outcome
  | [] => ⟨fun _ => none, [], 1, none⟩
  | script => outcomeFrom (fun _ => none) 0 script

end Script

namespace Outcome

/-- The values that are printed, each on its line. -/
def lines (o : Outcome) : String := String.join (o.printed.map fun v => v.shown ++ "\n")

def report (o : Outcome) : String :=
  match o.undefined? with
  | none => ""
  | some x =>
      "\nERRO DE EXECUÇÃO NÃO TRATADO (Linha " ++ toString o.line ++
        "): VariableNotDefined: Expressão/Variável inválida: " ++ String.ofList x.text ++ "\n"

end Outcome

namespace Script

theorem outcomeFrom_of_error {command : Command} {scope : Scope} {y : Identifier}
    (h : command.source.result scope = .error y) (count : Nat) (rest : Script) :
    outcomeFrom scope count (command :: rest) = ⟨scope, [], count + 1, some y⟩ := by
  rw [outcomeFrom, h]

theorem outcomeFrom_assign {x : Identifier} {c : Chain} {scope : Scope} {v : Scalar}
    (h : (Command.assign x c).source.result scope = .ok v) (count : Nat) (rest : Script) :
    outcomeFrom scope count (.assign x c :: rest) =
      outcomeFrom (Function.update scope x (some v)) (count + 1) rest := by
  rw [outcomeFrom, h]

theorem outcomeFrom_print {c : Chain} {scope : Scope} {v : Scalar}
    (h : (Command.print c).source.result scope = .ok v) (count : Nat) (rest : Script) :
    outcomeFrom scope count (.print c :: rest) =
      (outcomeFrom scope (count + 1) rest).afterPrinting v := by
  rw [outcomeFrom, h]

end Script

/-- Lines that were executed after the given output end as an outcome says. -/
def Outcome.Reached (o : Outcome) (output : String) (result : EStateM.Result Halt State Unit) :
    Prop :=
  ∃ vars : Variables, (∀ name, vars.get? name = o.scope.get? name) ∧
    result =
      match o.undefined? with
      | none => .ok () (.straight vars o.line (output ++ o.lines))
      | some y =>
          .error (.fault (.undefinedExpression y.text))
            (.straight vars o.line (output ++ o.lines))

theorem Outcome.Reached.afterPrinting {o : Outcome} {v : Scalar} {output : String}
    {result : EStateM.Result Halt State Unit} (h : o.Reached (output ++ (v.shown ++ "\n")) result) :
    (o.afterPrinting v).Reached output result := by
  have hlines : output ++ (o.afterPrinting v).lines = output ++ (v.shown ++ "\n") ++ o.lines := by
    rw [lines, Outcome.afterPrinting, List.map_cons, String.join_cons, ← lines,
      ← String.append_assoc]
  obtain ⟨vars, hvars, hresult⟩ := h
  refine ⟨vars, hvars, ?_⟩
  rw [hlines]
  exact hresult

/-- The lines of a script do what its commands mean. -/
theorem Script.runLines_text (disk : Disk) {k : Nat} {script : Script}
    (hk : ∀ command ∈ script, command.source.rest.length < k) {scope : Scope} {count : Nat}
    (hshort : ∀ v ∈ (script.outcomeFrom scope count).printed, v.IsShort) {vars : Variables}
    (hvars : ∀ name, vars.get? name = scope.get? name) (output : String) :
    (script.outcomeFrom scope count).Reached output
      (Source.runLines (Machine.ofBound disk (k + 1)) count (script.map Command.text)
        (.straight vars count output)) := by
  induction script generalizing scope count vars output with
  | nil =>
      refine ⟨vars, hvars, ?_⟩
      simp only [outcomeFrom, Outcome.lines, List.map_nil, String.join_nil, String.append_empty]
      rfl
  | cons command rest ih =>
      have hfirst := hk command List.mem_cons_self
      have hrest : ∀ command ∈ rest, command.source.rest.length < k :=
        fun command hmem => hk command (List.mem_cons_of_mem _ hmem)
      have hcons : Source.runLines (Machine.ofBound disk (k + 1)) count
          ((command :: rest).map Command.text) (.straight vars count output) =
          ((Machine.ofBound disk (k + 1)).line command.text none >>= fun _ =>
            Source.runLines (Machine.ofBound disk (k + 1)) (count + 1) (rest.map Command.text))
          (.straight vars (count + 1) output) := rfl
      rw [hcons]
      -- The variables and the output so far go into the hypothesis for the rest.
      cases hresult : command.source.result scope with
      | error y =>
          rw [bind_of_error (Command.line_of_error hvars hfirst hresult (count + 1) output),
            outcomeFrom_of_error hresult]
          refine ⟨vars, hvars, ?_⟩
          simp [Outcome.lines]
      | ok v =>
          cases command with
          | assign x c =>
              rw [outcomeFrom_assign hresult] at hshort ⊢
              rw [bind_of_ok (Command.line_assign hvars hfirst hresult (count + 1) output)]
              exact ih hrest hshort (Scope.get?_update hvars x v) output
          | print c =>
              rw [outcomeFrom_print hresult] at hshort ⊢
              obtain ⟨hv, hafter⟩ := List.forall_mem_cons.mp hshort
              rw [bind_of_ok (Command.line_print hvars hfirst hresult hv (count + 1) output)]
              exact (ih hrest hafter hvars _).afterPrinting

namespace Script

theorem not_mem_text {d : Char} (hatomic : Text.isAtomic d = false)
    (hsign : d ∉ ("\n +=><|[]" : Text)) (script : Script) : d ∉ script.text := by
  have hnewline : d ≠ '\n' := fun h => hsign (by simp [h])
  have hcommand := Command.not_mem_text hatomic fun h => hsign (List.mem_cons_of_mem _ h)
  induction script with
  | nil => simp [text, Text.joinWith]
  | cons command rest ih =>
      cases rest with
      | nil => simpa [text, Text.joinWith] using hcommand command
      | cons next rest =>
          rw [text, List.map_cons, List.map_cons, Text.joinWith, List.intercalate_cons_cons,
            ← Text.joinWith, ← List.map_cons, ← text]
          simp [hcommand command, hnewline, ih]

theorem isPath_text (script : Script) : Source.isPath script.text = false := by
  have hpoint := not_mem_text (d := '.') (by decide) (by decide) script
  have hslash := not_mem_text (d := '/') (by decide) (by decide) script
  have hbackslash := not_mem_text (d := '\\') (by decide) (by decide) script
  have hextension : Source.hasExtension script.text = false := by
    rw [Source.hasExtension, List.any_eq_false]
    intro ending hending hsuffix
    have hmem : '.' ∈ ending := by
      have hall : ∀ ending ∈ Source.extensions, '.' ∈ ending := by decide
      exact hall ending hending
    exact hpoint ((List.isSuffixOf_iff_suffix.mp hsuffix).subset hmem)
  simp [Source.isPath, hextension, hslash, hbackslash]

theorem splitAll_text {script : Script} (h : script ≠ []) :
    Text.splitAll '\n' script.text = script.map Command.text := by
  refine Text.splitAll_joinWith (by simpa using h) fun line hline => ?_
  obtain ⟨command, _, rfl⟩ := List.mem_map.mp hline
  exact Command.not_mem_text (by decide) (by decide) command

theorem exists_bound (script : Script) :
    ∃ k, ∀ command ∈ script, command.source.rest.length < k := by
  induction script with
  | nil => exact ⟨0, by simp⟩
  | cons command rest ih =>
      obtain ⟨k, hk⟩ := ih
      refine ⟨max (command.source.rest.length + 1) k, fun other hother => ?_⟩
      rcases List.mem_cons.mp hother with rfl | hother
      · omega
      · have := hk other hother
        omega

theorem runLines_splitAll (disk : Disk) {k : Nat} {script : Script}
    (hk : ∀ command ∈ script, command.source.rest.length < k)
    (hshort : ∀ v ∈ script.outcome.printed, v.IsShort) (output : String) :
    script.outcome.Reached output
      (Source.runLines (Machine.ofBound disk (k + 1)) 0 (Text.splitAll '\n' script.text)
        (.straight [] 0 output)) := by
  have hnone (name : Name) :
      Table.get? name ([] : Variables) = Scope.get? (fun _ => none) name := by
    cases name with
    | none => rfl
    | some t => simp [Table.get?, Scope.get?]
  cases script with
  | nil =>
      refine ⟨[], hnone, ?_⟩
      have hblank : Text.splitAll '\n' (text []) = [[]] := rfl
      rw [hblank, Source.runLines_blank k 0 rfl]
      simp only [outcome, Outcome.lines, List.map_nil, String.join_nil, String.append_empty]
      rfl
  | cons command rest =>
      rw [splitAll_text (List.cons_ne_nil command rest)]
      exact runLines_text disk hk hshort hnone output

end Script

theorem Outcome.reportText_eq {o : Outcome} {y : Identifier} (h : o.undefined? = some y) :
    Source.reportText (.undefinedExpression y.text) o.line = o.report := by
  have hkind : String.ofList (Fault.undefinedExpression y.text).kind = "VariableNotDefined" := rfl
  have hmessage : String.ofList (Fault.undefinedExpression y.text).message =
      "Expressão/Variável inválida: " ++ String.ofList y.text := by
    have hparts : (Fault.undefinedExpression y.text).message =
        Text.join ["Expressão/Variável inválida: ", y.text] := rfl
    rw [hparts, Text.join]
    simp only [List.flatten_cons, List.flatten_nil, List.append_nil, String.ofList_append,
      String.ofList_toList]
  have hlead : "\nERRO DE EXECUÇÃO NÃO TRATADO (Linha " =
      "\n" ++ "ERRO DE EXECUÇÃO NÃO TRATADO (Linha " := by decide +kernel
  have hmiddle : "): VariableNotDefined: Expressão/Variável inválida: " =
      "): " ++ ("VariableNotDefined" ++ (": " ++ "Expressão/Variável inválida: ")) := by
    decide +kernel
  have hfailure : (Fault.undefinedExpression y.text).isFailure = true := rfl
  rw [report, h, Source.reportText]
  simp only [hkind, hmessage, hlead, hmiddle, hfailure, if_true, String.append_assoc]

theorem Outcome.Reached.runAll {o : Outcome} {output : String} {m : Machine} {lines : List Text}
    {s : State} (h : o.Reached output (Source.runLines m 0 lines s)) :
    ∃ vars : Variables, (∀ name, vars.get? name = o.scope.get? name) ∧
      Source.runAll m lines s =
        .ok () (.straight vars o.line (output ++ o.lines ++ o.report ++ Source.closing)) := by
  obtain ⟨vars, hvars, hresult⟩ := h
  refine ⟨vars, hvars, ?_⟩
  cases hundefined : o.undefined? with
  | none =>
      rw [hundefined] at hresult
      rw [Source.runAll_of_ok hresult, report, hundefined]
      simp [State.straight]
  | some y =>
      rw [hundefined] at hresult
      rw [Source.runAll_of_error hresult rfl]
      simp [State.straight, reportText_eq hundefined]

/-- The run of a script binds and prints the values of its terms, and ends with a report at the
first line that reads a name without a value, which names the leftmost one. -/
theorem script_means_its_terms (disk : Disk) (script : Script)
    (hshort : ∀ v ∈ script.outcome.printed, v.IsShort) :
    ∃ vars least, (∀ name, Table.get? name vars = script.outcome.scope.get? name) ∧
      ∀ n ≥ least, Source.run disk (Machine.ofBound disk n) (.text script.text) .initial =
        .ok () { State.initial with
          vars := vars
          lineNumber := script.outcome.line
          output := Source.textBanner ++ Source.title ++ script.outcome.lines ++
            script.outcome.report ++ Source.closing } := by
  obtain ⟨k, hk⟩ := script.exists_bound
  obtain ⟨vars, hvars, hall⟩ :=
    (script.runLines_splitAll disk hk hshort (Source.textBanner ++ Source.title)).runAll
  have hrun : Source.run disk (Machine.ofBound disk (k + 1)) (.text script.text) .initial =
      .ok () (.straight vars script.outcome.line (Source.textBanner ++ Source.title ++
        script.outcome.lines ++ script.outcome.report ++ Source.closing)) := by
    rw [Source.run_text script.isPath_text, ← hall]
    change Source.runAll _ _ (.straight [] 0 ("" ++ Source.textBanner ++ Source.title)) = _
    rw [String.empty_append]
  -- A run that has come to its end is the same at every greater bound.
  refine ⟨vars, k + 1, hvars, fun n hn => ?_⟩
  have hfin : finishes (Source.run disk (Machine.ofBound disk (k + 1)) (.text script.text))
      .initial = true := by
    rw [finishes, hrun]
  rw [Machine.run_eq_of_finishes disk hn hfin, hrun]
  rfl

/-- Sums and comparisons in either order, a name that is bound twice, and a line that reads two
names without a value. -/
def sumsAndComparisons : Script :=
  let a : Identifier := ⟨"a", by decide⟩
  let b : Identifier := ⟨"b", by decide⟩
  let zero : Literal := ⟨false, "0", by decide, by decide, by decide⟩
  let two : Literal := ⟨false, "2", by decide, by decide, by decide⟩
  let minusNine : Literal := ⟨true, "09", by decide, by decide, by decide⟩
  [.assign a ⟨.literal two, [(.add, .literal two), (.less, .literal two)]⟩,
    .assign b ⟨.name a, [(.greater, .literal zero), (.equal, .literal minusNine)]⟩,
    .print ⟨.name b, [(.less, .name a), (.add, .name a), (.add, .literal minusNine)]⟩,
    .assign a ⟨.literal minusNine, []⟩,
    .print ⟨.name a, [(.add, .name ⟨"u", by decide⟩), (.equal, .name ⟨"w", by decide⟩)]⟩,
    .assign b ⟨.literal zero, []⟩]

theorem script_means_its_terms_sums :
    sumsAndComparisons.text =
        ("tyrt a = 2 + 2 < 2\ntyrt b = a > 0 == -09\nprint|[ b < a + a + -09 ]\ntyrt a = -09\n" ++
          "print|[ a + u == w ]\ntyrt b = 0" : String).toList ∧
      sumsAndComparisons.outcome.printed = [.int (-6)] ∧
      sumsAndComparisons.outcome.report =
        "\nERRO DE EXECUÇÃO NÃO TRATADO (Linha 5): VariableNotDefined: " ++
          "Expressão/Variável inválida: u\n" ∧
      (∀ v ∈ sumsAndComparisons.outcome.printed, v.IsShort) ∧
      ∃ vars least,
        (∀ name, Table.get? name vars = sumsAndComparisons.outcome.scope.get? name) ∧
        ∀ n ≥ least,
          Source.run .empty (Machine.ofBound .empty n) (.text sumsAndComparisons.text) .initial =
            .ok () { State.initial with
              vars := vars
              lineNumber := sumsAndComparisons.outcome.line
              output := Source.textBanner ++ Source.title ++ sumsAndComparisons.outcome.lines ++
                sumsAndComparisons.outcome.report ++ Source.closing } :=
  ⟨by decide +kernel, by decide +kernel, by decide +kernel, by decide +kernel,
    script_means_its_terms .empty sumsAndComparisons (by decide +kernel)⟩

end LineScript
