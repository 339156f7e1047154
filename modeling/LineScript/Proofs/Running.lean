import LineScript.Proofs.Observer

namespace LineScript

open Exec

/-- The constants and the number of the line are written by no line. -/
theorem Comparison.keptByExecution_steady (P : Variables → Nat → Prop) :
    (keeping fun s => P s.consts s.lineNumber).KeptByExecution where
  self_none := trivial
  agrees := by rintro s _ ⟨rfl, _⟩; exact .refl s
  lists := by rintro s _ items - ⟨rfl, h⟩; exact ⟨rfl, h⟩
  dicts := by rintro s _ entries - ⟨rfl, h⟩; exact ⟨rfl, h⟩
  object := by rintro _ _ s _ name methods _ _ ⟨rfl, h⟩; exact ⟨rfl, h⟩
  routine _ _ _ _ := trivial
  method _ _ := ⟨trivial, fun _ _ => trivial⟩
  spent := by rintro s _ n ⟨rfl, h⟩ _; exact ⟨rfl, h⟩
  body_lines _ _ := trivial
  vars := by rintro s _ own ⟨rfl, h⟩; exact ⟨rfl, h⟩
  faultCount := by rintro s _ n ⟨rfl, h⟩; exact ⟨rfl, h⟩
  output := by rintro s _ o ⟨rfl, h⟩; exact ⟨rfl, h⟩
  body := by rintro s _ ⟨rfl, h⟩; exact ⟨rfl, h⟩
  named _ := trivial
  blocks := by rintro s _ blocks ⟨rfl, h⟩ _ _; exact ⟨rfl, h⟩
  stored := by rintro s _ id line ⟨rfl, h⟩ _ _ _; exact .ok () ⟨rfl, h⟩
  field := by rintro s _ address field value ⟨rfl, h⟩ _; exact .ok () ⟨rfl, h⟩
  function := by rintro s _ ⟨rfl, h⟩ _; exact .ok () ⟨rfl, h⟩
  classDef := by rintro s _ ⟨rfl, h⟩ _; exact .ok () ⟨rfl, h⟩
  classMethod := by rintro s _ ⟨rfl, h⟩ _ _; exact .ok () ⟨rfl, h⟩

theorem Machine.lineNumber_line (disk : Disk) (n : Nat) (source : Text) (self : Option Address)
    (s : State) : (after ((ofBound disk n).line source self) s).lineNumber = s.lineNumber := by
  have hkept := Comparison.keptByExecution_steady fun _ number => number = s.lineNumber
  have hm := ofBound_runsAlike_self (hkept.goesOver disk) n
  exact ((hm.line source self trivial trivial).eq_of_keeping rfl).2

theorem Machine.line_congr (disk : Disk) (n : Nat) {source source' : Text}
    (h : Text.strip source = Text.strip source') (self : Option Address) :
    (ofBound disk n).line source self = (ofBound disk n).line source' self := by
  cases n with
  | zero => rfl
  | succ n =>
      change Execution.line _ _ _ _ = Execution.line _ _ _ _
      rw [Execution.line_eq, Execution.line_eq, h]

namespace Source

/-- Prints what stands before the output of the lines. -/
def opening (banner : Option Text) : Exec Unit := do
  match banner with
  | some banner => printLine banner
  | none => pure ()
  printLine []
  printLine "--- TyrtLang Interpreter V34.0 (Completo) Iniciado ---"

/-- Executes lines, reports the fault that ends them, and prints what stands after their output. -/
def runAll (m : Machine) (lines : List Text) : Exec Unit := do
  rescue (runLines m 0 lines) report
  printLine "--- TyrtLang Finalizado ---"
  printLine []

def title : String := "\n--- TyrtLang Interpreter V34.0 (Completo) Iniciado ---\n"

def closing : String := "--- TyrtLang Finalizado ---\n\n"

theorem opening_some (banner : Text) (s : State) :
    opening (some banner) s =
      .ok () { s with output := s.output ++ String.ofList (banner ++ ['\n']) ++ title } := by
  change EStateM.Result.ok () { s with output := s.output ++ _ ++ _ ++ _ } = _
  rw [String.append_assoc]
  rfl

variable {disk : Disk} {m : Machine}

theorem run_eq {source : Source} {banner : Option Text} {lines : List Text}
    (hload : load disk source = .lines banner lines) :
    run disk m source = (do opening banner; runAll m lines) := by
  rw [run, hload]
  cases banner with
  | some banner => simp only [opening, runAll, bind_assoc]
  | none => simp only [opening, runAll, bind_assoc]

def textBanner : String := "--- TyrtLang: Executando código em string ---\n"

theorem load_text {t : Text} (h : isPath t = false) :
    load disk (.text t) =
      .lines (some "--- TyrtLang: Executando código em string ---") (Text.splitAll '\n' t) := by
  simp [load, h]

theorem opening_text (s : State) :
    opening (some "--- TyrtLang: Executando código em string ---") s =
      .ok () { s with output := s.output ++ textBanner ++ title } :=
  opening_some _ s

theorem run_text {t : Text} (h : isPath t = false) (s : State) :
    run disk m (.text t) s =
      runAll m (Text.splitAll '\n' t) { s with output := s.output ++ textBanner ++ title } := by
  rw [run_eq (load_text h), bind_of_ok (opening_text s)]

/-- The report of a fault that has ended a run at the line with the given number. -/
def reportText (cause : Fault) (number : Nat) : String :=
  "\n" ++ (if cause.isFailure then "ERRO DE EXECUÇÃO NÃO TRATADO (Linha "
    else "ERRO INTERNO DO INTERPRETADOR (Linha ") ++
    toString number ++ "): " ++ String.ofList cause.kind ++ ": " ++ String.ofList cause.message ++
    "\n"

theorem report_eq {cause : Fault} (h : cause.worded = cause) (s : State) :
    report cause s =
      .ok () { s with output := s.output ++ reportText cause s.lineNumber } := by
  have hdigits : String.ofList (Numeral.digits s.lineNumber) = toString s.lineNumber := by
    rw [Numeral.digits_eq]
    rfl
  have hend : String.ofList ['\n'] = "\n" := rfl
  rw [report, if_neg (not_not_intro h)]
  change EStateM.Result.ok () { s with output := s.output ++ "\n" ++ String.ofList (_ ++ _) } = _
  rw [String.append_assoc, reportText]
  congr 3
  simp only [Text.join, List.flatten_cons, List.flatten_nil, List.append_nil, String.ofList_append,
    apply_ite String.ofList, String.ofList_toList, hdigits, hend, String.append_assoc]

theorem ending_eq (s : State) :
    (do printLine "--- TyrtLang Finalizado ---"; printLine [] : Exec Unit) s =
      .ok () { s with output := s.output ++ closing } := by
  change EStateM.Result.ok () { s with output := s.output ++ _ ++ _ } = _
  rw [String.append_assoc]
  rfl

theorem runAll_of_ok {lines : List Text} {s t : State} (h : runLines m 0 lines s = .ok () t) :
    runAll m lines s = .ok () { t with output := t.output ++ closing } := by
  rw [runAll, bind_of_ok (rescue_of_ok h report), ending_eq]

theorem runAll_of_error {lines : List Text} {s t : State} {cause : Fault}
    (h : runLines m 0 lines s = .error (.fault cause) t) (hworded : cause.worded = cause) :
    runAll m lines s =
      .ok () { t with output := t.output ++ reportText cause t.lineNumber ++ closing } := by
  have hreported : rescue (runLines m 0 lines) report s = report cause t := by
    rw [rescue, h]
  rw [runAll, bind_of_ok (hreported.trans (report_eq hworded t)), ending_eq]

theorem runLines_append (count : Nat) (lines rest : List Text) :
    runLines m count (lines ++ rest) = (do
      runLines m count lines
      runLines m (count + lines.length) rest) := by
  induction lines generalizing count with
  | nil => simp [runLines]
  | cons line lines ih =>
      simp only [List.cons_append, runLines, ih, bind_assoc, List.length_cons]
      rw [Nat.add_assoc, Nat.add_comm 1]

theorem runLines_cons (m : Machine) (count : Nat) (line : Text) (rest : List Text) (s : State) :
    runLines m count (line :: rest) s =
      (m.line line none >>= fun _ => runLines m (count + 1) rest)
        { s with lineNumber := count + 1 } := rfl

theorem runLines_of_error {count : Nat} {before rest : List Text} {line : Text} {s t u : State}
    {halt : Halt} (hbefore : runLines m count before s = .ok () t)
    (hline : m.line line none { t with lineNumber := count + before.length + 1 } = .error halt u) :
    runLines m count (before ++ line :: rest) s = .error halt u := by
  rw [runLines_append, bind_of_ok hbefore, runLines_cons, bind_of_error hline]

theorem runLines_congr (n count : Nat) {lines lines' : List Text}
    (h : lines.map Text.strip = lines'.map Text.strip) :
    runLines (Machine.ofBound disk n) count lines =
      runLines (Machine.ofBound disk n) count lines' := by
  induction lines generalizing count lines' with
  | nil =>
      rw [List.map_nil, eq_comm, List.map_eq_nil_iff] at h
      rw [h]
  | cons line lines ih =>
      cases lines' with
      | nil => simp at h
      | cons line' lines' =>
          simp only [List.map_cons, List.cons.injEq] at h
          rw [runLines, runLines, Machine.line_congr disk n h.1, ih (count + 1) h.2]

theorem runLines_blank (n count : Nat) {s : State} (hs : s.allowance = none) :
    runLines (Machine.ofBound disk (n + 1)) count [[]] s =
      .ok () { s with lineNumber := count + 1 } := by
  have hspend : spend { s with lineNumber := count + 1 } =
      .ok () { s with lineNumber := count + 1 } := spend_of_unlimited hs
  change (Execution.line _ n [] none >>= fun _ => pure ()) { s with lineNumber := count + 1 } = _
  rw [bind_pure_unit, Execution.line_eq, bind_of_ok hspend]
  rfl

theorem lineNumber_of_runLines {n count : Nat} {lines : List Text} {s t : State}
    (hlines : lines ≠ []) (h : runLines (Machine.ofBound disk n) count lines s = .ok () t) :
    t.lineNumber = count + lines.length := by
  induction lines generalizing count s with
  | nil => exact absurd rfl hlines
  | cons line rest ih =>
      rw [runLines] at h
      change ((Machine.ofBound disk n).line line none >>= fun _ => runLines _ (count + 1) rest)
        { s with lineNumber := count + 1 } = .ok () t at h
      have hnumber := Machine.lineNumber_line disk n line none { s with lineNumber := count + 1 }
      cases hline : (Machine.ofBound disk n).line line none { s with lineNumber := count + 1 } with
      | error halt u => simp [bind_of_error hline] at h
      | ok _ u =>
          rw [bind_of_ok hline] at h
          rw [after, hline] at hnumber
          cases rest with
          | nil =>
              cases h
              exact hnumber
          | cons next rest =>
              rw [ih (List.cons_ne_nil next rest) h, List.length_cons (a := line)]
              omega

/-- The lines that the run of a source executes, unless a fault ends it before. -/
def lines (disk : Disk) (source : Source) : List Text :=
  match load disk source with
  | .lines _ lines => lines
  | .refused _ => []

section

variable {P : State → Prop} (hnumber : ∀ s n, P s → P { s with lineNumber := n })

include hnumber

theorem after_runLines {lines : List Text}
    (hline : ∀ line ∈ lines, ∀ s, P s → P (after (m.line line none) s)) (count : Nat) {s : State}
    (hs : P s) : P (after (runLines m count lines) s) := by
  induction lines generalizing count s with
  | nil => exact hs
  | cons line rest ih =>
      rw [after, runLines_cons]
      refine after_bind (hline line List.mem_cons_self _ (hnumber s (count + 1) hs)) ?_
      intro _ t ht
      exact ih (fun line hmem => hline line (List.mem_cons_of_mem _ hmem)) (count + 1) ht

theorem after_run {source : Source}
    (hline : ∀ line ∈ lines disk source, ∀ s, P s → P (after (m.line line none) s))
    (houtput : ∀ s o, P s → P { s with output := o }) {s : State} (hs : P s) :
    P (after (run disk m source) s) := by
  have hprint (t : Text) (s : State) (hs : P s) : P (after (printLine t) s) := houtput s _ hs
  have hreport (cause : Fault) (s : State) (hs : P s) : P (after (report cause) s) := by
    rw [report]
    split
    · exact hs
    · exact after_bind (hprint [] s hs) fun _ t ht => houtput t _ ht
  have hopening (banner : Option Text) : P (after (opening banner) s) := by
    cases banner with
    | some banner => exact houtput s _ hs
    | none => exact houtput s _ hs
  unfold lines at hline
  cases hload : load disk source with
  | refused message =>
      rw [run, hload]
      exact hprint message s hs
  | lines banner lines =>
      rw [hload] at hline
      rw [run_eq hload]
      refine after_bind (hopening banner) fun _ t ht => ?_
      refine after_bind (after_rescue (after_runLines hnumber hline 0 ht) hreport) ?_
      intro _ u hu
      exact after_bind (hprint _ u hu) fun _ v hv => hprint _ v hv

end

end Source

theorem Comparison.KeptBySources.runAll {c : Comparison} (hc : c.KeptBySources) {m m' : Machine}
    (hm : m.RunsAlike c m') {lines : List Text} (hlines : ∀ line ∈ lines, c.lines line) :
    Alike c (Source.runAll m lines) (Source.runAll m' lines) := by
  refine ((hc.runSource hm 0 lines hlines).rescue hc.report).bind fun _ => ?_
  exact (hc.printLine _).bind fun _ => hc.printLine _

end LineScript
