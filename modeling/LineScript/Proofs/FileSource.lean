import LineScript.Proofs.Decoding
import LineScript.Proofs.Running
import LineScript.Proofs.Stripping

/-!
A text runs in the same way from a file as by itself. The lines of a file keep their newlines, and
the text by itself has one empty line more if it ends with a newline; but blanks around a line do
not matter, and an empty line does nothing. What is printed before the lines is different, and no
line reads what has been printed.
-/

namespace LineScript

open Exec

namespace Text

theorem unifyNewlines_eq_self {t : Text} (h : '\r' ∉ t) : unifyNewlines t = t := by
  fun_induction unifyNewlines t with
  | case1 => rfl
  | case2 t => simp at h
  | case3 c t _ ih =>
      rw [List.mem_cons, not_or] at h
      rw [if_neg (Ne.symm h.1), ih h.2]

def chop (line : Text) : Text := if line.getLast? = some '\n' then line.dropLast else line

theorem chop_cons {c : Char} (hc : c ≠ '\n') (line : Text) : chop (c :: line) = c :: chop line := by
  cases line with
  | nil => simp [chop, hc]
  | cons d line =>
      rw [chop, chop, List.getLast?_cons_cons, List.dropLast_cons_cons]
      split <;> rfl

theorem strip_chop (line : Text) : strip (chop line) = strip line := by
  rw [chop]
  split
  · rename_i hlast
    obtain ⟨start, rfl⟩ := List.getLast?_eq_some_iff.mp hlast
    have hblank : ∀ c ∈ ['\n'], isBlank c = true := List.forall_mem_singleton.mpr (by decide)
    rw [List.dropLast_concat, strip_append_right hblank]
  · rfl

theorem linesKept_ne_nil {t : Text} (h : t ≠ []) : linesKept t ≠ [] := by
  intro hlines
  have hjoin := join_linesKept t
  rw [hlines] at hjoin
  exact h hjoin.symm

/-- The lines of a text that are cut at the newlines are those that keep them, and an empty one
where nothing follows the last newline. -/
theorem splitAll_newline (t : Text) :
    splitAll '\n' t =
      (linesKept t).map chop ++ if t.getLast?.getD '\n' = '\n' then [[]] else [] := by
  induction t with
  | nil => rfl
  | cons c t ih =>
      by_cases hc : c = '\n'
      · have hlast : (c :: t).getLast?.getD '\n' = t.getLast?.getD '\n' := by
          cases t with
          | nil => simpa using hc
          | cons d t => rw [List.getLast?_cons_cons]
        rw [hlast, splitAll, linesKept, if_pos hc, if_pos hc, ih, hc]
        rfl
      · cases t with
        | nil => simp [splitAll, linesKept, chop, hc]
        | cons d t =>
            obtain ⟨line, lines, hlines⟩ :=
              List.exists_cons_of_ne_nil (linesKept_ne_nil (List.cons_ne_nil d t))
            rw [splitAll, linesKept, if_neg hc, if_neg hc, ih, hlines, List.getLast?_cons_cons]
            simp only [List.map_cons, List.cons_append, chop_cons hc]

end Text

/-- The same states, but for what stands at the start of the output. -/
def Comparison.printedAfter (p q : String) : Comparison where
  rel s t := t.allowance = none ∧ ∃ o, s = { t with output := p ++ o } ∧ t.output = q ++ o

theorem Comparison.keptBySources_printedAfter (p q : String) :
    (printedAfter p q).KeptBySources where
  self_none := trivial
  agrees := by rintro _ t ⟨_, o, rfl, _⟩; constructor <;> rfl
  lists := by rintro _ t items - ⟨h, o, rfl, ho⟩; exact ⟨h, o, rfl, ho⟩
  dicts := by rintro _ t entries - ⟨h, o, rfl, ho⟩; exact ⟨h, o, rfl, ho⟩
  object := by rintro _ _ _ t name methods _ _ ⟨h, o, rfl, ho⟩; exact ⟨h, o, rfl, ho⟩
  routine _ _ _ _ := trivial
  method _ _ := ⟨trivial, fun _ _ => trivial⟩
  spent := by rintro _ t n ⟨h, o, rfl, _⟩ hspent; exact absurd hspent (by simp [h])
  body_lines _ _ := trivial
  vars := by rintro _ t own ⟨h, o, rfl, ho⟩; exact ⟨h, o, rfl, ho⟩
  faultCount := by rintro _ t n ⟨h, o, rfl, ho⟩; exact ⟨h, o, rfl, ho⟩
  output := by
    rintro _ t more ⟨h, o, rfl, ho⟩
    exact ⟨h, o ++ more, by simp only [String.append_assoc], by rw [ho, String.append_assoc]⟩
  body := by rintro _ t ⟨h, o, rfl, ho⟩; exact ⟨h, o, rfl, ho⟩
  named _ := trivial
  blocks := by rintro _ t blocks ⟨h, o, rfl, ho⟩ _ _; exact ⟨h, o, rfl, ho⟩
  stored := by rintro _ t id line ⟨h, o, rfl, ho⟩ _ _ _; exact .ok () ⟨h, o, rfl, ho⟩
  field := by rintro _ t address field value ⟨h, o, rfl, ho⟩ _; exact .ok () ⟨h, o, rfl, ho⟩
  function := by rintro _ t ⟨h, o, rfl, ho⟩ _; exact .ok () ⟨h, o, rfl, ho⟩
  classDef := by rintro _ t ⟨h, o, rfl, ho⟩ _; exact .ok () ⟨h, o, rfl, ho⟩
  classMethod := by rintro _ t ⟨h, o, rfl, ho⟩ _ _; exact .ok () ⟨h, o, rfl, ho⟩
  lineNumber_eq := by rintro _ t ⟨_, o, rfl, _⟩; rfl
  lineNumber := by rintro _ t n ⟨h, o, rfl, ho⟩; exact ⟨h, o, rfl, ho⟩

theorem Exec.Alike.printedAfter {α : Type} {p q : String} {x y : Exec α}
    (h : Alike (.printedAfter p q) x y) {s t : State} (hs : (Comparison.printedAfter p q).rel s t) :
    halt? x s = halt? y t ∧ (Comparison.printedAfter p q).rel (after x s) (after y t) := by
  have ho := h hs
  unfold after halt?
  generalize x s = o at ho
  generalize y t = o' at ho
  cases ho with
  | ok a hrel => exact ⟨rfl, hrel⟩
  | error halt hrel => exact ⟨rfl, hrel⟩
  | cut _ _ hslack => exact hslack.elim

namespace Source

variable {disk : Disk}

/-- Whether a line of a source stops the run of it. -/
def isStopped (disk : Disk) (m : Machine) (source : Source) (s : State) : Bool :=
  match load disk source with
  | .refused _ => false
  | .lines banner lines => (halt? (do opening banner; runLines m 0 lines) s).isSome

def fileBanner (path : Text) : String :=
  "--- TyrtLang: Carregando arquivo executável '" ++ String.ofList path ++ "' ---\n"

theorem isPath_of_newline {t : Text} (h : '\n' ∈ t) : isPath t = false := by
  simp [isPath, h]

theorem isStopped_text {m : Machine} {t : Text} (h : isPath t = false) (s : State) :
    isStopped disk m (.text t) s =
      (halt? (runLines m 0 (Text.splitAll '\n' t))
        { s with output := s.output ++ textBanner ++ title }).isSome := by
  rw [isStopped, load_text h]
  dsimp only
  rw [halt?_eq_of_eq (bind_of_ok (opening_text s) _)]

theorem run_file {m : Machine} {t path : Text} (hreturn : '\r' ∉ t) (hpath : '\n' ∉ path)
    (hextension : (".tyrt" : Text) <:+ path ∨ (".t" : Text) <:+ path)
    (hfile : disk.content path = .ok (Text.Utf8.encode t)) (s : State) :
    run disk m (.text path) s =
      runAll m (Text.linesKept t) { s with output := s.output ++ fileBanner path ++ title } := by
  have hends : hasExtension path = true := by
    simpa [hasExtension, extensions] using hextension
  have hisPath : isPath path = true := by simp [isPath, hpath, hends]
  have hload : load disk (.text path) =
      .lines (some (Text.join ["--- TyrtLang: Carregando arquivo executável '", path, "' ---"]))
        (Text.linesKept t) := by
    simp [load, hisPath, hends, hfile, Text.Utf8.readByWindow_encode,
      Text.unifyNewlines_eq_self hreturn]
  have hbanner : String.ofList
      (Text.join ["--- TyrtLang: Carregando arquivo executável '", path, "' ---"] ++ ['\n']) =
        fileBanner path := by
    have hend : "' ---\n" = "' ---" ++ String.ofList ['\n'] := rfl
    unfold fileBanner
    simp only [Text.join, List.flatten_cons, List.flatten_nil, List.append_nil, List.append_assoc,
      String.ofList_append, String.ofList_toList, String.append_assoc, hend]
  generalize Text.join _ = banner at hload hbanner
  rw [run_eq hload, bind_of_ok (opening_some banner s), hbanner]

theorem runLines_unlimited (n count : Nat) (lines : List Text) {s : State}
    (hs : s.allowance = none) :
    (after (runLines (Machine.ofBound disk n) count lines) s).allowance = none := by
  have hkept := Comparison.keptBySources_printedAfter s.output s.output
  have hm := Machine.ofBound_runsAlike_self (hkept.goesOver disk) n
  have hrel : (Comparison.printedAfter s.output s.output).rel s s := ⟨hs, "", by simp, by simp⟩
  exact ((hkept.runSource hm count lines fun _ _ => trivial).printedAfter hrel).2.1

theorem runAll_append_blank (n : Nat) {lines : List Text} (hlines : lines ≠ []) {s : State}
    (hs : s.allowance = none) :
    let m := Machine.ofBound disk n
    halt? (runLines m 0 (lines ++ [[]])) s = halt? (runLines m 0 lines) s ∧
      halt? (runAll m (lines ++ [[]])) s = halt? (runAll m lines) s ∧
      after (runAll m (lines ++ [[]])) s =
        { after (runAll m lines) s with
          lineNumber := (after (runAll m lines) s).lineNumber +
            if halt? (runLines m 0 lines) s = none then 1 else 0 } := by
  intro m
  have happend := runLines_append (m := m) 0 lines [[]]
  cases ho : runLines m 0 lines s with
  | error halt u =>
      have herror : runLines m 0 (lines ++ [[]]) s = runLines m 0 lines s := by
        rw [happend, bind_of_error ho, ho]
      have hall : runAll m (lines ++ [[]]) s = runAll m lines s := by
        rw [runAll, runAll]
        refine bind_eq_of_eq ?_ _
        rw [rescue, rescue, herror]
      simp [halt?, after, herror, hall, ho]
  | ok _ u =>
      obtain ⟨k, rfl⟩ : ∃ k, n = k + 1 := by
        cases n with
        | zero =>
            obtain ⟨line, rest, rfl⟩ := List.exists_cons_of_ne_nil hlines
            cases ho
        | succ k => exact ⟨k, rfl⟩
      have hu : u.allowance = none := by
        have hunlimited : (after (runLines m 0 lines) s).allowance = none :=
          runLines_unlimited (k + 1) 0 lines hs
        rwa [after, ho] at hunlimited
      have hnumber : u.lineNumber = lines.length := by
        rw [lineNumber_of_runLines hlines ho, Nat.zero_add]
      have hok : runLines m 0 (lines ++ [[]]) s =
          .ok () { u with lineNumber := lines.length + 1 } := by
        rw [happend, bind_of_ok ho, runLines_blank k _ hu, Nat.zero_add]
      simp [halt?, after, hok, ho, runAll_of_ok ho, runAll_of_ok hok, hnumber]

theorem runLines_splitAll (n : Nat) {t : Text} (h : t ≠ []) :
    runLines (Machine.ofBound disk n) 0 (Text.splitAll '\n' t) =
      runLines (Machine.ofBound disk n) 0
        (Text.linesKept t ++ if t.getLast? = some '\n' then [[]] else []) := by
  have hlast : t.getLast?.getD '\n' = '\n' ↔ t.getLast? = some '\n' := by
    rw [List.getLast?_eq_some_getLast h]
    simp
  refine runLines_congr n 0 ?_
  rw [Text.splitAll_newline]
  simp only [hlast, List.map_append, List.map_map]
  congr 1
  exact List.map_congr_left fun line _ => Text.strip_chop line

theorem run_text_eq_runAll {t : Text} (hnewline : '\n' ∈ t) {s : State} (hs : s.allowance = none)
    (n : Nat) :
    let m := Machine.ofBound disk n
    let start : State := { s with output := s.output ++ textBanner ++ title }
    halt? (run disk m (.text t)) s = halt? (runAll m (Text.linesKept t)) start ∧
      after (run disk m (.text t)) s =
        { after (runAll m (Text.linesKept t)) start with
          lineNumber := (after (runAll m (Text.linesKept t)) start).lineNumber +
            if t.getLast? = some '\n' ∧ isStopped disk m (.text t) s = false then 1 else 0 } := by
  intro m start
  have hne : t ≠ [] := List.ne_nil_of_mem hnewline
  have hpath := isPath_of_newline hnewline
  have hsplit : runLines m 0 (Text.splitAll '\n' t) = _ := runLines_splitAll n hne
  have hrun : run disk m (.text t) s = runAll m (Text.splitAll '\n' t) start := run_text hpath s
  rw [isStopped_text hpath, hsplit, halt?_eq_of_eq hrun, after_eq_of_eq hrun, runAll, hsplit,
    ← runAll]
  by_cases hlast : t.getLast? = some '\n'
  · have hstart : start.allowance = none := hs
    obtain ⟨hlines, hhalt, hafter⟩ := runAll_append_blank n (Text.linesKept_ne_nil hne) hstart
    rw [if_pos hlast]
    refine ⟨hhalt, hafter.trans ?_⟩
    simp [hlast, hlines, m, start]
  · simp [hlast, m]

end Source

/-- A text with a newline and without carriage returns runs from a file as it runs by itself. At
every bound both runs are cut off, stop with the same fault or return. They leave the same state,
but for the first line that they print and the empty line after the last newline, which only the
text by itself has. -/
theorem file_runs_as_its_text {disk : Disk} {t path : Text} (hnewline : '\n' ∈ t)
    (hreturn : '\r' ∉ t) (hpath : '\n' ∉ path)
    (hextension : (".tyrt" : Text) <:+ path ∨ (".t" : Text) <:+ path)
    (hfile : disk.content path = .ok (Text.Utf8.encode t)) {s : State} (hs : s.allowance = none)
    (n : Nat) :
    let m := Machine.ofBound disk n
    let ofText := Source.run disk m (.text t)
    let ofFile := Source.run disk m (.text path)
    halt? ofText s = halt? ofFile s ∧
      ∃ o : String,
        (after ofFile s).output = s.output ++ Source.fileBanner path ++ o ∧
        after ofText s =
          { after ofFile s with
            output := s.output ++ Source.textBanner ++ o
            lineNumber := (after ofFile s).lineNumber +
              if t.getLast? = some '\n' ∧ Source.isStopped disk m (.text t) s = false
              then 1 else 0 } := by
  intro m ofText ofFile
  obtain ⟨hhalt, hafter⟩ := Source.run_text_eq_runAll hnewline hs n
  -- From the banners on, what the lines do is the same.
  have hkept := Comparison.keptBySources_printedAfter (s.output ++ Source.textBanner)
    (s.output ++ Source.fileBanner path)
  have hm := Machine.ofBound_runsAlike_self (hkept.goesOver disk) n
  have hsame := hkept.runAll hm fun line (_ : line ∈ Text.linesKept t) => trivial
  have hrun : ofFile s = _ := Source.run_file hreturn hpath hextension hfile s
  have hstart : (Comparison.printedAfter _ _).rel
      { s with output := s.output ++ Source.textBanner ++ Source.title }
      { s with output := s.output ++ Source.fileBanner path ++ Source.title } :=
    ⟨hs, Source.title, rfl, rfl⟩
  obtain ⟨hsameHalt, _, o, hstate, hprinted⟩ := hsame.printedAfter hstart
  rw [halt?_eq_of_eq hrun, after_eq_of_eq hrun]
  refine ⟨hhalt.trans hsameHalt, o, hprinted, ?_⟩
  rw [hafter, hstate]

/-- A function with its call, on lines that all end with a newline. -/
def callOnLines : Text := "func f(a) \x7b\nprint|[ a ]\n\x7d\ntyrt x = f(2)\n"

/-- The disk with these lines at an absolute path. -/
def diskOfCall : Disk := Disk.empty.withFile "/tmp/call.t" (Text.Utf8.encode callOnLines)

theorem file_runs_as_its_text_call :
    ('\n' ∈ callOnLines ∧ '\r' ∉ callOnLines ∧ '\n' ∉ ("/tmp/call.t" : Text) ∧
        (".t" : Text) <:+ ("/tmp/call.t" : Text) ∧
        diskOfCall.content "/tmp/call.t" = .ok (Text.Utf8.encode callOnLines)) ∧
      (callOnLines.getLast? = some '\n' ∧
        Source.isStopped diskOfCall (Machine.ofBound diskOfCall 9) (.text callOnLines) .initial =
          false) ∧
      (after (Source.run diskOfCall (Machine.ofBound diskOfCall 9) (.text callOnLines))
          .initial).lineNumber =
        (after (Source.run diskOfCall (Machine.ofBound diskOfCall 9) (.text "/tmp/call.t"))
          .initial).lineNumber + 1 := by
  have hinput : '\n' ∈ callOnLines ∧ '\r' ∉ callOnLines ∧ '\n' ∉ ("/tmp/call.t" : Text) ∧
      (".t" : Text) <:+ ("/tmp/call.t" : Text) := by
    decide +kernel
  have hfile : diskOfCall.content "/tmp/call.t" = .ok (Text.Utf8.encode callOnLines) :=
    Disk.empty.content_withFile_self _ _
  have hends : callOnLines.getLast? = some '\n' ∧
      Source.isStopped diskOfCall (Machine.ofBound diskOfCall 9) (.text callOnLines) .initial =
        false := by
    decide +kernel
  obtain ⟨hnewline, hreturn, hpath, hextension⟩ := hinput
  refine ⟨⟨hnewline, hreturn, hpath, hextension, hfile⟩, hends, ?_⟩
  have hs : State.initial.allowance = none := rfl
  obtain ⟨_, o, _, hafter⟩ :=
    file_runs_as_its_text hnewline hreturn hpath (.inr hextension) hfile hs 9
  rw [hafter, if_pos hends]

end LineScript
