import LineScript.Proofs.BranchHeader
import LineScript.Proofs.Capture
import LineScript.Proofs.LocalNames

/-!
The definition of functions. Between its header and its closing brace a function captures every line
that says something, whatever the line says, and a call gives its parameters the arguments by
position.
-/

namespace LineScript

open Exec

namespace Text

theorem commaParts_append {part : Text} (hcomma : ',' ∉ part) (hblank : strip part ≠ [])
    (t : Text) : commaParts (part ++ ',' :: t) = strip part :: commaParts t := by
  have hkeep : (!(strip part).isEmpty) = true := by simp [hblank]
  rw [commaParts, splitAll_append hcomma, List.map_cons]
  exact List.filter_cons_of_pos hkeep

theorem commaParts_cons {c : Char} (hc : isBlank c = true) (t : Text) :
    commaParts (c :: t) = commaParts t := by
  obtain ⟨part, parts, hparts⟩ := List.exists_cons_of_ne_nil (splitAll_ne_nil ',' t)
  have hne : c ≠ ',' := by
    rintro rfl
    exact absurd hc (by decide)
  have hlead : ∀ d ∈ [c], isBlank d = true := List.forall_mem_singleton.mpr hc
  have hstrip : strip (c :: part) = strip part := strip_append_left hlead part
  rw [commaParts, splitAll, if_neg hne, commaParts, hparts]
  simp only [List.map_cons, hstrip]

end Text

namespace Word

def listed (words : List Word) : Text := Text.joinWith ", " (words.map text)

theorem listed_cons_cons (w next : Word) (rest : List Word) :
    listed (w :: next :: rest) = w.text ++ ',' :: ' ' :: listed (next :: rest) := by
  rw [listed, List.map_cons, List.map_cons, Text.joinWith, List.intercalate_cons_cons,
    List.append_assoc]
  rfl

theorem listed_singleton (w : Word) : listed [w] = w.text := by
  rw [listed, List.map_singleton, Text.joinWith, List.intercalate_singleton]

theorem not_mem_listed {c : Char} (hword : Text.isWord c = false) (hcomma : c ≠ ',')
    (hblank : c ≠ ' ') (words : List Word) : c ∉ listed words := by
  induction words with
  | nil => exact List.not_mem_nil
  | cons w rest ih =>
      have hw : c ∉ w.text := w.not_mem hword
      cases rest with
      | nil =>
          rw [listed_singleton]
          exact hw
      | cons next rest =>
          rw [listed_cons_cons, List.mem_append, List.mem_cons, List.mem_cons]
          simp only [hw, hcomma, hblank, ih, or_self, not_false_eq_true]

theorem commaParts_listed (words : List Word) :
    Text.commaParts (listed words) = words.map text := by
  induction words with
  | nil => rfl
  | cons w rest ih =>
      have hcomma : ',' ∉ w.text := w.not_mem (by decide)
      have hblank : Text.strip w.text ≠ [] := by
        rw [w.strip_text]
        exact w.nonempty
      cases rest with
      | nil =>
          rw [listed_singleton, Text.commaParts_of_not_mem hcomma hblank, w.strip_text]
          rfl
      | cons next rest =>
          rw [listed_cons_cons, Text.commaParts_append hcomma hblank,
            Text.commaParts_cons (by decide), ih, w.strip_text]
          rfl

end Word

/-!
The header.
-/

namespace Header

theorem word?_append (w : Word) {c : Char} (hc : Text.isWord c = false) (t : Text) :
    word? (w.text ++ c :: t) = some (w.text, c :: t) := by
  obtain ⟨d, rest, htext, -⟩ := w.exists_cons
  rw [word?, w.takeWhile_text_append hc, w.dropWhile_text_append hc, htext]

theorem parameterText?_append {inner rest : Text} (hnewline : '\n' ∉ inner)
    (hrest : parameterText? rest = some []) : parameterText? (inner ++ rest) = some inner := by
  induction inner with
  | nil => exact hrest
  | cons c inner ih =>
      rw [List.mem_cons, not_or] at hnewline
      rw [List.cons_append, parameterText?, if_neg (Ne.symm hnewline.1), ih hnewline.2]

end Header

def functionHeader (f : Word) (params : List Word) : Text :=
  ("func " : Text) ++ (f.call (Word.listed params) ++ [' ', Text.openBrace])

section

variable (f : Word) (params : List Word)

theorem functionHeader_eq :
    functionHeader f params =
      ("func " : Text) ++
        (f.text ++ '(' :: (Word.listed params ++ [')', ' ', Text.openBrace])) := by
  have hcall : f.call (Word.listed params) ++ [' ', Text.openBrace] =
      f.text ++ '(' :: (Word.listed params ++ [')', ' ', Text.openBrace]) := by
    simp [Word.call, Word.bracket]
  exact congrArg (("func " : Text) ++ ·) hcall

theorem strip_functionHeader : Text.strip (functionHeader f params) = functionHeader f params := by
  have hlast : functionHeader f params =
      (("func " : Text) ++ (f.call (Word.listed params) ++ [' '])) ++ [Text.openBrace] := by
    rw [List.append_assoc, List.append_assoc]
    rfl
  exact Text.strip_eq_self (rfl : functionHeader f params = 'f' :: _) (by decide) hlast (by decide)

theorem function?_functionHeader :
    Header.function? (functionHeader f params) = some (f.text, params.map Word.text) := by
  have hnewline : '\n' ∉ Word.listed params :=
    Word.not_mem_listed (by decide) (by decide) (by decide) params
  rw [functionHeader_eq]
  change (Header.word? (Text.dropBlanks (f.text ++ _))).bind _ = _
  rw [f.dropBlanks_text_append, Header.word?_append f (by decide)]
  change (Header.parameterText? (Word.listed params ++ _)).bind _ = _
  rw [Header.parameterText?_append hnewline (by decide)]
  exact congrArg (fun parts => some (f.text, parts)) (Word.commaParts_listed params)

theorem ofLine_functionHeader :
    Statement.ofLine (functionHeader f params) = .openFunction f.text (params.map Word.text) := by
  have hheader : Statement.header? (functionHeader f params) =
      some (.openFunction f.text (params.map Word.text)) := by
    change some _ = _
    rw [function?_functionHeader]
  rw [Statement.ofLine, hheader]

end

/-!
The lines of a definition, one after the other.
-/

/-- The state in which a function is being defined and lines have been captured, with everything
else as it was when its header was met. -/
def State.defining (s : State) (name : Text) (params lines : List Text) : State :=
  { s with
    bodies := s.bodies.push lines.toArray
    blocks := { s.blocks with function := ⟨true, s.bodies.size, some name, params⟩ } }

/-- The lines that a block captures: those that say something, stripped. -/
def capturedLines (lines : List Text) : List Text :=
  (lines.map Text.strip).filter fun line => !Statement.isSilent line

/-- In the later state a function has the given routine and no block is open. Nothing else is
different that scripts can read. -/
structure State.HasDefined (s : State) (name : Text) (routine : Routine) (t : State) : Prop where
  function : t.functions.get? (some name) = some routine
  others : ∀ other, other ≠ some name → t.functions.get? other = s.functions.get? other
  flags : true ∉ t.blocks.flags
  vars : t.vars = s.vars
  consts : t.consts = s.consts
  classes : t.classes = s.classes
  heap : t.heap = s.heap
  output : t.output = s.output

theorem Blocks.openBody?_function {β : Type} {blocks : Blocks β} (hnone : true ∉ blocks.flags)
    {function : FunctionBlock β} (hopen : function.isOpen = true) :
    { blocks with function }.openBody? = some function.body := by
  simp only [flags, List.mem_cons, not_or, Bool.true_eq, Bool.not_eq_true] at hnone
  simp [openBody?, hopen, hnone]

theorem Blocks.not_mem_flags_function {β : Type} {blocks : Blocks β}
    (hnone : true ∉ blocks.flags) {function : FunctionBlock β} (hclosed : function.isOpen = false) :
    true ∉ { blocks with function }.flags := by
  simp only [flags, List.mem_cons, not_or] at hnone ⊢
  simp [hclosed, hnone]

theorem Exec.appendLine_defining (s : State) (name : Text) (params lines : List Text)
    (line : Text) :
    appendLine s.bodies.size line (s.defining name params lines) =
      .ok () (s.defining name params (lines ++ [line])) := by
  have hmodify : (s.bodies.push lines.toArray).modify s.bodies.size (·.push line) =
      s.bodies.push (lines ++ [line]).toArray := by
    apply Array.ext_getElem?
    intro i
    rw [Array.getElem?_modify, Array.getElem?_push, Array.getElem?_push]
    split
    · rename_i hi
      rw [if_pos hi.symm, if_pos hi.symm, Option.map_some, List.push_toArray]
    · rename_i hi
      rw [if_neg (Ne.symm hi), if_neg (Ne.symm hi)]
  unfold State.defining
  rw [← hmodify]
  rfl

namespace Execution

variable {m : Machine} {bound : Nat} {self : Option Address} {s : State}
  (hnone : true ∉ s.blocks.flags) (hunlimited : s.allowance = none)

include hnone hunlimited

theorem line_functionHeader (f : Word) (params : List Word) :
    line m bound (functionHeader f params) self s =
      .ok () (s.defining f.text (params.map Word.text) []) := by
  have hsilent : Statement.isSilent (functionHeader f params) = false := rfl
  have hbrace : functionHeader f params ≠ [Text.closeBrace] := by
    apply ne_of_apply_ne List.head?
    change some 'f' ≠ some Text.closeBrace
    decide
  rw [← strip_functionHeader] at hsilent hbrace
  rw [line_of_none hsilent hbrace (List.count_eq_zero.mpr hnone) hunlimited, strip_functionHeader,
    ofLine_functionHeader]
  rfl

variable (name : Text) (params : List Text)

theorem line_defining {source : Text} (hbrace : Text.strip source ≠ [Text.closeBrace])
    (lines : List Text) :
    line m bound source self (s.defining name params lines) =
      .ok () (s.defining name params (lines ++ capturedLines [source])) := by
  have hfree : (s.defining name params lines).allowance = none := hunlimited
  cases hsilent : Statement.isSilent (Text.strip source) with
  | true =>
      have hnothing : capturedLines [source] = [] := by simp [capturedLines, hsilent]
      rw [line_of_silent hsilent hfree, hnothing, List.append_nil]
  | false =>
      have hcaptured : capturedLines [source] = [Text.strip source] := by
        simp [capturedLines, hsilent]
      have hopen : (s.defining name params lines).blocks.openBody? = some s.bodies.size :=
        Blocks.openBody?_function hnone rfl
      rw [line_eq, hsilent, if_neg Bool.false_ne_true, if_neg hbrace,
        bind_of_ok (spend_of_unlimited hfree), capture_of_open hopen, appendLine_defining,
        hcaptured]

theorem lines_defining {sources : List Text}
    (hbrace : ∀ source ∈ sources, Text.strip source ≠ [Text.closeBrace]) (lines : List Text) :
    (forM sources fun source => line m bound source self) (s.defining name params lines) =
      .ok () (s.defining name params (lines ++ capturedLines sources)) := by
  induction sources generalizing lines with
  | nil =>
      rw [capturedLines, List.map_nil, List.filter_nil, List.append_nil]
      rfl
  | cons source sources ih =>
      have hstep : line m bound source self (s.defining name params lines) = _ :=
        line_defining hnone hunlimited name params (hbrace source List.mem_cons_self) lines
      have hsplit : capturedLines (source :: sources) =
          capturedLines [source] ++ capturedLines sources := by
        rw [capturedLines, List.map_cons, ← List.singleton_append, List.filter_append]
        rfl
      rw [List.forM_cons, bind_of_ok hstep, ih fun line hline =>
        hbrace line (List.mem_cons_of_mem _ hline), hsplit, List.append_assoc]

theorem line_closing_defining (m : Machine) (bound : Nat) (self : Option Address)
    (lines : List Text) :
    ∃ t, line m bound [Text.closeBrace] self (s.defining name params lines) = .ok () t ∧
      s.HasDefined name ⟨params, lines⟩ t := by
  have hclass : s.blocks.classDef.isOpen = false := by
    simp only [Blocks.flags, List.mem_cons, not_or, Bool.true_eq, Bool.not_eq_true] at hnone
    exact hnone.2.2.2.2.1
  have hclose : line m bound [Text.closeBrace] self (s.defining name params lines) =
      closeFunction (s.defining name params lines) := by
    have hfree : (s.defining name params lines).allowance = none := hunlimited
    rw [line_closeBrace hfree]
    exact close_of_function hclass rfl
  have hroutine : pendingRoutine (s.defining name params lines) = ⟨params, lines⟩ := by
    have hbody : (s.defining name params lines).body s.bodies.size = lines.toArray := by
      rw [State.body, State.defining, Array.getElem?_push, if_pos rfl, Option.getD_some]
    exact congrArg (fun body => Routine.mk params body.toList) hbody
  refine ⟨_, hclose.trans rfl, ?_⟩
  exact
    { function := by
        rw [← hroutine]
        exact Table.get?_set_self _ _ _
      others := fun other hother => Table.get?_set_of_ne hother _ _
      flags := Blocks.not_mem_flags_function hnone rfl
      vars := rfl
      consts := rfl
      classes := rfl
      heap := rfl
      output := rfl }

end Execution

/-!
The call.
-/

/-- Parameters are bound to values by position. Of equal names the last one counts, and no other
name is bound. -/
structure Variables.BindsByPosition (scope : Variables) (params : List Text) (values : List Value) :
    Prop where
  bound {i : Nat} {param : Text} {value : Value} : params[i]? = some param →
    values[i]? = some value → param ∉ params.drop (i + 1) → scope.get? (some param) = some value
  others {name : Name} : name ∉ params.map some → scope.get? name = none
  once : (scope.map Prod.fst).Nodup

namespace Evaluation

theorem bindParams_bindsByPosition (params : List Text) (values : List Value) :
    (bindParams params values).BindsByPosition params values where
  bound {i param value} hparam hvalue hlast := by
    have hentry : ((params.map some).zip values)[i]? = some (some param, value) := by
      rw [List.getElem?_zip_eq_some, List.getElem?_map, hparam]
      exact ⟨rfl, hvalue⟩
    obtain ⟨hi, hentry⟩ := List.getElem?_eq_some_iff.mp hentry
    have hrest : some param ∉ (((params.map some).zip values).drop (i + 1)).map Prod.fst := by
      rw [List.zip, List.drop_zipWith, ← List.map_drop]
      intro hmem
      obtain ⟨⟨name, other⟩, hzip, rfl⟩ := List.mem_map.mp hmem
      obtain ⟨found, hfound, hsame⟩ := List.mem_map.mp (List.of_mem_zip hzip).1
      cases hsame
      exact hlast hfound
    rw [bindParams, ← List.take_append_drop i ((params.map some).zip values),
      List.drop_eq_getElem_cons hi, hentry]
    exact Table.get?_setAll_append hrest _ _ _
  others {name} hname := by
    refine (Table.get?_setAll_of_not_mem (fun hmem => hname ?_) []).trans rfl
    obtain ⟨⟨found, value⟩, hzip, rfl⟩ := List.mem_map.mp hmem
    exact (List.of_mem_zip hzip).1
  once := by
    apply Table.nodup_keys_setAll
    exact List.nodup_nil

theorem arguments_listed {disk : Disk} {n : Nat} {words : List Word} {values : List Value}
    {s : State}
    (h : List.Forall₂ (fun w value => s.vars.get? (some w.text) = some value ∧
      s.consts.get? (some w.text) = none) words values) (self : Option Address) :
    arguments (Machine.ofBound disk (n + 1)) (Word.listed words) [] self s = .ok values s := by
  rw [arguments, Word.commaParts_listed]
  induction h with
  | nil => rfl
  | @cons w value words values hvalue _ ih =>
      have hlookup : s.lookup? [] w.text = some value := by
        rw [State.lookup?, hvalue.1, hvalue.2]
        rfl
      have heval : (Machine.ofBound disk (n + 1)).eval w.text [] self s = .ok value s :=
        eval_word_of_lookup? hlookup self
      rw [List.map_cons, List.mapM_cons, bind_of_ok heval, bind_of_ok ih]
      rfl

end Evaluation

def functionLines (f : Word) (params : List Word) (lines : List Text) : List Text :=
  functionHeader f params :: (lines ++ [[Text.closeBrace]])

/-- Where no block is open, a header, lines that are no closing braces, and a closing brace define a
function: its routine has the parameters of the header and the lines that say something. As long as
it has that routine, a call with variables as arguments executes these lines in variables of their
own: the parameters, bound by position to the values of the arguments. -/
theorem function_is_captured_and_bound (disk : Disk) (n : Nat) {s : State}
    (hnone : true ∉ s.blocks.flags) (hunlimited : s.allowance = none) (f : Word)
    (params : List Word) (lines : List Text)
    (hlines : ∀ line ∈ lines, Text.strip line ≠ [Text.closeBrace]) :
    (∃ t,
      (forM (functionLines f params lines) fun line =>
        (Machine.ofBound disk (n + 1)).line line none) s = .ok () t ∧
      s.HasDefined f.text ⟨params.map Word.text, capturedLines lines⟩ t) ∧
    (f.text ≠ "read_file" → ∀ values : List Value, values.length = params.length →
      ∃ scope : Variables, scope.BindsByPosition (params.map Word.text) values ∧
        ∀ (t : State) (xs : List Word) (k : Nat),
          t.functions.get? (some f.text) = some ⟨params.map Word.text, capturedLines lines⟩ →
          List.Forall₂ (fun x value => t.vars.get? (some x.text) = some value ∧
            t.consts.get? (some x.text) = none) xs values →
          (Machine.ofBound disk (k + 2)).eval (f.call (Word.listed xs)) [] none t =
            (Machine.ofBound disk k).block (capturedLines lines) (some scope) none t) := by
  constructor
  · obtain ⟨t, hclose, hdefined⟩ := Execution.line_closing_defining hnone hunlimited f.text
      (params.map Word.text) (Machine.ofBound disk n) n none (capturedLines lines)
    refine ⟨t, ?_, hdefined⟩
    change (forM _ fun line => Execution.line (Machine.ofBound disk n) n line none) s = _
    rw [functionLines, List.forM_cons,
      bind_of_ok (Execution.line_functionHeader hnone hunlimited f params), List.forM_append,
      bind_of_ok (Execution.lines_defining hnone hunlimited _ _ hlines []), List.nil_append,
      List.forM_cons, bind_of_ok hclose]
    rfl
  · intro hname values hlength
    refine ⟨_, Evaluation.bindParams_bindsByPosition _ values, ?_⟩
    intro t xs k hfunction hvalues
    have hargs : Evaluation.arguments (Machine.ofBound disk (k + 1)) (Word.listed xs) [] none t =
        .ok values t := Evaluation.arguments_listed hvalues none
    have hnewline : '\n' ∉ Word.listed xs :=
      Word.not_mem_listed (by decide) (by decide) (by decide) xs
    have hpoint : '.' ∉ Word.listed xs :=
      Word.not_mem_listed (by decide) (by decide) (by decide) xs
    change Evaluation.eval disk _ _ [] none t = _
    rw [Evaluation.eval_call hname hnewline hpoint hargs hfunction]
    exact congrFun (if_pos (by rw [List.length_map, hlength])) t

def twoTexts : State := { vars := [(some "x", .text "s"), (some "y", .text "t")] }

/-- The definition of a function that joins its arguments in reverse, with a comment and a blank
line. -/
def reverseJoin : List Text :=
  ["func g(a, b) \x7b", "/0 in reverse", "  return_object b + a", "  ", "\x7d"]

theorem function_is_captured_and_bound_reverse :
    ∃ t,
      (forM reverseJoin fun line => (Machine.ofBound .empty 1).line line none) twoTexts =
          .ok () t ∧
        twoTexts.HasDefined "g" ⟨["a", "b"], ["return_object b + a"]⟩ t ∧
        (∃ scope : Variables, scope.BindsByPosition ["a", "b"] [.text "t", .text "s"] ∧
          (Machine.ofBound .empty 9).eval "g(y, x)" [] none t =
            (Machine.ofBound .empty 7).block ["return_object b + a"] (some scope) none t) ∧
        ∃ u, (Machine.ofBound .empty 9).eval "g(y, x)" [] none t = .ok (.text "st") u := by
  let g : Word := ⟨"g", by decide, by decide⟩
  let params : List Word := [⟨"a", by decide, by decide⟩, ⟨"b", by decide, by decide⟩]
  let xs : List Word := [⟨"y", by decide, by decide⟩, ⟨"x", by decide, by decide⟩]
  let body : List Text := ["/0 in reverse", "  return_object b + a", "  "]
  have hlines : functionLines g params body = reverseJoin := by decide +kernel
  have hbody : capturedLines body = ["return_object b + a"] := by decide +kernel
  have hsource : g.call (Word.listed xs) = "g(y, x)" := by decide +kernel
  have hvalue : value? (do
      forM reverseJoin fun line => (Machine.ofBound .empty 1).line line none
      (Machine.ofBound .empty 9).eval "g(y, x)" [] none : Exec Value) twoTexts =
        some (.text "st") := by
    decide +kernel
  have hboth := function_is_captured_and_bound .empty 0 (s := twoTexts) (by decide) rfl g params
    body (by decide)
  rw [hlines, hbody] at hboth
  obtain ⟨⟨t, hrun, hdefined⟩, hcall⟩ := hboth
  obtain ⟨_, _, hrun', hread⟩ := exists_of_bind_ok (eq_ok_of_value? hvalue)
  cases hrun.symm.trans hrun'
  obtain ⟨scope, hscope, hblock⟩ := hcall (by decide) [.text "t", .text "s"] rfl
  have harguments : List.Forall₂ (fun x value => t.vars.get? (some x.text) = some value ∧
      t.consts.get? (some x.text) = none) xs [.text "t", .text "s"] := by
    rw [hdefined.vars, hdefined.consts]
    exact .cons ⟨rfl, rfl⟩ (.cons ⟨rfl, rfl⟩ .nil)
  have heval := hblock t xs 7 hdefined.function harguments
  rw [hsource] at heval
  exact ⟨t, hrun, hdefined, ⟨scope, hscope, heval⟩, _, hread⟩

end LineScript
