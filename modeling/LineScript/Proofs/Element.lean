import LineScript.Proofs.Binding
import LineScript.Proofs.Form
import LineScript.Proofs.Storage
import LineScript.Proofs.Word

/-!
Elements of collections that are written by a line and read by an expression. Both evaluate the
index, each in its own state. So a value that has been written is read back if the index means the
same afterwards, as it does if it is no element itself.
-/

namespace LineScript

open Exec

def Word.elementLine (c : Word) (index source : Text) : Text :=
  ("tyrt " : Text) ++ (c.element index ++ (" = ".toList ++ source))

namespace Word

variable (c : Word) {index : Text}

theorem strip_element_append (index source : Text) :
    Text.strip (c.element index ++ (" = ".toList ++ source)) =
      (c.element index ++ [' ']) ++ '=' :: Text.stripEnd Text.isBlank (' ' :: source) := by
  have hparts : c.element index ++ (" = ".toList ++ source) =
      c.element index ++ ([' '] ++ '=' :: ' ' :: source) := by simp
  have helement : Text.strip (c.element index) ≠ [] :=
    Text.strip_ne_nil (c := '[') (by simp [element, bracket]) (by decide)
  have hequal : Text.strip ('=' :: ' ' :: source) ≠ [] :=
    Text.strip_ne_nil List.mem_cons_self (by decide)
  rw [hparts, Text.strip_append helement hequal, Text.stripEnd_cons_of_not (by decide), element,
    bracket, dropBlanks_text_append]
  simp

theorem strip_elementLine (index source : Text) :
    Text.strip (c.elementLine index source) =
      ("tyrt " : Text) ++
        Text.stripEnd Text.isBlank (c.element index ++ (" = ".toList ++ source)) := by
  have hrest : Text.strip (c.element index ++ (" = ".toList ++ source)) ≠ [] :=
    Text.strip_ne_nil (c := '[') (by simp [element, bracket]) (by decide)
  have hline : c.elementLine index source =
      "tyrt".toList ++ ([' '] ++ (c.element index ++ (" = ".toList ++ source))) := rfl
  rw [hline, Text.strip_append (by decide) hrest]
  rfl

theorem assignment?_elementLine (hindex : '=' ∉ index) (source : Text) :
    Statement.assignment? (Text.strip (c.elementLine index source)) =
      some (c.element index, Text.stripEnd Text.isBlank (' ' :: source)) := by
  have hequal : '=' ∉ c.element index ++ [' '] := by
    simp [element, bracket, hindex, c.not_mem (c := '=') (by decide)]
  have hcut : Text.cutFirst? ['=']
      ((c.element index ++ [' ']) ++ '=' :: Text.stripEnd Text.isBlank (' ' :: source)) =
        some (c.element index ++ [' '], Text.stripEnd Text.isBlank (' ' :: source)) := by
    have hfirst : Text.cutFirst? ['='] ('=' :: Text.stripEnd Text.isBlank (' ' :: source)) =
        some ([], Text.stripEnd Text.isBlank (' ' :: source)) :=
      Text.cutFirst?_append '=' [] _
    rw [Text.cutFirst?_append_of_not_mem hequal, hfirst, Option.map_some, List.append_nil]
  have htarget : Text.strip (c.element index ++ [' ']) = c.element index := by
    rw [Text.strip_append_right (List.forall_mem_singleton.mpr (by decide)), strip_element]
  rw [Statement.assignment?, strip_elementLine, Text.after?_append]
  simp only [Option.bind_eq_bind, Option.bind_some, Text.strip_stripEnd, strip_element_append]
  change (Text.cutFirst? ['='] _).bind _ = _
  rw [hcut, Option.bind_some, htarget]

theorem line_elementLine {s : State} (hnone : s.blocks.openCount = 0)
    (hunlimited : s.allowance = none) (hindex : '=' ∉ index) (disk : Disk) (n : Nat)
    (source : Text) :
    (Machine.ofBound disk (n + 1)).line (c.elementLine index source) none s =
      (do
        let value ← (Machine.ofBound disk n).eval source [] none
        if ← Execution.assignElement (.ofBound disk n) (c.element index) value then pure ()
        else Execution.assignVariable (c.element index) value) s := by
  have hstrip := c.strip_elementLine index source
  have hsilent : Statement.isSilent (Text.strip (c.elementLine index source)) = false := by
    rw [hstrip]
    rfl
  have hbrace : Text.strip (c.elementLine index source) ≠ [Text.closeBrace] := by
    intro h
    have hfirst : some 't' = some Text.closeBrace := by
      rw [hstrip] at h
      exact congrArg List.head? h
    exact absurd hfirst (by decide)
  have hheader : Statement.header? (Text.strip (c.elementLine index source)) = none := by
    rw [hstrip]
    rfl
  have hstatement : Statement.ofLine (Text.strip (c.elementLine index source)) =
      .assign (c.element index) (Text.stripEnd Text.isBlank (' ' :: source)) := by
    rw [Statement.ofLine, hheader, c.assignment?_elementLine hindex]
  have heval : (Machine.ofBound disk n).eval (Text.stripEnd Text.isBlank (' ' :: source)) [] none =
      (Machine.ofBound disk n).eval source [] none := by
    have hblank : ∀ d ∈ [' '], Text.isBlank d = true := List.forall_mem_singleton.mpr (by decide)
    apply Machine.eval_eq_of_strip_eq
    rw [Text.strip_stripEnd, ← List.singleton_append, Text.strip_append_left hblank]
  change Execution.line _ n _ none s = _
  rw [Execution.line_of_none hsilent hbrace hnone hunlimited, hstatement, Execution.perform,
    Execution.assign, heval]

theorem eval_element {disk : Disk} {m : Machine} {s : State}
    (hmark : ∀ op : Operator, ¬op.mark <:+: index) :
    Evaluation.eval disk m (c.element index) [] none s =
      orElse (Evaluation.tryIndex m (c.element index) []) (Evaluation.atom (c.element index) [])
        s := by
  have hoperation : Expression.operation? (c.element index) = none := by
    apply Expression.operation?_eq_none
    intro op hinside
    have hopening : '[' ∉ op.mark := by cases op <;> decide
    have hclosing : ']' ∉ op.mark := by cases op <;> decide
    have hblank : ' ' ∈ op.mark := List.mem_cons_self
    rcases Text.isInfix_append_cons hopening hinside with hname | hrest
    · exact c.not_mem (c := ' ') (by decide) (hname.subset hblank)
    rcases Text.isInfix_append_cons hclosing hrest with hindex | hnil
    · exact hmark op hindex
    · exact absurd (hnil.subset hblank) List.not_mem_nil
  have htaken := Expression.isTakenForCall_of_not_isCall (c.isCall_element index)
  rw [← c.strip_element] at htaken
  rw [Evaluation.eval_of_not_taken htaken, strip_element,
    Evaluation.orElse_of_none (Evaluation.tryOperation_of_none hoperation)]

variable {m : Machine} {collection value : Value} {s t : State}

theorem assignElement_eq (hnewline : '\n' ∉ index)
    (hlookup : s.vars.get? (some c.text) = some collection)
    {heap : Heap} (hcollection : collection.IsStoredIn heap) :
    Execution.assignElement m (c.element index) value s =
      (do
        let position ← m.eval index [] none
        writeElement collection position value
        pure true) s := by
  rw [Execution.assignElement, c.index?_element, if_neg hnewline]
  dsimp only
  rw [get_bind, hlookup]
  cases collection with
  | list address => rfl
  | dict address => rfl
  | _ => exact hcollection.elim

theorem tryIndex_eq (hnewline : '\n' ∉ index) (hindex : index ≠ [])
    (hlookup : s.lookup? [] c.text = some collection)
    {heap : Heap} (hcollection : collection.IsStoredIn heap) :
    Evaluation.tryIndex m (c.element index) [] s =
      (some <$> (m.eval index [] none >>= readElement collection)) s := by
  obtain ⟨d, rest, rfl⟩ := List.exists_cons_of_ne_nil hindex
  rw [Evaluation.tryIndex, c.index?_element, if_neg hnewline]
  dsimp only
  rw [get_bind, hlookup, map_bind]
  cases collection with
  | list address => rfl
  | dict address => rfl
  | _ => exact hcollection.elim

end Word

theorem Evaluation.atom_congr {expr : Text} {locals : Variables} {s t u : State} {value : Value}
    (h : atom expr locals s = .ok value u)
    (hlookup : t.lookup? locals expr = s.lookup? locals expr) :
    u = s ∧ atom expr locals t = .ok value t := by
  rw [atom, get_bind] at h ⊢
  rw [hlookup]
  cases hvalue : s.lookup? locals expr with
  | some found =>
      rw [hvalue] at h
      cases h
      exact ⟨rfl, rfl⟩
  | none =>
      rw [hvalue] at h
      dsimp only at h ⊢
      split at h
      · rename_i hliteral
        rw [if_pos hliteral]
        cases hread : readInteger expr with
        | ok i =>
            rw [hread] at h
            cases h
            exact ⟨rfl, rfl⟩
        | error cause =>
            rw [hread] at h
            cases h
      · rename_i hliteral
        rw [if_neg hliteral]
        split at h
        · rename_i hquoted
          rw [if_pos hquoted]
          cases h
          exact ⟨rfl, rfl⟩
        · cases h

theorem Machine.eval_index_congr {disk : Disk} {n : Nat} {index : Text} {s t u : State}
    {position : Value} (hcall : '(' ∉ index) (hbracket : '[' ∉ index)
    (hmark : ∀ op : Operator, ¬op.mark <:+: index)
    (h : (ofBound disk n).eval index [] none s = .ok position u) (hnames : s.SameNames t) :
    (ofBound disk n).eval index [] none t = .ok position t := by
  have hinside : Text.strip index <:+: index := Text.strip_isInfix index
  have hform : Expression.isCall (Text.strip index) = false := by
    have hopening : '(' ∉ Text.strip index := fun hmem => hcall (hinside.subset hmem)
    simp [Expression.isCall, hopening]
  have hoperation : Expression.operation? (Text.strip index) = none :=
    Expression.operation?_eq_none fun op hop => hmark op (hop.trans hinside)
  have helement : Expression.index? (Text.strip index) = none :=
    Expression.bracketed?_of_not_mem (fun hmem => hbracket (hinside.subset hmem)) ']'
  have hlookup : t.lookup? [] (Text.strip index) = s.lookup? [] (Text.strip index) := by
    rw [State.lookup?, State.lookup?, hnames.vars, hnames.consts]
  cases n with
  | zero => cases h
  | succ n =>
      change Evaluation.eval disk _ index [] none s = _ at h
      change Evaluation.eval disk _ index [] none t = _
      rw [Evaluation.eval_of_no_form hform hoperation helement] at h ⊢
      exact (Evaluation.atom_congr h hlookup).2

namespace Word

variable {disk : Disk} {n : Nat} {c : Word} {index : Text} {collection value : Value}
  {s t u : State}

theorem eval_element_of_newline (hnewline : '\n' ∈ index)
    (hmark : ∀ op : Operator, ¬op.mark <:+: index)
    (h : (do
      if ← Execution.assignElement (.ofBound disk n) (c.element index) value then pure ()
      else Execution.assignVariable (c.element index) value : Exec Unit) s = .ok () t) :
    (Machine.ofBound disk (n + 1)).eval (c.element index) [] none t = .ok value t := by
  have hform : Expression.index? (c.element index) = none := by
    rw [c.index?_element, if_pos hnewline]
  have helement : Execution.assignElement (.ofBound disk n) (c.element index) value s =
      .ok false s := by
    rw [Execution.assignElement, hform]
    rfl
  rw [bind_of_ok helement, if_neg Bool.false_ne_true, Execution.assignVariable, get_bind] at h
  split at h
  · cases h
  · rename_i hconst
    rw [Option.not_isSome_iff_eq_none] at hconst
    cases h
    have hlookup : State.lookup? { s with vars := s.vars.set (some (c.element index)) value } []
        (c.element index) = some value := by
      rw [State.lookup?, Table.get?_set_self, hconst]
      rfl
    have hatom : Evaluation.atom (c.element index) []
        { s with vars := s.vars.set (some (c.element index)) value } =
          .ok value { s with vars := s.vars.set (some (c.element index)) value } := by
      rw [Evaluation.atom, get_bind, hlookup]
      rfl
    change Evaluation.eval disk _ (c.element index) [] none _ = _
    rw [c.eval_element hmark, Evaluation.orElse_of_none (Evaluation.tryIndex_of_none hform)]
    exact hatom

theorem exists_of_assignElement (hnewline : '\n' ∉ index)
    (hvar : s.vars.get? (some c.text) = some collection)
    (hcollection : collection.IsStoredIn s.heap)
    (h : (do
      if ← Execution.assignElement (.ofBound disk n) (c.element index) value then pure ()
      else Execution.assignVariable (c.element index) value : Exec Unit) s = .ok () t) :
    s.SameNames t ∧
      ∃ position u, (Machine.ofBound disk n).eval index [] none s = .ok position u ∧
        writeElement collection position value u = .ok () t := by
  obtain ⟨isElement, v, hassign, hrest⟩ := exists_of_bind_ok h
  have hm := Machine.evaluatesAlike_sameNames disk n s
  have hnames : s.SameNames v :=
    ((Comparison.keptByEvaluation_sameNames s).assignElement hm _ value).holds_of_ok ⟨rfl, rfl⟩
      hassign
  rw [c.assignElement_eq hnewline hvar hcollection] at hassign
  obtain ⟨position, u, hposition, hwrite⟩ := exists_of_bind_ok hassign
  obtain ⟨_, x, hwritten, hdone⟩ := exists_of_bind_ok hwrite
  cases hdone
  cases hrest
  exact ⟨hnames, position, u, hposition, hwritten⟩

theorem exists_of_source_assigned {source : Text} (hnewline : '\n' ∉ index)
    (hvar : s.vars.get? (some c.text) = some collection)
    (hcollection : collection.IsStoredIn s.heap)
    (hvalue : (Machine.ofBound disk n).eval source [] none s = .ok value u)
    (h : (do
      if ← Execution.assignElement (.ofBound disk n) (c.element index) value then pure ()
      else Execution.assignVariable (c.element index) value : Exec Unit) u = .ok () t) :
    s.SameNames t ∧ u.SameNames t ∧
      ∃ position v, (Machine.ofBound disk n).eval index [] none u = .ok position v ∧
        writeElement collection position value v = .ok () t ∧ collection.IsStoredIn v.heap := by
  have hm := Machine.evaluatesAlike_sameNames disk n s
  have hsource : s.SameNames u := (hm.eval source [] none trivial).holds_of_ok ⟨rfl, rfl⟩ hvalue
  have hvar' : u.vars.get? (some c.text) = some collection := by rw [hsource.vars, hvar]
  have hstored := hcollection.of_extends (Machine.extends_of_eval hvalue)
  obtain ⟨hnames, position, v, hposition, hwrite⟩ :=
    exists_of_assignElement hnewline hvar' hstored h
  have hboth : s.SameNames t :=
    ⟨hnames.vars.trans hsource.vars, hnames.consts.trans hsource.consts⟩
  exact ⟨hboth, hnames, position, v, hposition, hwrite,
    hstored.of_extends (Machine.extends_of_eval hposition)⟩

theorem eval_element_of_written {position : Value} {v w : State} (hnewline : '\n' ∉ index)
    (hindex : index ≠ []) (hmark : ∀ op : Operator, ¬op.mark <:+: index)
    (hlookup : t.lookup? [] c.text = some collection)
    (hcollection : collection.IsStoredIn v.heap)
    (hwrite : writeElement collection position value v = .ok () t)
    (hposition : (Machine.ofBound disk n).eval index [] none t = .ok position w)
    (hsame : collection.SameIn t.heap w.heap) :
    (Machine.ofBound disk (n + 1)).eval (c.element index) [] none t = .ok value w := by
  change Evaluation.eval disk _ (c.element index) [] none t = _
  rw [c.eval_element hmark]
  rw [Evaluation.orElse_of_some (c.tryIndex_eq hnewline hindex hlookup hcollection),
    bind_of_ok hposition]
  exact readElement_of_writeElement hcollection hwrite hsame

end Word

/-- Where no block is open, a line that writes an element of a list or a dictionary stores the value
of its source, and the element has this value afterwards if its index means the same as when it was
written. An index without brackets always does. -/
theorem written_element_is_read_back {s t : State} (hnone : true ∉ s.blocks.flags)
    (hunlimited : s.allowance = none) (disk : Disk) (n : Nat) (c : Word) {collection : Value}
    (hvar : s.vars.get? (some c.text) = some collection)
    (hconst : s.consts.get? (some c.text) = none) (hcollection : collection.IsStoredIn s.heap)
    (index source : Text) (hindex : index ≠ []) (hsigns : '(' ∉ index ∧ '=' ∉ index)
    (hmark : ∀ op : Operator, ¬op.mark <:+: index)
    (hline : (Machine.ofBound disk (n + 1)).line (c.elementLine index source) none s =
      .ok () t) :
    ∃ value u, (Machine.ofBound disk n).eval source [] none s = .ok value u ∧
      ('[' ∉ index →
        (Machine.ofBound disk (n + 1)).eval (c.element index) [] none t = .ok value t) ∧
      ∀ position v w, (Machine.ofBound disk n).eval index [] none u = .ok position v →
        (Machine.ofBound disk n).eval index [] none t = .ok position w →
        collection.SameIn t.heap w.heap →
        ∃ x, (Machine.ofBound disk (n + 1)).eval (c.element index) [] none t = .ok value x := by
  rw [c.line_elementLine (List.count_eq_zero.mpr hnone) hunlimited hsigns.2] at hline
  obtain ⟨value, u, hvalue, hassign⟩ := exists_of_bind_ok hline
  refine ⟨value, u, hvalue, ?_⟩
  by_cases hnewline : '\n' ∈ index
  · have hread := Word.eval_element_of_newline hnewline hmark hassign
    exact ⟨fun _ => hread, fun _ _ _ _ _ _ => ⟨t, hread⟩⟩
  · obtain ⟨hnames, hsame, position, v, hposition, hwrite, hstored⟩ :=
      Word.exists_of_source_assigned hnewline hvar hcollection hvalue hassign
    have hlookup : t.lookup? [] c.text = some collection := by
      rw [State.lookup?, hnames.consts, hnames.vars, hvar, hconst]
      rfl
    constructor
    · intro hbracket
      have hagain := Machine.eval_index_congr hsigns.1 hbracket hmark hposition hsame
      exact Word.eval_element_of_written hnewline hindex hmark hlookup hstored hwrite hagain
        (.refl _ _)
    · intro position' v' w hposition' hagain hcontents
      rw [hposition] at hposition'
      cases hposition'
      exact ⟨w, Word.eval_element_of_written hnewline hindex hmark hlookup hstored hwrite hagain
        hcontents⟩

/-- A list of two numbers, a dictionary with the given entries, and a number. -/
def listAndDict (entries : List (Value × Value)) : State :=
  { vars := [(some "c", .list 0), (some "d", .dict 0), (some "i", .int 1)]
    heap := { lists := #[[.int 0, .int 1]], dicts := #[entries] } }

theorem written_element_is_read_back_nested :
    (Machine.ofBound .empty 6).line "tyrt d[c[i]] = c[i] + 6" none (listAndDict []) =
        .ok () (listAndDict [(.int 1, .int 7)]) ∧
      ∃ x, (Machine.ofBound .empty 6).eval "d[c[i]]" [] none (listAndDict [(.int 1, .int 7)]) =
        .ok (.int 7) x := by
  have hline : (Machine.ofBound .empty 6).line "tyrt d[c[i]] = c[i] + 6" none (listAndDict []) =
    .ok () (listAndDict [(.int 1, .int 7)]) := by rfl
  have hsource : (Machine.ofBound .empty 5).eval "c[i] + 6" [] none (listAndDict []) =
    .ok (.int 7) (listAndDict []) := by rfl
  have hbefore : (Machine.ofBound .empty 5).eval "c[i]" [] none (listAndDict []) =
    .ok (.int 1) (listAndDict []) := by rfl
  have hafter : (Machine.ofBound .empty 5).eval "c[i]" [] none (listAndDict [(.int 1, .int 7)]) =
    .ok (.int 1) (listAndDict [(.int 1, .int 7)]) := by rfl
  have hvar : (listAndDict []).vars.get? (some ("d" : Text)) = some (.dict 0) := by decide
  have hstored : (Value.dict 0).IsStoredIn (listAndDict []).heap := by
    change 0 < 1
    decide
  obtain ⟨value, u, hvalue, -, hread⟩ := written_element_is_read_back (by decide +kernel) rfl
    .empty 5 ⟨"d", by decide, by decide⟩ hvar (by decide) hstored "c[i]" "c[i] + 6" (by decide)
    (by decide) (by intro op; cases op <;> decide) hline
  rw [hsource] at hvalue
  cases hvalue
  exact ⟨hline, hread _ _ _ hbefore hafter (.refl _ _)⟩

/-- A list can be indexed by an element of its own, and writing under such an index can change what
the index means. -/
theorem element_moves_its_own_index :
    true ∉ (listAndDict []).blocks.flags ∧
      value? ((Machine.ofBound .empty 6).line "tyrt c[c[0]] = 5" none) (listAndDict []) = some () ∧
      value? ((Machine.ofBound .empty 5).eval "5" [] none) (listAndDict []) = some (.int 5) ∧
      halt? ((Machine.ofBound .empty 6).eval "c[c[0]]" [] none)
        (after ((Machine.ofBound .empty 6).line "tyrt c[c[0]] = 5" none) (listAndDict [])) =
          some (.fault .indexOutOfRange) := by
  decide +kernel

namespace Word

variable (c : Word)

theorem strip_opened (rest : Text) :
    Text.strip (c.text ++ '[' :: rest) = c.text ++ '[' :: Text.stripEnd Text.isBlank rest := by
  have hopened : Text.stripEnd Text.isBlank ('[' :: rest) =
      '[' :: Text.stripEnd Text.isBlank rest := Text.stripEnd_cons_of_not (by decide) rest
  change Text.stripEnd Text.isBlank (Text.dropBlanks (c.text ++ '[' :: rest)) = _
  rw [dropBlanks_text_append, Text.stripEnd_append_of_ne_nil (by rw [hopened]; simp), hopened]

theorem exists_of_operation?_opened {rest left right : Text} {op : Operator}
    (h : Expression.operation? (c.text ++ '[' :: rest) = some (op, left, right)) :
    ∃ before, left = c.text ++ '[' :: before ∧ before <+: rest ∧
      before.length + 2 ≤ rest.length := by
  have hcut : (c.text ++ ['[']) ++ rest = left ++ (op.mark ++ right) := by
    simpa using Expression.eq_of_operation? h
  have hblank : ' ' ∉ c.text ++ ['['] := by simp [c.not_mem (c := ' ') (by decide)]
  have hlength : 2 ≤ (op.mark ++ right).length := by
    simp only [Operator.mark, List.cons_append, List.length_cons, List.length_append]
    omega
  rcases List.append_eq_append_iff.mp hcut with ⟨before, rfl, hrest⟩ | ⟨middle, hword, hmark⟩
  · refine ⟨before, by simp, ⟨_, hrest.symm⟩, ?_⟩
    rw [hrest, List.length_append]
    omega
  · -- The mark begins with a blank, which neither the name nor the bracket is.
    cases middle with
    | nil =>
        refine ⟨[], by simpa using hword.symm, List.nil_prefix, ?_⟩
        rw [← List.nil_append rest, ← hmark]
        simpa using hlength
    | cons d middle =>
        have hd : ' ' = d := by simpa [Operator.mark] using congrArg List.head? hmark
        exact absurd (by rw [hword, hd]; simp) hblank

variable {disk : Disk} {s : State}
  (hnames : ∀ rest : Text, s.lookup? [] (c.text ++ '[' :: rest) = none)

include hnames

theorem atom_opened (rest : Text) :
    Evaluation.atom (c.text ++ '[' :: rest) [] s =
      .error (.fault (.undefinedExpression (c.text ++ '[' :: rest))) s := by
  apply Evaluation.atom_of_undefined (hnames rest)
  · exact Numeral.isLiteral_of_mem (c := '[') (by simp) (by decide) (by decide)
  · obtain ⟨d, word, htext, hd⟩ := c.exists_cons
    have hquote : d ≠ '"' := by
      rintro rfl
      exact absurd hd (by decide)
    rw [htext, List.cons_append, Expression.isQuoted]
    simp [hquote]

theorem eval_opened {rest : Text} (hcall : '(' ∉ rest) (hclosing : ']' ∉ rest) {n : Nat}
    (hn : rest.length < n) :
    ∃ expr, (Machine.ofBound disk n).eval (c.text ++ '[' :: rest) [] none s =
      .error (.fault (.undefinedExpression expr)) s := by
  induction n generalizing rest with
  | zero => omega
  | succ n ih =>
      have hinner := Text.stripEnd_isPrefix Text.isBlank rest
      have hstrip := c.strip_opened rest
      generalize Text.stripEnd Text.isBlank rest = inner at hinner hstrip
      have hform : Expression.isCall (Text.strip (c.text ++ '[' :: rest)) = false := by
        have hopening : '(' ∉ inner := fun hmem => hcall (hinner.subset hmem)
        rw [hstrip]
        simp [Expression.isCall, hopening, c.not_mem (c := '(') (by decide)]
      change ∃ expr, Evaluation.eval disk _ (c.text ++ '[' :: rest) [] none s = _
      cases hoperation : Expression.operation? (Text.strip (c.text ++ '[' :: rest)) with
      | none =>
          have hindex : Expression.index? (Text.strip (c.text ++ '[' :: rest)) = none := by
            have hunclosed : ']' ∉ '[' :: inner := by
              have hnone : ']' ∉ inner := fun hmem => hclosing (hinner.subset hmem)
              simp [hnone]
            rw [hstrip]
            apply Expression.bracketed?_of_not_endsWith
            exact Text.endsWithChar_append_of_not_mem (by simp) hunclosed _
          rw [Evaluation.eval_of_no_form hform hoperation hindex, hstrip, c.atom_opened hnames]
          exact ⟨_, rfl⟩
      | some operation =>
          obtain ⟨op, left, right⟩ := operation
          have hcut := hoperation
          rw [hstrip] at hcut
          obtain ⟨before, rfl, hbefore, hlength⟩ := c.exists_of_operation?_opened hcut
          have hinside := hbefore.trans hinner
          have hle := hinner.length_le
          obtain ⟨expr, hleft⟩ := ih (fun hmem => hcall (hinside.subset hmem))
            (fun hmem => hclosing (hinside.subset hmem)) (by omega)
          refine ⟨expr, ?_⟩
          rw [Evaluation.eval_of_not_taken (Expression.isTakenForCall_of_not_isCall hform),
            Evaluation.tryOperation, hoperation]
          exact bind_of_error (bind_of_error hleft _) _

theorem eval_element_of_operation {index : Text} {op : Operator} (hmark : op.mark <:+: index)
    (hcall : '(' ∉ index) (hclosing : ']' ∉ index) {n : Nat} (hn : index.length ≤ n) :
    ∃ expr, (Machine.ofBound disk (n + 1)).eval (c.element index) [] none s =
      .error (.fault (.undefinedExpression expr)) s := by
  have hinside : index <:+: c.element index := ⟨c.text ++ ['['], [']'], by simp [element, bracket]⟩
  have htaken := Expression.isTakenForCall_of_not_isCall (c.isCall_element index)
  rw [← c.strip_element] at htaken
  cases hoperation : Expression.operation? (c.element index) with
  | none => exact absurd hoperation (Expression.operation?_ne_none (hmark.trans hinside))
  | some operation =>
      obtain ⟨op, left, right⟩ := operation
      obtain ⟨before, rfl, hbefore, hlength⟩ := c.exists_of_operation?_opened hoperation
      -- What stands before the operator is shorter than the index with its bracket.
      have hpart : before <+: index := by
        rw [List.prefix_concat_iff] at hbefore
        refine hbefore.resolve_left ?_
        rintro rfl
        omega
      rw [List.length_append, List.length_singleton] at hlength
      have hleft : ∃ expr, (Machine.ofBound disk n).eval (c.text ++ '[' :: before) [] none s =
          .error (.fault (.undefinedExpression expr)) s :=
        c.eval_opened hnames (fun hmem => hcall (hpart.subset hmem))
          (fun hmem => hclosing (hpart.subset hmem)) (by omega)
      obtain ⟨expr, hleft⟩ := hleft
      refine ⟨expr, ?_⟩
      change Evaluation.eval disk _ (c.element index) [] none s = _
      rw [Evaluation.eval_of_not_taken htaken, strip_element, Evaluation.tryOperation, hoperation]
      exact bind_of_error (bind_of_error hleft _) _

theorem eval_element_nil (n : Nat) :
    (Machine.ofBound disk (n + 1)).eval (c.element []) [] none s =
      .error (.fault (.undefinedExpression (c.element []))) s := by
  have hform : Evaluation.tryIndex (Machine.ofBound disk n) (c.element []) [] s = .ok none s := by
    rw [Evaluation.tryIndex, c.index?_element]
    rfl
  change Evaluation.eval disk _ (c.element []) [] none s = _
  rw [c.eval_element (by intro op; simp [Operator.mark]), Evaluation.orElse_of_none hform]
  exact c.atom_opened hnames [']']

end Word

/-- A value can also be written under an index that is empty or holds an operator, but it is not
read back: operators are looked for before elements, and an element has an index. -/
theorem element_is_written_but_not_read {s t : State} (hnone : true ∉ s.blocks.flags)
    (hunlimited : s.allowance = none) (disk : Disk) {n : Nat} (c : Word) {collection : Value}
    (hvar : s.vars.get? (some c.text) = some collection)
    (hcollection : collection.IsStoredIn s.heap)
    (hnames : ∀ rest : Text, s.lookup? [] (c.text ++ '[' :: rest) = none) {index : Text}
    (source : Text) (hform : index = [] ∨ ∃ op : Operator, op.mark <:+: index)
    (hcall : '(' ∉ index) (hclosing : ']' ∉ index) (hequal : '=' ∉ index) (hnewline : '\n' ∉ index)
    (hn : index.length ≤ n)
    (hline : (Machine.ofBound disk (n + 1)).line (c.elementLine index source) none s =
      .ok () t) :
    (∃ value position u v, (Machine.ofBound disk n).eval source [] none s = .ok value u ∧
      (Machine.ofBound disk n).eval index [] none u = .ok position v ∧
      writeElement collection position value v = .ok () t) ∧
    ∃ expr, (Machine.ofBound disk (n + 1)).eval (c.element index) [] none t =
      .error (.fault (.undefinedExpression expr)) t := by
  rw [c.line_elementLine (List.count_eq_zero.mpr hnone) hunlimited hequal] at hline
  obtain ⟨value, u, hvalue, hassign⟩ := exists_of_bind_ok hline
  obtain ⟨hsame, -, position, v, hposition, hwrite, -⟩ :=
    Word.exists_of_source_assigned hnewline hvar hcollection hvalue hassign
  refine ⟨⟨value, position, u, v, hvalue, hposition, hwrite⟩, ?_⟩
  have hnames' (rest : Text) : t.lookup? [] (c.text ++ '[' :: rest) = none := by
    rw [← hnames rest, State.lookup?, State.lookup?, hsame.vars, hsame.consts]
  rcases hform with rfl | ⟨op, hmark⟩
  · exact ⟨_, c.eval_element_nil hnames' n⟩
  · exact c.eval_element_of_operation hnames' hmark hcall hclosing hn

example :
    value? ((Machine.ofBound .empty 6).line "tyrt c[0 + 1] = 5" none) (listAndDict []) = some () ∧
      halt? ((Machine.ofBound .empty 6).eval "c[0 + 1]" [] none)
        (after ((Machine.ofBound .empty 6).line "tyrt c[0 + 1] = 5" none) (listAndDict [])) =
          some (.fault (.undefinedExpression "c[0")) := by
  decide +kernel

end LineScript
