import LineScript.Proofs.Addition

/-!
Texts in double quotes. Operators are looked for before quotes, so a quoted text denotes itself
exactly if no operator stands in it between blanks. Otherwise it is cut there, and the part on the
left starts with a quote that is not closed: such a text is no expression, whatever form it is
read in.
-/

namespace LineScript

open Exec

def Text.inQuotes (t : Text) : Text := '"' :: (t ++ ['"'])

/-- Every name that has a value, as a local name, a constant or a variable, is a word. -/
def State.NamesAreWords (s : State) (locals : Variables) : Prop :=
  ∀ name value, s.lookup? locals name = some value → ∃ w : Word, w.text = name

theorem State.NamesAreWords.lookup?_quote {s : State} {locals : Variables}
    (h : s.NamesAreWords locals) (t : Text) : s.lookup? locals ('"' :: t) = none := by
  cases hlookup : s.lookup? locals ('"' :: t) with
  | none => rfl
  | some value =>
      obtain ⟨w, hw⟩ := h _ value hlookup
      have hquote : '"' ∉ w.text := w.not_mem (by decide)
      simp [hw] at hquote

/-- An execution fails and leaves the state as it is. -/
def Exec.FailsIn {α : Type} (s : State) (x : Exec α) : Prop :=
  ∃ cause, x s = .error (.fault cause) s

theorem Exec.FailsIn.bind {α β : Type} {s : State} {x : Exec α} (h : FailsIn s x)
    (f : α → Exec β) : FailsIn s (x >>= f) := by
  obtain ⟨cause, hx⟩ := h
  exact ⟨cause, bind_of_error hx f⟩

theorem Exec.FailsIn.orElse {α : Type} {s : State} {x : Exec (Option α)} {y : Exec α}
    (hx : x s = .ok none s ∨ FailsIn s x) (hy : FailsIn s y) : FailsIn s (orElse x y) := by
  rcases hx with hnone | hfails
  · obtain ⟨cause, hy⟩ := hy
    exact ⟨cause, by rw [Evaluation.orElse_of_none hnone, hy]⟩
  · exact hfails.bind _

namespace Text

theorem strip_inQuotes (t : Text) : strip (inQuotes t) = inQuotes t := by
  have hlast : inQuotes t = ('"' :: t) ++ ['"'] := rfl
  exact strip_eq_self rfl (by decide) hlast (by decide)

theorem strip_unclosed (t : Text) : strip ('"' :: t) = '"' :: stripEnd isBlank t := by
  rw [strip, stripBoth, List.dropWhile_cons_of_neg (by decide), stripEnd_cons_of_not (by decide)]

theorem exists_of_quote_eq_append {t left rest : Text} {c : Char} (hc : c ≠ '"')
    (h : '"' :: t = left ++ c :: rest) : ∃ u, left = '"' :: u ∧ t = u ++ c :: rest := by
  cases left with
  | nil => exact absurd (List.cons.inj h).1.symm hc
  | cons d u =>
      obtain ⟨rfl, ht⟩ := List.cons.inj h
      exact ⟨u, rfl, ht⟩

end Text

namespace Expression

theorem isQuoted_unclosed {t : Text} (h : '"' ∉ t) : isQuoted ('"' :: t) = false := by
  have hend : Text.endsWithChar '"' t = false := by
    rw [Text.endsWithChar, beq_eq_false_iff_ne]
    intro hlast
    exact h (List.mem_of_getLast? hlast)
  simp [isQuoted, hend]

theorem isQuoted_inQuotes {t : Text} (h : '\n' ∉ t) : isQuoted (Text.inQuotes t) = true := by
  simp [isQuoted, Text.inQuotes, Text.endsWithChar, h]

theorem unquote_inQuotes {t : Text} (h : '"' ∉ t) : unquote (Text.inQuotes t) = t := by
  have hinner : ∀ c ∈ t, (c == '"') = false := by
    intro c hc
    rw [beq_eq_false_iff_ne]
    rintro rfl
    exact h hc
  have htrail : ∀ c ∈ ['"'], (c == '"') = true := by simp
  rw [unquote, Text.stripBoth, Text.inQuotes, List.dropWhile_cons_of_pos rfl]
  cases t with
  | nil => rfl
  | cons c u =>
      have hc := hinner c List.mem_cons_self
      rw [List.cons_append, List.dropWhile_cons_of_neg (by simp [hc]), ← List.cons_append,
        Text.stripEnd_append htrail, Text.stripEnd_eq_self hinner]

end Expression

namespace Evaluation

variable {disk : Disk} {m : Machine} {t : Text} {locals : Variables} {self : Option Address}
  {s : State}
  (hm : ∀ u, '"' ∉ u → u.length < t.length → FailsIn s (m.eval ('"' :: u) locals self))

include hm

theorem tryMethod_unclosed (ht : '"' ∉ t) :
    tryMethod m ('"' :: t) locals self s = .ok none s ∨
      FailsIn s (tryMethod m ('"' :: t) locals self) := by
  rw [tryMethod]
  cases hcall : Expression.methodCall? ('"' :: t) with
  | none => exact .inl rfl
  | some parts =>
      obtain ⟨receiver, call⟩ := parts
      have hcut := (Text.eq_of_cutLast? hcall).1
      obtain ⟨u, rfl, rfl⟩ := Text.exists_of_quote_eq_append (by decide) hcut
      right
      dsimp only
      cases Expression.methodParts? call with
      | none => exact ⟨_, rfl⟩
      | some parts =>
          refine (hm u ?_ ?_).bind _
          · intro hu
            exact ht (List.mem_append_left _ hu)
          · simp

theorem tryOperation_unclosed (ht : '"' ∉ t) :
    tryOperation m ('"' :: t) locals self s = .ok none s ∨
      FailsIn s (tryOperation m ('"' :: t) locals self) := by
  rw [tryOperation]
  cases hoperation : Expression.operation? ('"' :: t) with
  | none => exact .inl rfl
  | some parts =>
      obtain ⟨op, left, right⟩ := parts
      have hcut := Expression.eq_of_operation? hoperation
      rw [List.append_assoc] at hcut
      obtain ⟨u, rfl, rfl⟩ := Text.exists_of_quote_eq_append (c := ' ') (by decide) hcut
      right
      refine (hm u ?_ ?_).bind _
      · intro hu
        exact ht (List.mem_append_left _ hu)
      · simp

theorem tryApplication_unclosed (ht : '"' ∉ t) :
    tryApplication disk m ('"' :: t) locals self s = .ok none s ∨
      FailsIn s (tryApplication disk m ('"' :: t) locals self) := by
  have hrest : firstOf (tryCall disk m ('"' :: t) locals self) (tryCollection m ('"' :: t)) s =
      .ok none s := by
    have hcall : Expression.call? ('"' :: t) = none :=
      Expression.bracketed?_of_not_isWord (by decide) _ _ _
    rw [firstOf, tryCall, hcall]
    rfl
  rw [tryApplication]
  split
  · rcases tryMethod_unclosed hm ht with hnone | hfails
    · left
      rw [firstOf, bind_of_ok hnone]
      exact hrest
    · exact .inr (hfails.bind _)
  · exact .inl rfl

omit hm

theorem tryField_quote (t : Text) : tryField self ('"' :: t) s = .ok none s :=
  tryField_of_none rfl

theorem index?_quote (t : Text) : Expression.index? ('"' :: t) = none :=
  Expression.bracketed?_of_not_isWord (by decide) _ _ _

theorem isLiteral_quote (t : Text) : Numeral.isLiteral ('"' :: t) = false :=
  Numeral.isLiteral_of_mem List.mem_cons_self (by decide) (by decide)

theorem eval_inQuotes :
    eval disk m (Text.inQuotes t) locals self s =
      orElse (tryOperation m (Text.inQuotes t) locals self) (atom (Text.inQuotes t) locals) s := by
  have hcall : Expression.isCall (Text.inQuotes t) = false := by
    have hend : Text.endsWithChar ')' (Text.inQuotes t) = false :=
      Text.endsWithChar_append_of_not_mem (List.cons_ne_nil _ _) (by decide) ('"' :: t)
    rw [Expression.isCall, hend, Bool.false_and]
  have happlication : tryApplication disk m (Text.inQuotes t) locals self s = .ok none s := by
    rw [tryApplication, hcall]
    rfl
  have hindex : orElse (tryIndex m (Text.inQuotes t) locals) (atom (Text.inQuotes t) locals) =
      atom (Text.inQuotes t) locals := by
    funext u
    exact orElse_of_none (tryIndex_of_none (index?_quote _)) _
  have hfield : tryField self (Text.inQuotes t) s = .ok none s := tryField_quote _
  rw [eval, Text.strip_inQuotes, orElse_of_none hfield, orElse_of_none happlication, hindex]

theorem atom_inQuotes (hnames : s.NamesAreWords locals) (hquote : '"' ∉ t)
    (hnewline : '\n' ∉ t) : atom (Text.inQuotes t) locals s = .ok (.text t) s := by
  have hlookup : s.lookup? locals (Text.inQuotes t) = none := hnames.lookup?_quote _
  have hliteral : Numeral.isLiteral (Text.inQuotes t) = false := isLiteral_quote _
  rw [atom, get_bind, hlookup]
  simp only [hliteral, Expression.isQuoted_inQuotes hnewline, Expression.unquote_inQuotes hquote,
    Bool.false_eq_true, if_false, if_true]
  rfl

end Evaluation

namespace Machine

variable {n : Nat} {t : Text} {locals : Variables} {s : State}

/-- A quote that is not closed makes a text undefined. The induction is on the bound: the receiver
and the left operand, which are evaluated first, are shorter texts of the same kind. -/
theorem eval_unclosed (disk : Disk) (self : Option Address) (hnames : s.NamesAreWords locals)
    (ht : '"' ∉ t) (hn : t.length < n) :
    FailsIn s ((ofBound disk n).eval ('"' :: t) locals self) := by
  induction n generalizing t with
  | zero => omega
  | succ n ih =>
      have hstart := Text.stripEnd_isPrefix Text.isBlank t
      have hu : '"' ∉ Text.stripEnd Text.isBlank t := fun hmem => ht (hstart.subset hmem)
      have hm : ∀ v, '"' ∉ v → v.length < (Text.stripEnd Text.isBlank t).length →
          FailsIn s ((ofBound disk n).eval ('"' :: v) locals self) := by
        intro v hv hlt
        have hle := hstart.length_le
        exact ih hv (by omega)
      change FailsIn s (Evaluation.eval disk (ofBound disk n) ('"' :: t) locals self)
      rw [Evaluation.eval, Text.strip_unclosed]
      apply FailsIn.orElse (.inl (Evaluation.tryField_quote _))
      apply FailsIn.orElse (Evaluation.tryApplication_unclosed hm hu)
      apply FailsIn.orElse (Evaluation.tryOperation_unclosed hm hu)
      apply FailsIn.orElse (.inl (Evaluation.tryIndex_of_none (Evaluation.index?_quote _)))
      exact ⟨_, Evaluation.atom_of_undefined (hnames.lookup?_quote _)
        (Evaluation.isLiteral_quote _) (Expression.isQuoted_unclosed hu)⟩

theorem eval_inQuotes_of_no_mark (disk : Disk) (self : Option Address)
    (hnames : s.NamesAreWords locals) (hquote : '"' ∉ t) (hnewline : '\n' ∉ t)
    (hmark : ∀ op : Operator, ¬op.mark <:+: t) :
    (ofBound disk (n + 1)).eval (Text.inQuotes t) locals self s = .ok (.text t) s := by
  have hoperation : Expression.operation? (Text.inQuotes t) = none := by
    apply Expression.operation?_eq_none
    intro op hinside
    have hnot : '"' ∉ op.mark := by cases op <;> decide
    have hnil : ¬op.mark <:+: [] := by simp [Operator.mark]
    change op.mark <:+: [] ++ '"' :: (t ++ ['"']) at hinside
    rcases Text.isInfix_append_cons hnot hinside with hbefore | hinner
    · exact hnil hbefore
    · rcases Text.isInfix_append_cons hnot hinner with htext | hbehind
      · exact hmark op htext
      · exact hnil hbehind
  exact Evaluation.eval_inQuotes.trans <|
    (Evaluation.orElse_of_none (Evaluation.tryOperation_of_none hoperation) _).trans <|
      Evaluation.atom_inQuotes hnames hquote hnewline

/-- With an operator, a text in quotes fails at what stands before it. -/
theorem eval_inQuotes_of_mark (disk : Disk) (self : Option Address)
    (hnames : s.NamesAreWords locals) (hquote : '"' ∉ t) {op : Operator}
    (hmark : op.mark <:+: t) (hn : t.length < n) :
    FailsIn s ((ofBound disk (n + 1)).eval (Text.inQuotes t) locals self) := by
  have hinside : op.mark <:+: Text.inQuotes t := hmark.trans ⟨['"'], ['"'], rfl⟩
  obtain ⟨⟨op, left, right⟩, hoperation⟩ :=
    Option.ne_none_iff_exists'.mp (Expression.operation?_ne_none hinside)
  have hcut := Expression.eq_of_operation? hoperation
  rw [List.append_assoc] at hcut
  obtain ⟨u, rfl, hu⟩ := Text.exists_of_quote_eq_append (c := ' ') (by decide) hcut
  -- The mark does not end the text, so the left operand ends before the closing quote.
  have hpart : u <+: t := by
    have hwhole : u <+: t ++ ['"'] := ⟨_, hu.symm⟩
    rcases List.prefix_concat_iff.mp hwhole with rfl | hpart
    · simp at hu
    · exact hpart
  have hle := hpart.length_le
  have hleft : FailsIn s ((ofBound disk n).eval ('"' :: u) locals self) :=
    eval_unclosed disk self hnames (fun hmem => hquote (hpart.subset hmem)) (by omega)
  have htry :
      FailsIn s (Evaluation.tryOperation (ofBound disk n) (Text.inQuotes t) locals self) := by
    rw [Evaluation.tryOperation, hoperation]
    exact hleft.bind _
  obtain ⟨cause, hcause⟩ := htry.bind _
  exact ⟨cause, Evaluation.eval_inQuotes.trans hcause⟩

end Machine

/-- A text in double quotes, itself without quotes and newlines, denotes itself if none of the four
operators stands in it between blanks. Otherwise it fails. Names have to be words, since a name is
looked up before quotes are looked for. -/
theorem quoted_text_is_itself_unless_operation (disk : Disk) {n : Nat} {s : State}
    {locals : Variables} (self : Option Address) (hnames : s.NamesAreWords locals) {t : Text}
    (hquote : '"' ∉ t) (hnewline : '\n' ∉ t) (hn : t.length + 1 < n) :
    ((∀ mark ∈ [" + ", " == ", " > ", " < "], ¬mark.toList <:+: t) →
      (Machine.ofBound disk n).eval (Text.inQuotes t) locals self s = .ok (.text t) s) ∧
    ((∃ mark ∈ [" + ", " == ", " > ", " < "], mark.toList <:+: t) →
      ∃ cause, (Machine.ofBound disk n).eval (Text.inQuotes t) locals self s =
        .error (.fault cause) s) := by
  obtain ⟨n, rfl⟩ := Nat.exists_eq_add_of_le' (Nat.le_of_add_left_le hn : 1 ≤ n)
  constructor
  · intro hnone
    apply Machine.eval_inQuotes_of_no_mark disk self hnames hquote hnewline
    intro op
    cases op with
    | add => exact hnone " + " (by decide)
    | equal => exact hnone " == " (by decide)
    | greater => exact hnone " > " (by decide)
    | less => exact hnone " < " (by decide)
  · rintro ⟨mark, hmark, hinside⟩
    have hoperator : ∃ op : Operator, op.mark = mark.toList := by
      simp only [List.mem_cons, List.not_mem_nil, or_false] at hmark
      rcases hmark with rfl | rfl | rfl | rfl
      · exact ⟨.add, rfl⟩
      · exact ⟨.equal, rfl⟩
      · exact ⟨.greater, rfl⟩
      · exact ⟨.less, rfl⟩
    obtain ⟨op, hop⟩ := hoperator
    rw [← hop] at hinside
    exact Machine.eval_inQuotes_of_mark disk self hnames hquote hinside (by omega)

def twoNames : State := { vars := [(some "x", .int 1)], consts := [(some "K", .int 2)] }

/-- A text that looks like a call, an element and a comparison without blanks, and a text that looks
like a sum. -/
theorem quoted_text_is_itself_unless_operation_call :
    twoNames.NamesAreWords [(some "p", .null)] ∧
      (Machine.ofBound .empty 20).eval "\"x.f(p), K[0]>1\"" [(some "p", .null)] none twoNames =
        .ok (.text "x.f(p), K[0]>1") twoNames ∧
      ∃ cause,
        (Machine.ofBound .empty 20).eval "\"x.f(p) + K\"" [(some "p", .null)] none twoNames =
          .error (.fault cause) twoNames := by
  have hnames : twoNames.NamesAreWords [(some "p", .null)] := by
    intro name value h
    rw [State.lookup?, Option.or_eq_some_iff, Option.or_eq_some_iff] at h
    rcases h with (hlocal | ⟨_, hconst⟩) | ⟨_, hvar⟩
    · cases List.mem_singleton.mp (Table.mem_of_get? hlocal)
      exact ⟨⟨"p", by decide, by decide⟩, rfl⟩
    · cases List.mem_singleton.mp (Table.mem_of_get? hconst)
      exact ⟨⟨"K", by decide, by decide⟩, rfl⟩
    · cases List.mem_singleton.mp (Table.mem_of_get? hvar)
      exact ⟨⟨"x", by decide, by decide⟩, rfl⟩
  refine ⟨hnames, ?_, ?_⟩
  · exact (quoted_text_is_itself_unless_operation .empty none hnames (t := "x.f(p), K[0]>1")
      (by decide) (by decide) (by decide)).1 (by decide +kernel)
  · exact (quoted_text_is_itself_unless_operation .empty none hnames (t := "x.f(p) + K")
      (by decide) (by decide) (by decide)).2 ⟨" + ", by decide, by decide +kernel⟩

end LineScript
