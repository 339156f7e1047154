import LineScript.Proofs.Atom

namespace LineScript

structure Chain where
  first : Atom
  rest : List (Operator × Atom)
  deriving DecidableEq

namespace Operator

theorem mem_mark {op : Operator} {c : Char} (h : c ∈ op.mark) : c ∈ (" +=><" : Text) := by
  have hall : op.mark.all (fun c => c ∈ (" +=><" : Text)) = true := by cases op <;> decide
  exact of_decide_eq_true (List.all_eq_true.mp hall c h)

def written : Operator → Text
  | add => " + "
  | equal => " == "
  | greater => " > "
  | less => " < "

theorem written_eq (op : Operator) : op.written = op.mark := by
  cases op <;> rfl

theorem cutFirst?_mark_append {op other : Operator} (hne : other ≠ op) {c : Char}
    (hc : Text.isAtomic c = true) (t : Text) :
    Text.cutFirst? op.mark (other.mark ++ c :: t) =
      (Text.cutFirst? op.mark (c :: t)).map fun parts => (other.mark ++ parts.1, parts.2) := by
  have hblank : ' ' ∉ other.symbol := by cases other <;> decide
  have hother : Text.after? op.mark (other.mark ++ c :: t) = none := by
    cases op <;> cases other <;> simp_all [mark, symbol, Text.after?]
  have hsign : Text.after? op.mark (' ' :: c :: t) = none := by
    have hplus := Text.ne_of_isAtomic hc (by decide : Text.isAtomic '+' = false)
    have hequal := Text.ne_of_isAtomic hc (by decide : Text.isAtomic '=' = false)
    have hgreater := Text.ne_of_isAtomic hc (by decide : Text.isAtomic '>' = false)
    have hless := Text.ne_of_isAtomic hc (by decide : Text.isAtomic '<' = false)
    cases op <;> simp [mark, symbol, Text.after?, Ne.symm, *]
  -- The first blank is followed by the sign of the other operator, the second by an atom.
  have hmark : other.mark ++ c :: t = ' ' :: (other.symbol ++ ' ' :: c :: t) := by simp [mark]
  have hskip : Text.cutFirst? op.mark (other.symbol ++ ' ' :: c :: t) = _ :=
    Text.cutFirst?_append_of_not_mem hblank _ _
  rw [hmark] at hother ⊢
  rw [Text.cutFirst?_cons_of_none hother, hskip]
  change Option.map _ (Option.map _ (Text.cutFirst? op.mark _)) = _
  rw [Text.cutFirst?_cons_of_none hsign, Option.map_map, Option.map_map]
  congr 1
  funext parts
  simp [mark]

end Operator

namespace Chain

def text (c : Chain) : Text :=
  c.first.text ++ c.rest.flatMap fun link => link.1.written ++ link.2.text

theorem text_eq (c : Chain) :
    c.text = c.first.text ++ c.rest.flatMap fun link => link.1.mark ++ link.2.text := by
  simp only [text, Operator.written_eq]

def atoms (c : Chain) : List Atom := c.first :: c.rest.map Prod.snd

/-- The chains before and after the first place of an operator. -/
def cut? (op : Operator) (c : Chain) : Option (Chain × Chain) :=
  match c.rest.dropWhile fun link => link.1 ≠ op with
  | [] => none
  | (_, a) :: after => some (⟨c.first, c.rest.takeWhile fun link => link.1 ≠ op⟩, ⟨a, after⟩)

/-- The operator that a chain is split at, and the chains around it: a sum is split first, then an
equality, and then the two orders. -/
def split? (c : Chain) : Option (Operator × Chain × Chain) :=
  [Operator.add, .equal, .greater, .less].findSome? fun op =>
    (c.cut? op).map fun parts => (op, parts)

theorem cut?_cons_of_ne {op other : Operator} (h : other ≠ op) (a b : Atom)
    (rest : List (Operator × Atom)) :
    cut? op ⟨a, (other, b) :: rest⟩ =
      (cut? op ⟨b, rest⟩).map fun parts =>
        (⟨a, (other, parts.1.first) :: parts.1.rest⟩, parts.2) := by
  simp only [cut?, ne_eq, h, not_false_eq_true, decide_true, List.dropWhile_cons_of_pos,
    List.takeWhile_cons_of_pos]
  split <;> rfl

theorem cut?_cons_self (op : Operator) (a b : Atom) (rest : List (Operator × Atom)) :
    cut? op ⟨a, (op, b) :: rest⟩ = some (⟨a, []⟩, ⟨b, rest⟩) := by
  simp [cut?]

theorem text_cons (a b : Atom) (op : Operator) (rest : List (Operator × Atom)) :
    text ⟨a, (op, b) :: rest⟩ = a.text ++ (op.mark ++ text ⟨b, rest⟩) := by
  simp [text_eq]

theorem exists_text_cons (c : Chain) : ∃ d t, c.text = d :: t ∧ Text.isAtomic d = true := by
  obtain ⟨d, t, htext⟩ := List.exists_cons_of_ne_nil c.first.text_ne_nil
  refine ⟨d, t ++ c.rest.flatMap fun link => link.1.mark ++ link.2.text, ?_, ?_⟩
  · rw [text_eq, htext, List.cons_append]
  · exact Atom.isAtomic_of_mem (htext ▸ List.mem_cons_self)

theorem cutFirst?_text (op : Operator) (a : Atom) (rest : List (Operator × Atom)) :
    Text.cutFirst? op.mark (text ⟨a, rest⟩) =
      (cut? op ⟨a, rest⟩).map fun parts => (parts.1.text, parts.2.text) := by
  have hblank (a : Atom) : ' ' ∉ a.text := fun hmem => by
    have := Atom.isAtomic_of_mem hmem
    simp [Text.isAtomic] at this
  induction rest generalizing a with
  | nil =>
      have htext : text ⟨a, []⟩ = a.text ++ [] := by simp [text_eq]
      rw [htext, Operator.mark, Text.cutFirst?_append_of_not_mem (hblank a)]
      rfl
  | cons link rest ih =>
      obtain ⟨other, b⟩ := link
      rw [text_cons, Operator.mark, Text.cutFirst?_append_of_not_mem (hblank a), ← Operator.mark]
      -- The first atom holds no blank, so the first mark that can be met is that of the first link.
      by_cases h : other = op
      · subst h
        rw [cut?_cons_self, Operator.mark, Text.cutFirst?_append]
        simp [text_eq]
      · obtain ⟨d, t, htext, hd⟩ := exists_text_cons ⟨b, rest⟩
        rw [cut?_cons_of_ne h, htext, Operator.cutFirst?_mark_append h hd, ← htext, ih]
        simp only [Option.map_map]
        congr 1
        funext parts
        simp [text_cons]

theorem operationFrom?_text (c : Chain) (ops : List Operator) :
    Expression.operationFrom? c.text ops =
      (ops.findSome? fun op => (c.cut? op).map fun parts => (op, parts)).map fun split =>
        (split.1, split.2.1.text, split.2.2.text) := by
  induction ops with
  | nil => rfl
  | cons op ops ih =>
      rw [Expression.operationFrom?, cutFirst?_text, List.findSome?_cons]
      cases c.cut? op with
      | none => exact ih
      | some parts => rfl

theorem operation?_text (c : Chain) :
    Expression.operation? c.text =
      c.split?.map fun split => (split.1, split.2.1.text, split.2.2.text) :=
  c.operationFrom?_text Operator.all

theorem eq_of_cut? {op : Operator} {c l r : Chain} (h : c.cut? op = some (l, r)) :
    c = ⟨l.first, l.rest ++ (op, r.first) :: r.rest⟩ := by
  obtain ⟨a, rest⟩ := c
  induction rest generalizing a l with
  | nil => simp [cut?] at h
  | cons link rest ih =>
      obtain ⟨other, b⟩ := link
      by_cases hne : other = op
      · subst hne
        simp only [cut?_cons_self, Option.some.injEq, Prod.mk.injEq] at h
        obtain ⟨rfl, rfl⟩ := h
        rfl
      · rw [cut?_cons_of_ne hne, Option.map_eq_some_iff] at h
        obtain ⟨⟨left, right⟩, hparts, hpair⟩ := h
        simp only [Prod.mk.injEq] at hpair
        obtain ⟨rfl, rfl⟩ := hpair
        have hchain := ih b hparts
        simp only [Chain.mk.injEq] at hchain
        simp [hchain.1, hchain.2]

theorem eq_of_split? {op : Operator} {c l r : Chain} (h : c.split? = some (op, l, r)) :
    c = ⟨l.first, l.rest ++ (op, r.first) :: r.rest⟩ := by
  obtain ⟨other, _, hcut⟩ := List.exists_of_findSome?_eq_some h
  simp only [Option.map_eq_some_iff, Prod.mk.injEq] at hcut
  obtain ⟨parts, hparts, rfl, rfl⟩ := hcut
  exact eq_of_cut? hparts

theorem length_of_split? {op : Operator} {c l r : Chain} (h : c.split? = some (op, l, r)) :
    c.rest.length = l.rest.length + r.rest.length + 1 := by
  rw [eq_of_split? h]
  simp
  omega

theorem atoms_of_split? {op : Operator} {c l r : Chain} (h : c.split? = some (op, l, r)) :
    c.atoms = l.atoms ++ r.atoms := by
  rw [eq_of_split? h]
  simp [atoms]

theorem rest_of_split? {c : Chain} (h : c.split? = none) : c.rest = [] := by
  cases hrest : c.rest with
  | nil => rfl
  | cons link rest =>
      have hmem : link.1 ∈ [Operator.add, .equal, .greater, .less] := by cases link.1 <;> simp
      have hnone := List.findSome?_eq_none_iff.mp h link.1 hmem
      have hcut := cut?_cons_self link.1 c.first link.2 rest
      have hc : c = ⟨c.first, (link.1, link.2) :: rest⟩ := by rw [← hrest]
      rw [← hc] at hcut
      simp [hcut] at hnone

theorem mem_text {c : Chain} {d : Char} (h : d ∈ c.text) :
    Text.isAtomic d = true ∨ d ∈ (" +=><" : Text) := by
  rw [text_eq, List.mem_append, List.mem_flatMap] at h
  rcases h with h | ⟨link, _, h⟩
  · exact .inl (Atom.isAtomic_of_mem h)
  · rcases List.mem_append.mp h with h | h
    · exact .inr (Operator.mem_mark h)
    · exact .inl (Atom.isAtomic_of_mem h)

theorem not_mem_text {d : Char} (hatomic : Text.isAtomic d = false)
    (hmark : d ∉ (" +=><" : Text)) (c : Chain) : d ∉ c.text := by
  intro hmem
  rcases mem_text hmem with h | h
  · rw [hatomic] at h
    exact absurd h Bool.false_ne_true
  · exact hmark h

theorem exists_text_concat (c : Chain) : ∃ t d, c.text = t ++ [d] ∧ Text.isAtomic d = true := by
  have hlast (a : Atom) : ∃ t d, a.text = t ++ [d] ∧ Text.isAtomic d = true := by
    rcases List.eq_nil_or_concat a.text with hnil | ⟨t, d, htext⟩
    · exact absurd hnil a.text_ne_nil
    · rw [List.concat_eq_append] at htext
      have hd : d ∈ a.text := by simp [htext]
      exact ⟨t, d, htext, Atom.isAtomic_of_mem hd⟩
  rcases List.eq_nil_or_concat c.rest with hnil | ⟨rest, link, hrest⟩
  · obtain ⟨t, d, htext, hd⟩ := hlast c.first
    exact ⟨t, d, by simp [text_eq, hnil, htext], hd⟩
  · obtain ⟨t, d, htext, hd⟩ := hlast link.2
    refine ⟨c.first.text ++ (rest.flatMap fun link => link.1.mark ++ link.2.text) ++
      (link.1.mark ++ t), d, ?_, hd⟩
    rw [text_eq, hrest]
    simp [htext]

theorem strip_text (c : Chain) : Text.strip c.text = c.text := by
  obtain ⟨d, rest, hhead, hd⟩ := c.exists_text_cons
  obtain ⟨front, e, hlast, he⟩ := c.exists_text_concat
  exact Text.strip_eq_self hhead (Text.isBlank_of_isAtomic hd) hlast (Text.isBlank_of_isAtomic he)

end Chain

end LineScript
