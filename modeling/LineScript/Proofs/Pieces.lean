import LineScript.Expression

namespace LineScript

namespace Text

theorem stripEnd_isPrefix (p : Char → Bool) (t : Text) : stripEnd p t <+: t := by
  rw [stripEnd_eq, ← List.reverse_suffix, List.reverse_reverse]
  exact List.dropWhile_suffix p

theorem strip_isInfix (t : Text) : strip t <:+: t :=
  (stripEnd_isPrefix isBlank _).isInfix.trans (List.dropWhile_suffix isBlank).isInfix

theorem isInfix_append_cons {part before after : Text} {c : Char} (hc : c ∉ part)
    (h : part <:+: before ++ c :: after) : part <:+: before ∨ part <:+: after := by
  obtain ⟨front, back, heq⟩ := h
  rw [List.append_assoc, List.append_eq_append_iff] at heq
  rcases heq with ⟨rest, hbefore, hrest⟩ | ⟨rest, hfront, hrest⟩
  · rw [List.append_eq_append_iff] at hrest
    rcases hrest with ⟨inner, hinner, -⟩ | ⟨inner, hpart, hcons⟩
    · left
      rw [hbefore, hinner]
      exact ⟨front, inner, by simp⟩
    · cases inner with
      | nil =>
          left
          rw [hbefore, hpart]
          exact ⟨front, [], by simp⟩
      | cons d inner =>
          rw [List.cons_append, List.cons.injEq] at hcons
          simp [hpart, hcons.1] at hc
  · cases rest with
    | nil =>
        cases part with
        | nil => exact .inl ⟨[], before, rfl⟩
        | cons d part =>
            rw [List.nil_append, List.cons_append, List.cons.injEq] at hrest
            simp [hrest.1] at hc
    | cons d rest =>
        right
        rw [List.cons_append, List.cons.injEq] at hrest
        exact ⟨rest, back, by rw [hrest.2, List.append_assoc]⟩

theorem isInfix_joinWith {part : Text} {parts : List Text} (h : part ∈ parts) (sep : Text) :
    part <:+: joinWith sep parts := by
  induction parts with
  | nil => exact absurd h List.not_mem_nil
  | cons first rest ih =>
      cases rest with
      | nil =>
          obtain rfl := List.mem_singleton.mp h
          exact ⟨[], [], by simp [joinWith]⟩
      | cons next rest =>
          rw [joinWith, List.intercalate_cons_cons, ← joinWith]
          rcases List.mem_cons.mp h with rfl | hrest
          · rw [List.append_assoc]
            exact (List.prefix_append part _).isInfix
          · exact (ih hrest).trans (List.suffix_append _ _).isInfix

theorem isInfix_of_mem_splitAll {sep : Char} {t part : Text} (h : part ∈ splitAll sep t) :
    part <:+: t := by
  have hjoined := isInfix_joinWith h [sep]
  rwa [joinWith_splitAll] at hjoined

theorem isInfix_of_mem_commaParts {t part : Text} (h : part ∈ commaParts t) : part <:+: t := by
  obtain ⟨whole, hwhole, rfl⟩ := List.mem_map.mp (List.mem_filter.mp h).1
  exact (strip_isInfix whole).trans (isInfix_of_mem_splitAll hwhole)

theorem isInfix_of_cutFirst? {mark t before rest : Text}
    (h : cutFirst? mark t = some (before, rest)) : before <:+: t ∧ rest <:+: t := by
  rw [eq_of_cutFirst? h]
  constructor
  · rw [List.append_assoc]
    exact (List.prefix_append before _).isInfix
  · exact (List.suffix_append _ rest).isInfix

end Text

namespace Expression

open Text

theorem eq_of_bracketed? {opening closing : Char} {expr word inner : Text}
    (h : bracketed? opening closing expr = some (word, inner)) :
    ∃ blanks, expr = word ++ (blanks ++ opening :: (inner ++ [closing])) := by
  unfold bracketed? at h
  cases hdrop : dropBlanks (expr.dropWhile isWord) with
  | nil => simp [hdrop] at h
  | cons c rest =>
      rw [hdrop] at h
      dsimp only at h
      split at h
      · rename_i hform
        simp only [Bool.and_eq_true, decide_eq_true_eq, endsWithChar, beq_iff_eq] at hform
        simp only [Option.some.injEq, Prod.mk.injEq] at h
        obtain ⟨rfl, rfl⟩ := h
        obtain ⟨⟨⟨_, rfl⟩, hlast⟩, _⟩ := hform
        obtain ⟨front, rfl⟩ := List.getLast?_eq_some_iff.mp hlast
        refine ⟨(expr.dropWhile isWord).takeWhile isBlank, ?_⟩
        rw [List.dropLast_concat, ← hdrop, dropBlanks, List.takeWhile_append_dropWhile,
          List.takeWhile_append_dropWhile]
      · simp at h

theorem isInfix_of_bracketed? {opening closing : Char} {expr word inner : Text}
    (h : bracketed? opening closing expr = some (word, inner)) :
    word <:+: expr ∧ inner <:+: expr := by
  obtain ⟨blanks, rfl⟩ := eq_of_bracketed? h
  constructor
  · exact (List.prefix_append word _).isInfix
  · exact ⟨word ++ (blanks ++ [opening]), [closing], by simp⟩

theorem isInfix_of_methodCall? {expr receiver call method source : Text}
    (hcall : methodCall? expr = some (receiver, call))
    (hparts : methodParts? call = some (method, source)) :
    receiver <:+: expr ∧ source <:+: expr := by
  obtain ⟨rfl, _⟩ := eq_of_cutLast? hcall
  obtain ⟨⟨before, rest⟩, hcut, heq⟩ := Option.map_eq_some_iff.mp hparts
  simp only [Prod.mk.injEq] at heq
  obtain ⟨_, rfl⟩ := heq
  refine ⟨(List.prefix_append receiver _).isInfix, ?_⟩
  have hcall : call <:+: receiver ++ '.' :: call :=
    ((List.suffix_cons '.' call).trans (List.suffix_append receiver _)).isInfix
  exact ((List.dropLast_prefix rest).isInfix.trans (isInfix_of_cutFirst? hcut).2).trans hcall

theorem isInfix_of_listItems? {expr source : Text} (h : listItems? expr = some source) :
    source <:+: expr := by
  obtain ⟨rest, hrest, rfl⟩ := Option.map_eq_some_iff.mp h
  rw [after?_eq_some_iff.mp hrest]
  exact (List.dropLast_prefix rest).isInfix.trans (List.suffix_append _ rest).isInfix

theorem eq_of_operation? {expr left right : Text} {op : Operator}
    (h : operation? expr = some (op, left, right)) : expr = left ++ op.mark ++ right := by
  rw [operation?] at h
  generalize Operator.all = ops at h
  induction ops with
  | nil => simp [operationFrom?] at h
  | cons first ops ih =>
      rw [operationFrom?] at h
      split at h
      · rename_i hcut
        simp only [Option.some.injEq, Prod.mk.injEq] at h
        obtain ⟨rfl, rfl, rfl⟩ := h
        exact eq_of_cutFirst? hcut
      · exact ih h

theorem isInfix_of_operation? {expr left right : Text} {op : Operator}
    (h : operation? expr = some (op, left, right)) : left <:+: expr ∧ right <:+: expr := by
  rw [eq_of_operation? h]
  constructor
  · rw [List.append_assoc]
    exact (List.prefix_append left _).isInfix
  · exact (List.suffix_append _ right).isInfix

/-!
Where an expression is cut something is lost, so the pieces are shorter.
-/

theorem length_lt_of_bracketed? {opening closing : Char} {expr word inner : Text}
    (h : bracketed? opening closing expr = some (word, inner)) : inner.length < expr.length := by
  obtain ⟨blanks, rfl⟩ := eq_of_bracketed? h
  simp
  omega

theorem length_lt_of_methodCall? {expr receiver call method source : Text}
    (hcall : methodCall? expr = some (receiver, call))
    (hparts : methodParts? call = some (method, source)) :
    receiver.length < expr.length ∧ source.length < expr.length := by
  obtain ⟨rfl, _⟩ := eq_of_cutLast? hcall
  obtain ⟨⟨before, rest⟩, hcut, heq⟩ := Option.map_eq_some_iff.mp hparts
  simp only [Prod.mk.injEq] at heq
  have hle := (isInfix_of_cutFirst? hcut).2.length_le
  rw [← heq.2, List.length_dropLast, List.length_append, List.length_cons]
  omega

theorem length_lt_of_listItems? {expr source : Text} (h : listItems? expr = some source) :
    source.length < expr.length := by
  obtain ⟨rest, hrest, rfl⟩ := Option.map_eq_some_iff.mp h
  rw [after?_eq_some_iff.mp hrest]
  simp
  omega

theorem length_lt_of_operation? {expr left right : Text} {op : Operator}
    (h : operation? expr = some (op, left, right)) :
    left.length < expr.length ∧ right.length < expr.length := by
  rw [eq_of_operation? h]
  simp [Operator.mark]
  omega

end Expression

end LineScript
