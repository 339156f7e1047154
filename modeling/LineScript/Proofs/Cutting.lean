import LineScript.Expression

namespace LineScript

namespace Text

theorem not_mem_of_cutFirst? {c : Char} {t before rest : Text}
    (h : cutFirst? [c] t = some (before, rest)) : c ∉ before := by
  induction t generalizing before with
  | nil => simp [cutFirst?, after?] at h
  | cons d t ih =>
      rw [cutFirst?] at h
      split at h
      · simp only [Option.some.injEq, Prod.mk.injEq] at h
        simp [← h.1]
      · rename_i hne
        simp only [Option.map_eq_some_iff, Prod.mk.injEq] at h
        obtain ⟨parts, hparts, rfl, rfl⟩ := h
        have hd : c ≠ d := by
          rintro rfl
          simp [after?] at hne
        simp [hd, ih hparts]

theorem after?_append (lead rest : Text) : after? lead (lead ++ rest) = some rest :=
  after?_eq_some_iff.mpr rfl

theorem after?_of_not_mem {lead t : Text} {c : Char} (hlead : c ∈ lead) (ht : c ∉ t) :
    after? lead t = none := by
  rw [← Option.not_isSome_iff_eq_none, Option.isSome_iff_exists]
  rintro ⟨rest, hrest⟩
  rw [after?_eq_some_iff.mp hrest] at ht
  exact ht (List.mem_append_left rest hlead)

theorem cutFirst?_append (c : Char) (mark rest : Text) :
    cutFirst? (c :: mark) ((c :: mark) ++ rest) = some ([], rest) := by
  rw [List.cons_append, cutFirst?, ← List.cons_append, after?_append]

theorem cutFirst?_cons_of_none {mark t : Text} {c : Char} (h : after? mark (c :: t) = none) :
    cutFirst? mark (c :: t) = (cutFirst? mark t).map fun parts => (c :: parts.1, parts.2) := by
  rw [cutFirst?, h]

theorem cutFirst?_append_of_not_mem {c : Char} {before : Text} (h : c ∉ before) (mark t : Text) :
    cutFirst? (c :: mark) (before ++ t) =
      (cutFirst? (c :: mark) t).map fun parts => (before ++ parts.1, parts.2) := by
  induction before with
  | nil => simp
  | cons d before ih =>
      rw [List.mem_cons, not_or] at h
      have hnone : after? (c :: mark) (d :: (before ++ t)) = none := by simp [after?, h.1]
      rw [List.cons_append, cutFirst?_cons_of_none hnone, ih h.2, Option.map_map]
      rfl

theorem cutFirst?_append_of_not_infix {c : Char} {mark before : Text}
    (h : ¬c :: mark <:+: before ++ (c :: mark).dropLast) (rest : Text) :
    cutFirst? (c :: mark) (before ++ (c :: mark ++ rest)) = some (before, rest) := by
  induction before with
  | nil => exact cutFirst?_append c mark rest
  | cons d before ih =>
      have hnone : after? (c :: mark) (d :: (before ++ (c :: mark ++ rest))) = none := by
        rw [← Option.not_isSome_iff_eq_none, Option.isSome_iff_exists]
        rintro ⟨tail, htail⟩
        -- A mark that begins here ends before the last character of the one behind the part.
        have hmark : c :: mark <+: d :: before ++ (c :: mark ++ rest) :=
          ⟨tail, (after?_eq_some_iff.mp htail).symm⟩
        have hpart :
            d :: before ++ (c :: mark).dropLast <+: d :: before ++ (c :: mark ++ rest) := by
          rw [List.prefix_append_right_inj]
          exact (List.dropLast_prefix _).trans (List.prefix_append _ _)
        have hlength : (c :: mark).length ≤ (d :: before ++ (c :: mark).dropLast).length := by
          simp
        exact h (List.prefix_of_prefix_length_le hmark hpart hlength).isInfix
      have hbefore : ¬c :: mark <:+: before ++ (c :: mark).dropLast := fun hinside =>
        h (hinside.trans (List.suffix_cons d _).isInfix)
      rw [List.cons_append, cutFirst?_cons_of_none hnone, ih hbefore]
      rfl

theorem cutFirst?_eq_none {mark t : Text} (h : ¬mark <:+: t) : cutFirst? mark t = none := by
  rw [← Option.not_isSome_iff_eq_none, Option.isSome_iff_exists]
  rintro ⟨⟨before, rest⟩, hcut⟩
  exact h ⟨before, rest, (eq_of_cutFirst? hcut).symm⟩

theorem cutFirst?_ne_none {mark t : Text} (h : mark <:+: t) : cutFirst? mark t ≠ none := by
  induction t with
  | nil =>
      obtain rfl := List.eq_nil_of_infix_nil h
      simp [cutFirst?, after?]
  | cons c t ih =>
      rw [cutFirst?]
      split
      · simp
      · rename_i hstart
        rcases List.infix_cons_iff.mp h with ⟨rest, hrest⟩ | htail
        · rw [after?_eq_some_iff.mpr hrest.symm] at hstart
          simp at hstart
        · simpa using ih htail

theorem lastPlace?_of_not_mem {c : Char} {t : Text} (h : c ∉ t) (place : Nat)
    (found : Option Nat) : lastPlace? c place found t = found := by
  induction t generalizing place with
  | nil => rfl
  | cons d t ih =>
      rw [List.mem_cons, not_or] at h
      rw [lastPlace?, if_neg (Ne.symm h.1), ih h.2]

theorem lastPlace?_append {c : Char} {rest : Text} (h : c ∉ rest) (before : Text) (place : Nat)
    (found : Option Nat) :
    lastPlace? c place found (before ++ c :: rest) = some (place + before.length) := by
  induction before generalizing place found with
  | nil => rw [List.nil_append, lastPlace?, if_pos rfl, lastPlace?_of_not_mem h]; rfl
  | cons d before ih =>
      rw [List.cons_append, lastPlace?, ih, List.length_cons]
      congr 1
      omega

theorem cutLast?_of_not_mem {c : Char} {t : Text} (h : c ∉ t) : cutLast? c t = none := by
  rw [cutLast?, lastPlace?_of_not_mem h, Option.map_none]

theorem cutLast?_append {c : Char} {rest : Text} (h : c ∉ rest) (before : Text) :
    cutLast? c (before ++ c :: rest) = some (before, rest) := by
  rw [cutLast?, lastPlace?_append h]
  simp

theorem splitAll_of_not_mem {sep : Char} {t : Text} (h : sep ∉ t) : splitAll sep t = [t] := by
  induction t with
  | nil => rfl
  | cons c t ih =>
      rw [List.mem_cons, not_or] at h
      rw [splitAll, if_neg (Ne.symm h.1), ih h.2]

theorem splitAll_append {sep : Char} {part : Text} (h : sep ∉ part) (t : Text) :
    splitAll sep (part ++ sep :: t) = part :: splitAll sep t := by
  induction part with
  | nil => rw [List.nil_append, splitAll, if_pos rfl]
  | cons c part ih =>
      rw [List.mem_cons, not_or] at h
      rw [List.cons_append, splitAll, if_neg (Ne.symm h.1), ih h.2]

theorem splitAll_joinWith {sep : Char} {parts : List Text} (hparts : parts ≠ [])
    (h : ∀ part ∈ parts, sep ∉ part) : splitAll sep (joinWith [sep] parts) = parts := by
  induction parts with
  | nil => exact absurd rfl hparts
  | cons part rest ih =>
      have hpart := h part List.mem_cons_self
      cases rest with
      | nil =>
          rw [joinWith, List.intercalate_singleton, splitAll_of_not_mem hpart]
      | cons next rest =>
          have hrest := ih (List.cons_ne_nil next rest) fun p hp => h p (List.mem_cons_of_mem _ hp)
          rw [joinWith, List.intercalate_cons_cons, ← joinWith, List.append_assoc,
            List.singleton_append, splitAll_append hpart, hrest]

end Text

namespace Expression

theorem bracketed?_of_not_mem {opening : Char} {expr : Text} (h : opening ∉ expr)
    (closing : Char) : bracketed? opening closing expr = none := by
  have hsuffix : Text.dropBlanks (expr.dropWhile Text.isWord) <:+ expr :=
    (List.dropWhile_suffix _).trans (List.dropWhile_suffix _)
  unfold bracketed?
  cases hdrop : Text.dropBlanks (expr.dropWhile Text.isWord) with
  | nil => rfl
  | cons c rest =>
      have hc : c ≠ opening := by
        rintro rfl
        rw [hdrop] at hsuffix
        exact h (hsuffix.subset List.mem_cons_self)
      simp [hc]

theorem bracketed?_of_not_endsWith {closing : Char} {expr : Text}
    (h : Text.endsWithChar closing expr = false) (opening : Char) :
    bracketed? opening closing expr = none := by
  have hsuffix : Text.dropBlanks (expr.dropWhile Text.isWord) <:+ expr :=
    (List.dropWhile_suffix _).trans (List.dropWhile_suffix _)
  unfold bracketed?
  cases hdrop : Text.dropBlanks (expr.dropWhile Text.isWord) with
  | nil => rfl
  | cons c rest =>
      rw [hdrop] at hsuffix
      obtain ⟨front, rfl⟩ := hsuffix
      have hends : Text.endsWithChar closing rest = false := by
        cases rest with
        | nil => rfl
        | cons d rest => simpa [Text.endsWithChar, List.getLast?_append] using h
      simp [hends]

theorem bracketed?_of_not_isWord {c : Char} (h : Text.isWord c = false) (opening closing : Char)
    (t : Text) : bracketed? opening closing (c :: t) = none := by
  unfold bracketed?
  rw [List.takeWhile_cons_of_neg (by simp [h])]
  split
  · rfl
  · simp

theorem operation?_eq_none {expr : Text} (h : ∀ op : Operator, ¬op.mark <:+: expr) :
    operation? expr = none := by
  rw [operation?]
  induction Operator.all with
  | nil => rfl
  | cons op ops ih => rw [operationFrom?, Text.cutFirst?_eq_none (h op), ih]

theorem operation?_ne_none {expr : Text} {op : Operator} (h : op.mark <:+: expr) :
    operation? expr ≠ none := by
  have hmem : op ∈ Operator.all := by cases op <;> decide
  rw [operation?]
  generalize Operator.all = ops at hmem ⊢
  induction ops with
  | nil => simp at hmem
  | cons first ops ih =>
      rw [operationFrom?]
      split
      · simp
      · rename_i hcut
        rcases List.mem_cons.mp hmem with rfl | hmem
        · exact absurd hcut (Text.cutFirst?_ne_none h)
        · exact ih hmem

end Expression

end LineScript
