import PureLint.Text.Basic

/-!
# Pieces of a text

Splitting a text at a character and writing pieces with a separator between them are the operations
of the library for lists, and undo each other: no piece of a split has the separator in it, and
pieces without it come back from the text that they make up. What stands before the last occurrence
of a character is found exactly if the character occurs (`beforeLast?_eq_some_iff`).
-/

namespace PureLint.Text

theorem splitOn_eq (sep : Char) (t : Text) : splitOn sep t = List.splitOn sep t := by
  induction t with
  | nil => simp [splitOn]
  | cons c cs ih =>
    rw [splitOn, ih, List.splitOn_cons_eq_if_modifyHead]
    by_cases h : c = sep
    · simp [h]
    · have hne : List.splitOn sep cs ≠ [] := List.splitOn_ne_nil sep cs
      rw [if_neg h, if_neg (by simpa using h)]
      split
      · contradiction
      · rename_i p ps hps
        rw [hps, List.modifyHead_cons]

theorem join_eq (sep : Text) (ts : List Text) : join sep ts = sep.intercalate ts := by
  induction ts with
  | nil => rfl
  | cons t rest ih =>
    cases rest with
    | nil => simp [join]
    | cons u rest => rw [join, ih, List.intercalate_cons_cons, List.append_assoc]; simp

theorem splitOn_ne_nil (sep : Char) (t : Text) : splitOn sep t ≠ [] := by
  rw [splitOn_eq]
  exact List.splitOn_ne_nil sep t

theorem splitOn_append_cons (sep : Char) (s t : Text) :
    splitOn sep (s ++ sep :: t) = splitOn sep s ++ splitOn sep t := by
  simp only [splitOn_eq]
  exact List.splitOn_append_cons_self ..

theorem not_mem_of_mem_splitOn {sep : Char} {t p : Text} (h : p ∈ splitOn sep t) : sep ∉ p := by
  induction t generalizing p with
  | nil => simp_all [splitOn]
  | cons c cs ih =>
    rw [splitOn] at h
    split at h
    · rcases List.mem_cons.mp h with rfl | h
      · simp
      · exact ih h
    · rename_i hc
      split at h
      · rename_i hnil
        exact absurd hnil (splitOn_ne_nil sep cs)
      · rename_i first rest hfirst
        rcases List.mem_cons.mp h with rfl | h
        · have hnot : sep ∉ first := ih (hfirst ▸ List.mem_cons_self)
          simp [hnot, Ne.symm hc]
        · exact ih (hfirst ▸ List.mem_cons_of_mem _ h)

theorem splitOn_join {sep : Char} {pieces : List Text} (hne : pieces ≠ [])
    (h : ∀ p ∈ pieces, sep ∉ p) : splitOn sep (join [sep] pieces) = pieces := by
  rw [splitOn_eq, join_eq]
  exact List.splitOn_intercalate sep h hne

theorem length_splitOn (sep : Char) (t : Text) : (splitOn sep t).length = t.count sep + 1 := by
  induction t with
  | nil => rfl
  | cons c cs ih =>
    have hne := splitOn_ne_nil sep cs
    rw [splitOn]
    split
    · rename_i hc
      rw [List.length_cons, ih, hc, List.count_cons_self]
    · rename_i hc
      rw [List.count_cons_of_ne hc, ← ih]
      split
      · contradiction
      · rename_i hps
        rw [hps, List.length_cons, List.length_cons]

/-! ## The last occurrence of a character -/

theorem exists_last_of_mem {c : Char} {t : Text} (h : c ∈ t) :
    ∃ before behind, t = before ++ c :: behind ∧ c ∉ behind := by
  obtain ⟨u, v, hreverse, hu⟩ := List.eq_append_cons_of_mem (List.mem_reverse.mpr h)
  refine ⟨v.reverse, u.reverse, ?_, by simpa using hu⟩
  rw [← List.reverse_reverse t, hreverse]
  simp

theorem beforeLast?_of_not_mem {c : Char} {t : Text} (h : c ∉ t) : beforeLast? c t = none := by
  induction t with
  | nil => rfl
  | cons d ds ih =>
    rw [List.mem_cons, not_or] at h
    rw [beforeLast?, ih h.2]
    exact if_neg (Ne.symm h.1)

theorem beforeLast?_append_cons {c : Char} (before : Text) {behind : Text} (h : c ∉ behind) :
    beforeLast? c (before ++ c :: behind) = some before := by
  induction before with
  | nil =>
    rw [List.nil_append, beforeLast?, beforeLast?_of_not_mem h]
    exact if_pos rfl
  | cons d ds ih => rw [List.cons_append, beforeLast?, ih]

theorem beforeLast?_eq_some_iff {c : Char} {t before : Text} :
    beforeLast? c t = some before ↔ ∃ behind, t = before ++ c :: behind ∧ c ∉ behind := by
  refine ⟨?_, ?_⟩
  · intro h
    by_cases hc : c ∈ t
    · obtain ⟨u, v, rfl, hv⟩ := exists_last_of_mem hc
      rw [beforeLast?_append_cons u hv] at h
      obtain rfl := Option.some.inj h
      exact ⟨v, rfl, hv⟩
    · rw [beforeLast?_of_not_mem hc] at h
      cases h
  · intro h
    obtain ⟨behind, rfl, hbehind⟩ := h
    exact beforeLast?_append_cons before hbehind

theorem rfindByte?_eq (c : Char) (t : Text) :
    rfindByte? c t = (beforeLast? c t).map byteLength := by
  induction t with
  | nil => rfl
  | cons d ds ih =>
    rw [rfindByte?, beforeLast?, ih]
    cases beforeLast? c ds with
    | some before =>
      show some (byteLength before + d.utf8Size) = some (byteLength (d :: before))
      rw [byteLength_cons, Nat.add_comm]
    | none =>
      show (if d = c then some 0 else none) = (if d = c then some [] else none).map byteLength
      split <;> rfl

end PureLint.Text
