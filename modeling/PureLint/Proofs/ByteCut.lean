import PureLint.Text.Basic

/-!
# Cutting texts at byte offsets

A text is cut at a byte offset exactly if some beginning of it has that many bytes
(`cutAt?_eq_some_iff`). An offset with this property is a boundary, and two boundaries in order
divide the text into three parts. The offsets that a search gives are boundaries, with the text that
was searched for behind them.
-/

namespace PureLint.Text

/-- Whether a byte offset lies between two characters of a text, or at one of its ends. -/
def IsBoundary (s : Text) (n : Nat) : Prop := ∃ a b, s = a ++ b ∧ byteLength a = n

theorem cutAt?_append (a b : Text) : cutAt? (byteLength a) (a ++ b) = some (a, b) := by
  induction a with
  | nil => cases b <;> rw [byteLength_nil, List.nil_append, cutAt?]
  | cons c a ih =>
    have hpos := c.utf8Size_pos
    obtain ⟨n, hn⟩ : ∃ n, byteLength (c :: a) = n + 1 :=
      ⟨c.utf8Size - 1 + byteLength a, by simp; omega⟩
    have hle : c.utf8Size ≤ n + 1 := by
      rw [← hn, byteLength_cons]
      omega
    have hrest : n + 1 - c.utf8Size = byteLength a := by
      rw [← hn, byteLength_cons]
      omega
    rw [hn, List.cons_append, cutAt?, if_pos hle, hrest, ih]
    rfl

theorem cutAt?_eq_some_iff {n : Nat} {s a b : Text} :
    cutAt? n s = some (a, b) ↔ s = a ++ b ∧ byteLength a = n := by
  constructor
  · intro h
    exact ⟨(append_of_cutAt? h).symm, byteLength_of_cutAt? h⟩
  · rintro ⟨rfl, rfl⟩
    exact cutAt?_append a b

theorem isBoundary_iff {s : Text} {n : Nat} : IsBoundary s n ↔ (cutAt? n s).isSome = true := by
  constructor
  · rintro ⟨a, b, rfl, rfl⟩
    rw [cutAt?_append]
    rfl
  · intro h
    obtain ⟨⟨a, b⟩, hcut⟩ := Option.isSome_iff_exists.mp h
    exact ⟨a, b, cutAt?_eq_some_iff.mp hcut⟩

instance (s : Text) (n : Nat) : Decidable (IsBoundary s n) := decidable_of_iff _ isBoundary_iff.symm

theorem dropBytes?_append (a b : Text) : dropBytes? (byteLength a) (a ++ b) = some b := by
  rw [dropBytes?, cutAt?_append]
  rfl

theorem slice?_append (a b c : Text) :
    slice? (byteLength a) (byteLength (a ++ b)) (a ++ b ++ c) = some b := by
  have hle : byteLength a ≤ byteLength (a ++ b) := by simp
  have hsub : byteLength (a ++ b) - byteLength a = byteLength b := by simp
  rw [slice?, if_pos hle, hsub, List.append_assoc, cutAt?_append, Option.bind_some, cutAt?_append]
  rfl

theorem IsBoundary.of_append {a b : Text} {n : Nat} (h : IsBoundary (a ++ b) n)
    (hn : byteLength a ≤ n) : ∃ c d, b = c ++ d ∧ byteLength (a ++ c) = n := by
  obtain ⟨e, d, he, rfl⟩ := h
  rcases List.append_eq_append_iff.mp he with ⟨c, rfl, rfl⟩ | ⟨c, rfl, rfl⟩
  · exact ⟨c, d, rfl, rfl⟩
  · -- Here `e` ends inside `a`, so that the two have the same length and `c` has none.
    have hc : c = [] := by
      cases c with
      | nil => rfl
      | cons x xs =>
        have hpos := x.utf8Size_pos
        simp only [byteLength_append, byteLength_cons] at hn
        omega
    subst hc
    exact ⟨[], b, rfl, by simp⟩

theorem IsBoundary.le_byteLength {s : Text} {n : Nat} (h : IsBoundary s n) : n ≤ byteLength s := by
  obtain ⟨a, b, rfl, rfl⟩ := h
  simp

/-- What stands between two boundaries in order divides the text. -/
theorem IsBoundary.append_slice {s : Text} {m n : Nat} (hm : IsBoundary s m) (hn : IsBoundary s n)
    (hle : m ≤ n) :
    ∃ a b, s = a ++ s.slice m n ++ b ∧ byteLength a = m ∧ byteLength (a ++ s.slice m n) = n := by
  obtain ⟨a, rest, rfl, rfl⟩ := hm
  obtain ⟨c, b, rfl, rfl⟩ := hn.of_append hle
  have hslice : slice (byteLength a) (byteLength (a ++ c)) (a ++ (c ++ b)) = c := by
    rw [slice, ← List.append_assoc, slice?_append]
    rfl
  rw [hslice]
  exact ⟨a, b, by simp, rfl, rfl⟩

/-! ## Searching -/

/-- A text that is found stands behind as many bytes as the search says. -/
theorem append_of_findByte? {t s : Text} {n : Nat} (h : findByte? t s = some n) :
    ∃ a b, s = a ++ t ++ b ∧ byteLength a = n := by
  induction s generalizing n with
  | nil =>
    rw [findByte?] at h
    split at h
    · rename_i hempty
      cases h
      exact ⟨[], [], by simpa using hempty, rfl⟩
    · cases h
  | cons c cs ih =>
    rw [findByte?] at h
    split at h
    · rename_i hprefix
      cases h
      obtain ⟨b, hb⟩ := List.isPrefixOf_iff_prefix.mp hprefix
      exact ⟨[], b, hb.symm, rfl⟩
    · obtain ⟨m, hm, rfl⟩ := Option.map_eq_some_iff.mp h
      obtain ⟨a, b, rfl, rfl⟩ := ih hm
      exact ⟨c :: a, b, rfl, Nat.add_comm _ _⟩

theorem append_of_rfindByte? {c : Char} {s : Text} {n : Nat} (h : rfindByte? c s = some n) :
    ∃ a b, s = a ++ c :: b ∧ byteLength a = n := by
  induction s generalizing n with
  | nil => cases h
  | cons d ds ih =>
    rw [rfindByte?] at h
    split at h
    · rename_i m hm
      cases h
      obtain ⟨a, b, rfl, rfl⟩ := ih hm
      exact ⟨d :: a, b, rfl, Nat.add_comm _ _⟩
    · split at h
      · rename_i heq
        cases h
        exact ⟨[], ds, by rw [heq]; rfl, rfl⟩
      · cases h

end PureLint.Text
