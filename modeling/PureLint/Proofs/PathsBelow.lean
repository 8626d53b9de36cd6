import PureLint.Proofs.PathConsumption
import PureLint.Proofs.TextPieces

/-!
# A path and what lies below it

A pattern with `.**` behind it matches a path exactly if the pattern alone matches the path up to
some point. The last `**` takes whatever the pattern leaves of the path, also nothing. A `**` inside
the pattern that took nothing could do so only because the path had ended there; on the longer path
it takes what is left instead, and the last one then takes nothing.
-/

namespace PureLint

namespace Accessor

theorem matchSegments_end (segs : List Segment) (allowExtra allowExtra' : Bool) :
    matchSegments segs allowExtra [] = matchSegments segs allowExtra' [] := by
  induction segs with
  | nil => rfl
  | cons seg segs ih =>
    cases seg with
    | deep => simpa [matchSegments] using ih
    | literal t => simp [matchSegments]
    | one => simp [matchSegments]
    | glob r => simp [matchSegments]

/-- A pattern that takes nothing takes one segment as well, unless it is empty. -/
theorem matchSegments_single_of_end {segs : List Segment} (hne : segs ≠ []) {allowExtra : Bool}
    (h : matchSegments segs allowExtra [] = true) (x : Text) :
    matchSegments segs allowExtra [x] = true := by
  cases segs with
  | nil => exact absurd rfl hne
  | cons seg segs =>
    cases seg with
    | deep =>
      rw [matchSegments, matchSegments_end segs allowExtra true] at h
      exact (matchSegments_deep segs allowExtra x []).mpr ⟨1, Nat.le_refl 1, Nat.le_refl 1, h⟩
    | literal t => simp [matchSegments] at h
    | one => simp [matchSegments] at h
    | glob r => simp [matchSegments] at h

theorem exists_pos_take {segs : List Segment} (hsegs : segs ≠ []) {path : List Text}
    (hpath : path ≠ [])
    {allowExtra : Bool}
    (h : ∃ k ≤ path.length, matchSegments segs allowExtra (path.take k) = true) :
    ∃ k, 1 ≤ k ∧ k ≤ path.length ∧ matchSegments segs allowExtra (path.take k) = true := by
  obtain ⟨k, hk, h⟩ := h
  cases k with
  | succ k => exact ⟨k + 1, by omega, hk, h⟩
  | zero =>
    cases path with
    | nil => exact absurd rfl hpath
    | cons x path => exact ⟨1, Nat.le_refl 1, by simp, matchSegments_single_of_end hsegs h x⟩

/-- With `**` behind a pattern, a `**` at its beginning may still take any number of segments. -/
theorem matchSegments_deep_take (segs : List Segment) (allowExtra : Bool) (x : Text)
    (path : List Text) :
    (∃ k ≤ (x :: path).length,
      matchSegments (.deep :: segs) allowExtra ((x :: path).take k) = true) ↔
      ∃ n, 1 ≤ n ∧ n ≤ (x :: path).length ∧
        ∃ k ≤ ((x :: path).drop n).length,
          matchSegments segs true (((x :: path).drop n).take k) = true := by
  constructor
  · rintro ⟨k, hk, h⟩
    cases k with
    | zero =>
      -- Nothing was taken because the path had ended; on the whole path everything is taken.
      rw [List.take_zero, matchSegments, matchSegments_end segs allowExtra true] at h
      exact ⟨(x :: path).length, by simp, Nat.le_refl _, 0, Nat.zero_le _, h⟩
    | succ k =>
      rw [List.take_succ_cons] at h
      obtain ⟨n, hpos, hn, h⟩ := (matchSegments_deep segs allowExtra x (path.take k)).mp h
      rw [← List.take_succ_cons, List.length_take] at hn
      rw [← List.take_succ_cons, List.drop_take] at h
      exact ⟨n, hpos, by omega, k + 1 - n, by rw [List.length_drop]; omega, h⟩
  · rintro ⟨n, hpos, hn, k, hk, h⟩
    rw [List.length_drop] at hk
    obtain ⟨m, rfl⟩ : ∃ m, n = m + 1 := ⟨n - 1, by omega⟩
    have hlen : (x :: path.take (m + k)).length = m + k + 1 := by
      rw [List.length_cons, List.length_take]
      rw [List.length_cons] at hk hn
      omega
    refine ⟨m + 1 + k, by omega, ?_⟩
    rw [Nat.add_right_comm, List.take_succ_cons]
    refine (matchSegments_deep segs allowExtra x (path.take (m + k))).mpr
      ⟨m + 1, hpos, by omega, ?_⟩
    rwa [← List.take_succ_cons, List.drop_take, show m + k + 1 - (m + 1) = k by omega]

theorem exists_take_cons_iff {f : List Text → Bool} (hnil : f [] = false) (x : Text)
    (path : List Text) :
    (∃ k ≤ (x :: path).length, f ((x :: path).take k) = true) ↔
      ∃ k ≤ path.length, f (x :: path.take k) = true := by
  constructor
  · rintro ⟨k, hk, h⟩
    cases k with
    | zero => simp [hnil] at h
    | succ k => exact ⟨k, by simpa using hk, h⟩
  · rintro ⟨k, hk, h⟩
    exact ⟨k + 1, by simpa using hk, h⟩

/-- With `**` behind it a pattern matches exactly what has a beginning that the pattern matches. -/
theorem matchSegments_append_deep (segs : List Segment) (allowExtra : Bool) (path : List Text) :
    matchSegments (segs ++ [.deep]) allowExtra path = true ↔
      ∃ k ≤ path.length, matchSegments segs allowExtra (path.take k) = true := by
  induction segs generalizing allowExtra path with
  | nil =>
    have hleft : matchSegments [.deep] allowExtra path = true := by
      cases path <;> simp [matchSegments]
    exact iff_of_true hleft ⟨0, Nat.zero_le _, by simp [matchSegments]⟩
  | cons seg segs ih =>
    rw [List.cons_append]
    cases path with
    | nil =>
      cases seg with
      | deep => simpa [matchSegments] using ih allowExtra []
      | literal t => simp [matchSegments]
      | one => simp [matchSegments]
      | glob r => simp [matchSegments]
    | cons x path =>
      cases seg with
      | deep =>
        rw [matchSegments_deep, matchSegments_deep_take]
        simp only [ih]
      | literal t =>
        rw [exists_take_cons_iff (by simp [matchSegments])]
        simp only [matchSegments, Bool.and_eq_true, ih]
        constructor
        · rintro ⟨hhead, k, hk, h⟩
          exact ⟨k, hk, hhead, h⟩
        · rintro ⟨k, hk, hhead, h⟩
          exact ⟨hhead, k, hk, h⟩
      | one =>
        rw [exists_take_cons_iff (by simp [matchSegments])]
        simp only [matchSegments, ih]
      | glob r =>
        rw [exists_take_cons_iff (by simp [matchSegments])]
        simp only [matchSegments, Bool.and_eq_true, ih]
        -- A last glob allows a rest of the path; the `**` behind it does so in its place.
        have hrest :
            (∃ k ≤ path.length,
              matchSegments segs (allowExtra || (segs ++ [Segment.deep]).isEmpty) (path.take k) =
                true) ↔
            ∃ k ≤ path.length,
              matchSegments segs (allowExtra || segs.isEmpty) (path.take k) = true := by
          cases segs with
          | nil =>
            have hnil : ∀ b, ∃ k ≤ path.length, matchSegments [] b (path.take k) = true :=
              fun b => ⟨0, Nat.zero_le _, by simp [matchSegments]⟩
            exact iff_of_true (hnil _) (hnil _)
          | cons seg segs => rfl
        rw [hrest]
        constructor
        · rintro ⟨hhead, k, hk, h⟩
          exact ⟨k, hk, hhead, h⟩
        · rintro ⟨k, hk, hhead, h⟩
          exact ⟨hhead, k, hk, h⟩

end Accessor

namespace AccessorPattern

open Accessor

theorem splitOn_below (pattern : Text) :
    Text.splitOn '.' (pattern ++ ".**".toList) = Text.splitOn '.' pattern ++ [['*', '*']] :=
  Text.splitOn_append_cons '.' pattern ['*', '*']

theorem parse_below_eq_ok_iff {pattern : Text} {p : AccessorPattern} :
    parse (pattern ++ ".**".toList) = .ok p ↔
      ∃ q, parse pattern = .ok q ∧ p = ⟨pattern ++ ".**".toList, q.segments ++ [.deep]⟩ := by
  unfold parse
  rw [splitOn_below, List.mapM_append]
  cases (Text.splitOn '.' pattern).mapM Segment.parse with
  | error e => simp [Except.map, bind, Except.bind]
  | ok segs =>
    simp [Except.map, bind, Except.bind, pure, Except.pure, Segment.parse]
    exact eq_comm

theorem splitOn_join_take {text : Text} {k : Nat} (hk : 1 ≤ k) :
    Text.splitOn '.' (Text.join ['.'] ((Text.splitOn '.' text).take k)) =
      (Text.splitOn '.' text).take k := by
  apply Text.splitOn_join
  · intro h
    rcases List.take_eq_nil_iff.mp h with hzero | hnil
    · omega
    · exact Text.splitOn_ne_nil '.' text hnil
  · intro p hp
    exact Text.not_mem_of_mem_splitOn (List.mem_of_mem_take hp)

/-- A pattern with `.**` behind it matches a path exactly if the pattern matches the first segments
of the path, one or more of them. -/
theorem isMatch_below_iff (pattern text : Text) :
    (∃ p, parse (pattern ++ ".**".toList) = .ok p ∧ p.isMatch text = true) ↔
      ∃ k, 1 ≤ k ∧ k ≤ (Text.splitOn '.' text).length ∧
        ∃ p, parse pattern = .ok p ∧
          p.isMatch (Text.join ['.'] ((Text.splitOn '.' text).take k)) = true := by
  constructor
  · rintro ⟨p, hp, hm⟩
    obtain ⟨q, hq, rfl⟩ := parse_below_eq_ok_iff.mp hp
    have hsegs : q.segments ≠ [] := by
      intro hnil
      have hempty := (isEmpty_of_mapM_parse (parse_eq_ok_iff.mp hq).2).mp (by simp [hnil])
      exact Text.splitOn_ne_nil '.' pattern hempty
    obtain ⟨k, hpos, hk, hm⟩ :=
      exists_pos_take hsegs (Text.splitOn_ne_nil '.' text)
        ((matchSegments_append_deep q.segments false _).mp hm)
    refine ⟨k, hpos, hk, q, hq, ?_⟩
    rwa [isMatch, splitOn_join_take hpos]
  · rintro ⟨k, hpos, hk, q, hq, hm⟩
    rw [isMatch, splitOn_join_take hpos] at hm
    exact ⟨_, parse_below_eq_ok_iff.mpr ⟨q, hq, rfl⟩,
      (matchSegments_append_deep q.segments false _).mpr ⟨k, hk, hm⟩⟩

end AccessorPattern

end PureLint
