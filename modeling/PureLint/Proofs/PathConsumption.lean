import Mathlib.Algebra.GroupWithZero.Nat
import PureLint.Accessor

/-!
# What an accessor pattern matches

A pattern matches a path if its segments can be laid along it from left to right: each takes some
segments of what the segments before it have left. `Consumption` says which numbers of segments they
may take. A `**` takes one or more, or none where the path has ended, and every other segment takes
one. The pattern may leave a rest of the path untouched only if it is open, that is, if it has a
`**` or ends in a glob.

The matcher tries the numbers of each `**` in turn and hands on whether a rest is allowed;
`matchSegments_iff` says that it finds numbers exactly if there are some.
-/

namespace PureLint

/-- Whether a text is matched by a glob. -/
def Glob.Matches (glob t : Text) : Prop := ∃ r, Glob.compile glob = .ok r ∧ r.isFound t = true

namespace Accessor

/-- Whether a segment of a pattern has a `*` but is not `*` or `**`. -/
def IsGlob (p : Text) : Prop := '*' ∈ p ∧ p ≠ ['*'] ∧ p ≠ ['*', '*']

/-- Whether the segment `p` of a pattern may take the first `n` segments of what is left of a
path. -/
def Takes (p : Text) (n : Nat) (left : List Text) : Prop :=
  if p = ['*'] then n = 1
  else if p = ['*', '*'] then 1 ≤ n ∨ (n = 0 ∧ left = [])
  else if '*' ∈ p then n = 1 ∧ ∃ x, left.head? = some x ∧ Glob.Matches p x
  else n = 1 ∧ left.head? = some p

/-- The numbers of segments that the segments of a pattern take from a path, from left to right. -/
structure Consumption (pattern path : List Text) (counts : List Nat) : Prop where
  length_eq : counts.length = pattern.length
  takes : ∀ i p n,
    pattern[i]? = some p → counts[i]? = some n → Takes p n (path.drop (counts.take i).sum)
  within : counts.sum ≤ path.length

/-- Whether a pattern may leave a rest of the path. -/
def IsOpen (pattern : List Text) : Prop :=
  ['*', '*'] ∈ pattern ∨ ∃ p, pattern.getLast? = some p ∧ IsGlob p

/-! ## Segments of a pattern -/

theorem takes_one {n : Nat} {left : List Text} : Takes ['*'] n left ↔ n = 1 := by
  simp [Takes]

theorem takes_deep {n : Nat} {left : List Text} :
    Takes ['*', '*'] n left ↔ 1 ≤ n ∨ (n = 0 ∧ left = []) := by
  simp [Takes]

theorem takes_glob {p : Text} {n : Nat} {left : List Text} (h : IsGlob p) :
    Takes p n left ↔ n = 1 ∧ ∃ x, left.head? = some x ∧ Glob.Matches p x := by
  obtain ⟨hstar, hone, hdeep⟩ := h
  simp [Takes, hstar, hone, hdeep]

theorem ne_deep_of_literal {p : Text} (h : '*' ∉ p) : p ≠ ['*', '*'] := by
  rintro rfl
  simp at h

theorem takes_literal {p : Text} {n : Nat} {left : List Text} (h : '*' ∉ p) :
    Takes p n left ↔ n = 1 ∧ left.head? = some p := by
  have hone : p ≠ ['*'] := by
    rintro rfl
    simp at h
  simp [Takes, h, hone, ne_deep_of_literal h]

theorem parse_cases {p : Text} {seg : Segment} (h : Segment.parse p = .ok seg) :
    (p = ['*'] ∧ seg = .one) ∨ (p = ['*', '*'] ∧ seg = .deep) ∨
      (IsGlob p ∧ ∃ r, Glob.compile p = .ok r ∧ seg = .glob r) ∨ ('*' ∉ p ∧ seg = .literal p) := by
  unfold Segment.parse at h
  simp only [beq_iff_eq, List.contains_iff_mem] at h
  split at h
  · rename_i hone
    cases h
    exact Or.inl ⟨hone, rfl⟩
  · rename_i hone
    split at h
    · rename_i hdeep
      cases h
      exact Or.inr (Or.inl ⟨hdeep, rfl⟩)
    · rename_i hdeep
      split at h
      · rename_i hstar
        cases hc : Glob.compile p with
        | error e => rw [hc] at h; cases h
        | ok r =>
          rw [hc] at h
          cases h
          exact Or.inr (Or.inr (Or.inl ⟨⟨hstar, hone, hdeep⟩, r, rfl, rfl⟩))
      · rename_i hstar
        cases h
        exact Or.inr (Or.inr (Or.inr ⟨hstar, rfl⟩))

theorem parse_of_takes {p : Text} {n : Nat} {left : List Text} (h : Takes p n left) :
    ∃ seg, Segment.parse p = .ok seg := by
  by_cases hone : p = ['*']
  · exact ⟨.one, by simp [Segment.parse, hone]⟩
  · by_cases hdeep : p = ['*', '*']
    · exact ⟨.deep, by simp [Segment.parse, hdeep]⟩
    · by_cases hstar : '*' ∈ p
      · obtain ⟨_, x, _, r, hr, _⟩ := (takes_glob ⟨hstar, hone, hdeep⟩).mp h
        exact ⟨.glob r, by simp [Segment.parse, hone, hdeep, hstar, hr, Except.map]⟩
      · exact ⟨.literal p, by simp [Segment.parse, hone, hdeep, hstar]⟩

theorem isOpen_cons {p : Text} {ps : List Text} :
    IsOpen (p :: ps) ↔ p = ['*', '*'] ∨ (ps = [] ∧ IsGlob p) ∨ IsOpen ps := by
  cases ps with
  | nil => simp [IsOpen, eq_comm]
  | cons q qs =>
    simp only [IsOpen, List.mem_cons, List.getLast?_cons_cons, reduceCtorEq, false_and, false_or]
    grind

theorem isOpen_cons_of_plain {p : Text} {ps : List Text} (hdeep : p ≠ ['*', '*'])
    (hglob : ¬ IsGlob p) : IsOpen (p :: ps) ↔ IsOpen ps := by
  rw [isOpen_cons]
  simp only [hdeep, hglob, and_false, false_or]

/-! ## Laying a pattern along a path -/

theorem consumption_cons {p : Text} {ps path : List Text} {counts : List Nat} :
    Consumption (p :: ps) path counts ↔
      ∃ n ns,
        counts = n :: ns ∧ n ≤ path.length ∧ Takes p n path ∧ Consumption ps (path.drop n) ns := by
  constructor
  · rintro ⟨hlen, htakes, hwithin⟩
    cases counts with
    | nil => simp at hlen
    | cons n ns =>
      rw [List.sum_cons] at hwithin
      refine ⟨n, ns, rfl, by omega, by simpa using htakes 0 p n rfl rfl, ?_, ?_, ?_⟩
      · simpa using hlen
      · -- Behind `n` taken segments, an offset along the path is `n` less along the rest.
        intro i q m hq hm
        have h := htakes (i + 1) q m (by simpa using hq) (by simpa using hm)
        rwa [List.take_succ_cons, List.sum_cons, ← List.drop_drop] at h
      · rw [List.length_drop]
        omega
  · rintro ⟨n, ns, rfl, hn, hp, hlen, htakes, hwithin⟩
    rw [List.length_drop] at hwithin
    refine ⟨by simpa using hlen, ?_, by rw [List.sum_cons]; omega⟩
    intro i q m hq hm
    cases i with
    | zero =>
      simp only [List.getElem?_cons_zero, Option.some.injEq] at hq hm
      subst hq hm
      simpa using hp
    | succ i =>
      rw [List.take_succ_cons, List.sum_cons, ← List.drop_drop]
      exact htakes i q m (by simpa using hq) (by simpa using hm)

/-- Whether a pattern can be laid along a path, and along all of it unless a rest is allowed. -/
def Laid (rest : Prop) (pattern path : List Text) : Prop :=
  ∃ counts, Consumption pattern path counts ∧ (rest ∨ counts.sum = path.length)

theorem laid_congr {rest rest' : Prop} (h : rest ↔ rest') {ps path : List Text} :
    Laid rest ps path ↔ Laid rest' ps path := by
  simp only [Laid, h]

theorem laid_nil {rest : Prop} {path : List Text} : Laid rest [] path ↔ path = [] ∨ rest := by
  constructor
  · rintro ⟨counts, hc, hrest⟩
    have hnil : counts = [] := List.eq_nil_of_length_eq_zero hc.length_eq
    subst hnil
    rcases hrest with hrest | hsum
    · exact Or.inr hrest
    · exact Or.inl (List.eq_nil_of_length_eq_zero hsum.symm)
  · intro h
    refine ⟨[], ⟨rfl, by simp, by simp⟩, ?_⟩
    rcases h with rfl | hrest
    · exact Or.inr rfl
    · exact Or.inl hrest

/-- Laying a pattern means to choose what its first segment takes. -/
theorem laid_cons {rest : Prop} {p : Text} {ps path : List Text} :
    Laid rest (p :: ps) path ↔
      ∃ n, n ≤ path.length ∧ Takes p n path ∧ Laid rest ps (path.drop n) := by
  constructor
  · rintro ⟨counts, hc, hrest⟩
    obtain ⟨n, ns, rfl, hn, hp, hns⟩ := consumption_cons.mp hc
    refine ⟨n, hn, hp, ns, hns, hrest.imp_right fun hsum => ?_⟩
    rw [List.sum_cons] at hsum
    rw [List.length_drop]
    omega
  · rintro ⟨n, hn, hp, ns, hns, hrest⟩
    refine ⟨n :: ns, consumption_cons.mpr ⟨n, ns, rfl, hn, hp, hns⟩, hrest.imp_right fun hsum => ?_⟩
    rw [List.length_drop] at hsum
    rw [List.sum_cons]
    omega

/-- Where the path has ended it does not matter whether a rest is allowed. -/
theorem laid_end {rest rest' : Prop} {ps : List Text} : Laid rest ps [] ↔ Laid rest' ps [] := by
  have hsum : ∀ {counts}, Consumption ps [] counts → counts.sum = ([] : List Text).length :=
    fun hc => Nat.eq_zero_of_le_zero hc.within
  exact ⟨fun ⟨counts, hc, _⟩ => ⟨counts, hc, Or.inr (hsum hc)⟩, fun ⟨counts, hc, _⟩ =>
    ⟨counts, hc, Or.inr (hsum hc)⟩⟩

section Single

variable {rest : Prop} {p : Text} {ps : List Text} (hp : ∀ {n left}, Takes p n left → n = 1)
include hp

theorem not_laid_single_end : ¬ Laid rest (p :: ps) [] := by
  rw [laid_cons]
  rintro ⟨n, hn, ht, _⟩
  have h1 := hp ht
  simp only [List.length_nil] at hn
  omega

theorem laid_single {x : Text} {path : List Text} :
    Laid rest (p :: ps) (x :: path) ↔ Takes p 1 (x :: path) ∧ Laid rest ps path := by
  rw [laid_cons]
  constructor
  · rintro ⟨n, _, ht, hl⟩
    obtain rfl := hp ht
    exact ⟨ht, hl⟩
  · rintro ⟨ht, hl⟩
    exact ⟨1, by simp, ht, hl⟩

end Single

/-! ## The matcher -/

theorem anyDrop_eq_true {f : List Text → Bool} {path : List Text} :
    anyDrop f path = true ↔ ∃ n, 1 ≤ n ∧ n ≤ path.length ∧ f (path.drop n) = true := by
  induction path with
  | nil =>
    simp only [anyDrop, List.length_nil, Bool.false_eq_true, false_iff]
    rintro ⟨n, hpos, hle, _⟩
    omega
  | cons x path ih =>
    rw [anyDrop, Bool.or_eq_true, ih]
    constructor
    · rintro (h | ⟨n, hpos, hle, h⟩)
      · exact ⟨1, Nat.le_refl 1, by simp, h⟩
      · exact ⟨n + 1, by omega, by rw [List.length_cons]; omega, h⟩
    · rintro ⟨n, hpos, hle, h⟩
      obtain ⟨m, rfl⟩ : ∃ m, n = m + 1 := ⟨n - 1, by omega⟩
      rw [List.length_cons] at hle
      rw [List.drop_succ_cons] at h
      cases m with
      | zero => exact Or.inl h
      | succ m => exact Or.inr ⟨m + 1, by omega, by omega, h⟩

/-- A `**` before a path that goes on tries every number of segments. -/
theorem matchSegments_deep (segs : List Segment) (allowExtra : Bool) (x : Text) (path : List Text) :
    matchSegments (.deep :: segs) allowExtra (x :: path) = true ↔
      ∃ n, 1 ≤ n ∧ n ≤ (x :: path).length ∧
        matchSegments segs true ((x :: path).drop n) = true := by
  simp only [matchSegments, Bool.or_eq_true, anyDrop_eq_true]
  constructor
  · rintro (hnil | h)
    · -- A last `**` is taken to match at once; it may as well take all that is left.
      rw [List.isEmpty_iff] at hnil
      subst hnil
      exact ⟨(x :: path).length, by simp, Nat.le_refl _, by simp [matchSegments]⟩
    · exact h
  · exact Or.inr

theorem mapM_parse_cons {p : Text} {ps : List Text} {segs : List Segment}
    (h : (p :: ps).mapM Segment.parse = .ok segs) :
    ∃ seg rest,
      Segment.parse p = .ok seg ∧ ps.mapM Segment.parse = .ok rest ∧ segs = seg :: rest := by
  rw [List.mapM_cons] at h
  cases hp : Segment.parse p with
  | error e => rw [hp] at h; cases h
  | ok seg =>
    cases hps : ps.mapM Segment.parse with
    | error e => rw [hp, hps] at h; cases h
    | ok rest =>
      rw [hp, hps] at h
      cases h
      exact ⟨seg, rest, rfl, rfl, rfl⟩

theorem isEmpty_of_mapM_parse {ps : List Text} {segs : List Segment}
    (h : ps.mapM Segment.parse = .ok segs) : segs.isEmpty = true ↔ ps = [] := by
  cases ps with
  | nil =>
    cases h
    simp
  | cons p ps =>
    obtain ⟨seg, rest, _, _, rfl⟩ := mapM_parse_cons h
    simp

theorem glob_matches_iff {glob t : Text} {r : Regex} (h : Glob.compile glob = .ok r) :
    Glob.Matches glob t ↔ r.isFound t = true := by
  constructor
  · rintro ⟨r', hr', hf⟩
    cases h.symm.trans hr'
    exact hf
  · exact fun hf => ⟨r, h, hf⟩

/-- The matcher succeeds exactly if the pattern can be laid along the path. -/
theorem matchSegments_iff {ps : List Text} {segs : List Segment}
    (h : ps.mapM Segment.parse = .ok segs) (allowExtra : Bool) (path : List Text) :
    matchSegments segs allowExtra path = true ↔ Laid (allowExtra = true ∨ IsOpen ps) ps path := by
  induction ps generalizing segs allowExtra path with
  | nil =>
    obtain rfl : segs = [] := by
      cases h
      rfl
    rw [matchSegments, laid_nil, Bool.or_eq_true, List.isEmpty_iff]
    simp [IsOpen]
  | cons p ps ih =>
    obtain ⟨seg, segs, hp, hps, rfl⟩ := mapM_parse_cons h
    rcases parse_cases hp with ⟨rfl, rfl⟩ | ⟨rfl, rfl⟩ | ⟨hglob, r, hr, rfl⟩ | ⟨hstar, rfl⟩
    · -- A `*` takes one segment, whatever it is.
      have hopen : IsOpen (['*'] :: ps) ↔ IsOpen ps :=
        isOpen_cons_of_plain (by simp) fun hglob => hglob.2.1 rfl
      cases path with
      | nil => simp [matchSegments, not_laid_single_end takes_one.mp]
      | cons x path =>
        rw [matchSegments, ih hps, laid_single takes_one.mp, takes_one,
          laid_congr (or_congr_right hopen)]
        simp
    · -- A `**` takes nothing at the end of the path; before it, it tries all numbers and allows a
      -- rest.
      cases path with
      | nil =>
        rw [matchSegments, ih hps, laid_cons]
        constructor
        · intro hl
          exact ⟨0, Nat.le_refl 0, takes_deep.mpr (Or.inr ⟨rfl, rfl⟩), laid_end.mp hl⟩
        · rintro ⟨n, _, _, hl⟩
          rw [List.drop_nil] at hl
          exact laid_end.mp hl
      | cons x path =>
        have hopen : IsOpen (['*', '*'] :: ps) := isOpen_cons.mpr (Or.inl rfl)
        rw [matchSegments_deep, laid_cons]
        constructor
        · rintro ⟨n, hpos, hn, hm⟩
          refine ⟨n, hn, takes_deep.mpr (Or.inl hpos), ?_⟩
          exact (laid_congr (by simp [hopen])).mp ((ih hps true _).mp hm)
        · rintro ⟨n, hn, ht, hl⟩
          have hpos : 1 ≤ n := by simpa using takes_deep.mp ht
          refine ⟨n, hpos, hn, (ih hps true _).mpr ?_⟩
          exact (laid_congr (by simp [hopen])).mp hl
    · -- A glob takes a segment that it matches, and allows a rest if it is the last.
      have htakes : ∀ {n left}, Takes p n left → n = 1 := fun ht => ((takes_glob hglob).mp ht).1
      have hrest : (allowExtra || segs.isEmpty) = true ∨ IsOpen ps ↔
          allowExtra = true ∨ IsOpen (p :: ps) := by
        rw [isOpen_cons, Bool.or_eq_true, isEmpty_of_mapM_parse hps]
        simp only [hglob, hglob.2.2, and_true, false_or, or_assoc]
      cases path with
      | nil => simp [matchSegments, not_laid_single_end htakes]
      | cons x path =>
        rw [matchSegments, Bool.and_eq_true, ih hps, laid_congr hrest, laid_single htakes,
          takes_glob hglob]
        simp [glob_matches_iff hr]
    · -- A literal takes the segment it is equal to.
      have htakes : ∀ {n left}, Takes p n left → n = 1 := fun ht => ((takes_literal hstar).mp ht).1
      have hopen : IsOpen (p :: ps) ↔ IsOpen ps :=
        isOpen_cons_of_plain (ne_deep_of_literal hstar) fun hglob => hstar hglob.1
      cases path with
      | nil => simp [matchSegments, not_laid_single_end htakes]
      | cons x path =>
        have hhead : (p == x) = true ↔ (x :: path).head? = some p := by
          rw [beq_iff_eq, List.head?_cons, Option.some.injEq, eq_comm]
        rw [matchSegments, Bool.and_eq_true, ih hps, laid_congr (or_congr_right hopen),
          laid_single htakes, takes_literal hstar, hhead]
        simp

theorem mapM_parse_of_consumption {ps path : List Text} {counts : List Nat}
    (h : Consumption ps path counts) : ∃ segs, ps.mapM Segment.parse = .ok segs := by
  induction ps generalizing path counts with
  | nil => exact ⟨[], rfl⟩
  | cons p ps ih =>
    obtain ⟨n, ns, rfl, _, hp, hns⟩ := consumption_cons.mp h
    obtain ⟨seg, hseg⟩ := parse_of_takes hp
    obtain ⟨segs, hsegs⟩ := ih hns
    exact ⟨seg :: segs, by rw [List.mapM_cons, hseg, hsegs]; rfl⟩

end Accessor

namespace AccessorPattern

open Accessor

theorem parse_eq_ok_iff {source : Text} {p : AccessorPattern} :
    parse source = .ok p ↔
      p.source = source ∧ (Text.splitOn '.' source).mapM Segment.parse = .ok p.segments := by
  unfold parse
  cases h : (Text.splitOn '.' source).mapM Segment.parse with
  | error e => simp [Except.map]
  | ok segs =>
    obtain ⟨src, segments⟩ := p
    simp [Except.map, eq_comm]

/-- A text is read as a pattern that matches a path exactly if there are numbers for its segments
under which they use up the path, or a part of it where the pattern is open. -/
theorem isMatch_iff_consumption (pattern text : Text) :
    (∃ p, parse pattern = .ok p ∧ p.isMatch text = true) ↔
      ∃ counts, Consumption (Text.splitOn '.' pattern) (Text.splitOn '.' text) counts ∧
        (IsOpen (Text.splitOn '.' pattern) ∨ counts.sum = (Text.splitOn '.' text).length) := by
  constructor
  · rintro ⟨p, hp, hm⟩
    obtain ⟨_, hsegs⟩ := parse_eq_ok_iff.mp hp
    obtain ⟨counts, hc, hrest⟩ := (matchSegments_iff hsegs false _).mp hm
    exact ⟨counts, hc, by simpa using hrest⟩
  · rintro ⟨counts, hc, hrest⟩
    obtain ⟨segs, hsegs⟩ := mapM_parse_of_consumption hc
    refine ⟨⟨pattern, segs⟩, parse_eq_ok_iff.mpr ⟨rfl, hsegs⟩, ?_⟩
    exact (matchSegments_iff hsegs false _).mpr ⟨counts, hc, hrest.imp_left Or.inr⟩

end AccessorPattern

end PureLint
