import PureLint.Proofs.LayoutMeaning
import PureLint.Proofs.PathConsumption
import PureLint.Proofs.TextPieces

/-!
# What a glob matches

A glob is written as a regular expression, and that is read again. Every character of the glob is
written so that the reader takes it as one part (`body?_spell`): a `*` as a repetition, any other
character as itself. The expression of a glob is therefore the sequence of these parts between the
two ends of a text (`parse?_toPattern`), and it matches the texts that consist of the pieces of the
glob with something on the line between neighbours (`isFound_regex`). It is refused only for its
size, which grows with the length of the glob (`size_regex_le`) and with the number of its `*`
(`not_fits_of_count`).
-/

namespace PureLint

/-! ## Ranges in order -/

theorem Unicode.Ranges.complement_of_pairwise {r : Range} {rs : Ranges}
    (h : (r :: rs).Pairwise fun a b => decide (a.first ≤ b.first) = true) :
    complement (r :: rs) = gaps 0 (glue r rs) := by
  rw [complement, normalize, List.mergeSort_of_pairwise h]

/-! ## Reading one part -/

namespace Regex.Reader

variable {n room : Nat} {d : Draft} {cs : Text} {c : Char}

theorem body?_start :
    body? (n + 1) room {} d ('^' :: cs) =
      body? n room {} (d.push { regex := .look .textStart }) cs := rfl

theorem body?_end : body? (n + 2) room {} d ['$'] = some (d.push { regex := .look .textEnd }, []) :=
  rfl

theorem body?_plain (h : isMeta c = false) :
    body? (n + 1) room {} d (c :: cs) =
      body? n room {} (d.push { regex := literal {} c.toNat }) cs := by
  simp only [isMeta, List.contains_eq_mem, List.mem_cons, List.not_mem_nil, or_false,
    decide_eq_false_iff_not, not_or] at h
  simp [body?, skipSpace, atom?, h]

theorem escape?_meta (h : isMeta c = true) :
    escape? {} (c :: cs) = some (.literal c.toNat, cs) := by
  simp only [isMeta, List.contains_eq_mem, List.mem_cons, List.not_mem_nil, or_false,
    decide_eq_true_eq] at h
  -- Each of these characters is known, so the reader can be run on it whatever follows.
  repeat
    obtain rfl | h := h
    · rfl

theorem body?_escaped (h : isMeta c = true) :
    body? (n + 1) room {} d ('\x5c' :: c :: cs) =
      body? n room {} (d.push { regex := literal {} c.toNat }) cs := by
  simp [body?, skipSpace, atom?, escape?_meta h]

theorem skipLazyMark_of_head?_ne (h : cs.head? ≠ some '?') : skipLazyMark cs = cs := by
  unfold skipLazyMark
  split
  · simp at h
  · rfl

theorem body?_wild (h : cs.head? ≠ some '?') :
    body? (n + 2) room {} d ('.' :: '*' :: cs) =
      body? n room {} (d.push { regex := .rep (.chars (dot {})) 0 none true, height := 1 }) cs := by
  have hread : body? (n + 2) room {} d ('.' :: '*' :: cs) =
      body? n room {}
        (d.push { regex := .rep (.chars (dot {})) 0 none (isGreedy {} cs), height := 1 })
        (skipLazyMark cs) := rfl
  have hgreedy : isGreedy {} cs = true := by simp [isGreedy, h]
  rw [hread, hgreedy, skipLazyMark_of_head?_ne h]

end Regex.Reader

namespace Glob

open Regex Regex.Reader

/-! ## The text of the expression -/

/-- How a character of a glob is written. -/
def spell (c : Char) : Text := if c = '*' then ['.', '*'] else escape [c]

theorem escape_cons (c : Char) (cs : Text) : escape (c :: cs) = escape [c] ++ escape cs := by
  by_cases h : isMeta c <;> simp [escape, h]

theorem join_escape_splitOn (glob : Text) :
    Text.join ['.', '*'] ((Text.splitOn '*' glob).map escape) = glob.flatMap spell := by
  simp only [Text.join_eq]
  induction glob with
  | nil => rfl
  | cons c glob ih =>
    obtain ⟨p, ps, hps⟩ := List.exists_cons_of_ne_nil (Text.splitOn_ne_nil '*' glob)
    rw [hps] at ih
    rw [Text.splitOn, List.flatMap_cons, ← ih]
    by_cases hc : c = '*'
    · rw [if_pos hc, hps, spell, if_pos hc]
      simp [escape, List.intercalate_cons_cons]
    · rw [if_neg hc, hps, spell, if_neg hc]
      simp only [List.map_cons]
      rw [escape_cons]
      cases ps with
      | nil => simp
      | cons q ps => simp [List.intercalate_cons_cons]

theorem toPattern_eq (glob : Text) : toPattern glob = '^' :: (glob.flatMap spell ++ ['$']) := by
  rw [toPattern, join_escape_splitOn]

/-- Nothing in the expression is taken for the mark of a lazy repetition. -/
theorem head?_spelled_ne (glob : Text) : (glob.flatMap spell ++ ['$']).head? ≠ some '?' := by
  cases glob with
  | nil => decide
  | cons c glob =>
    rw [List.flatMap_cons, spell]
    by_cases hc : c = '*'
    · simp [hc]
    · by_cases hm : isMeta c
      · simp [hc, hm, escape]
      · have hne : c ≠ '?' := by
          rintro rfl
          exact hm rfl
        simp [hc, hm, escape, hne]

/-! ## Reading the expression -/

/-- What a character of a glob is read as. -/
def part (c : Char) : Part :=
  if c = '*' then { regex := .rep (.chars (dot {})) 0 none true, height := 1 }
  else { regex := literal {} c.toNat }

/-- The expression of a part of a glob that ends the glob. -/
def suffix (glob : Text) : Regex := glob.foldr (fun c r => .cat (part c).regex r) (.look .textEnd)

/-- The expression of a glob. -/
def regex (glob : Text) : Regex := .cat (.look .textStart) (suffix glob)

/-- A character of the glob becomes one part, in no more steps than it is written with
characters. -/
theorem body?_spell {n room : Nat} {d : Draft} {c : Char} {cs : Text} (hcs : cs.head? ≠ some '?')
    (hn : (spell c).length ≤ n) :
    ∃ n', n ≤ n' + (spell c).length ∧
      body? n room {} d (spell c ++ cs) = body? n' room {} (d.push (part c)) cs := by
  unfold spell part at *
  by_cases hc : c = '*'
  · rw [if_pos hc] at hn
    obtain ⟨n', rfl⟩ := Nat.exists_eq_add_of_le' hn
    rw [if_pos hc, if_pos hc]
    exact ⟨n', Nat.le_refl _, body?_wild hcs⟩
  · rw [if_neg hc] at hn
    rw [if_neg hc, if_neg hc]
    by_cases hm : isMeta c
    · simp only [escape, hm, if_true, List.length_cons, List.length_nil] at hn ⊢
      obtain ⟨n', rfl⟩ : ∃ n', n = n' + 1 := ⟨n - 1, by omega⟩
      exact ⟨n', by omega, body?_escaped hm⟩
    · rw [Bool.not_eq_true] at hm
      simp only [escape, hm, Bool.false_eq_true, if_false, List.length_cons,
        List.length_nil] at hn ⊢
      obtain ⟨n', rfl⟩ : ∃ n', n = n' + 1 := ⟨n - 1, by omega⟩
      exact ⟨n', Nat.le_refl _, body?_plain hm⟩

theorem body?_spelled (glob : Text) {n room : Nat} (d : Draft)
    (hn : (glob.flatMap spell).length + 2 ≤ n) :
    body? n room {} d (glob.flatMap spell ++ ['$']) =
      some ({ d with parts := { regex := .look .textEnd } :: ((glob.map part).reverse ++ d.parts) },
        []) := by
  -- Two steps are kept for the end of the expression; each character takes its own from the rest.
  induction glob generalizing n d with
  | nil =>
    obtain ⟨n, rfl⟩ := Nat.exists_eq_add_of_le' hn
    exact body?_end
  | cons c glob ih =>
    rw [List.flatMap_cons, List.length_append] at hn
    rw [List.flatMap_cons, List.append_assoc]
    obtain ⟨n', hn', hstep⟩ :=
      body?_spell (head?_spelled_ne glob) (show (spell c).length ≤ n by omega)
    rw [hstep, ih (d.push (part c)) (by omega)]
    simp [Draft.push]

theorem behind_suffix (c : Char) (glob : Text) :
    behind (part c).regex (suffix glob) = suffix (c :: glob) := by
  have hsuffix : suffix glob ≠ .empty := by cases glob <;> simp [suffix]
  have hpart : (part c).regex ≠ .empty := by
    unfold part
    split <;> simp [literal]
  unfold behind
  split
  · contradiction
  · contradiction
  · rfl

theorem foldr_behind (glob : Text) :
    (glob.map part).foldr (fun q r => behind q.regex r) (.look .textEnd) = suffix glob := by
  induction glob with
  | nil => rfl
  | cons c glob ih => rw [List.map_cons, List.foldr_cons, ih, behind_suffix]

theorem foldr_height_le (glob : Text) :
    (glob.map part).foldr (fun q h => max h q.height) 0 ≤ 1 := by
  induction glob with
  | nil => exact Nat.zero_le 1
  | cons c glob ih =>
    have hpart : (part c).height ≤ 1 := by
      unfold part
      split <;> simp
    rw [List.map_cons, List.foldr_cons]
    exact Nat.max_le.mpr ⟨ih, hpart⟩

/-- The parts of the expression of a glob, the last first. -/
def readParts (glob : Text) : List Part :=
  { regex := .look .textEnd } :: ((glob.map part).reverse ++ [{ regex := .look .textStart }])

theorem close_readParts (glob : Text) :
    Draft.close { parts := readParts glob } =
      { regex := regex glob
        height := (glob.map part).foldr (fun q h => max h q.height) 0 + 1 } := by
  have hclose : ∀ p : Part, joined .alt [p] = p := fun _ => rfl
  have hjoined : ∀ (q : Part) (ps : List Part),
      joined behind (q :: (ps ++ [{ regex := .look .textStart }])) =
        { regex := behind (.look .textStart) (ps.foldl (fun r p => behind p.regex r) q.regex)
          height := ps.foldl (fun h p => max h p.height) q.height + 1 } := by
    intro q ps
    cases ps <;> simp [joined]
  rw [Draft.close, hclose, Draft.sequence, readParts, hjoined, List.foldl_reverse,
    List.foldl_reverse, foldr_behind]
  cases glob <;> rfl

/-- The expression of a glob is well formed, whatever is in the glob. -/
theorem parse?_toPattern (glob : Text) : Regex.parse? (toPattern glob) = some (regex glob) := by
  have hbody : body? (2 * (toPattern glob).length + 2) nestLimit {} {} (toPattern glob) =
      some ({ parts := readParts glob }, []) := by
    rw [toPattern_eq, body?_start, body?_spelled glob _ (by simp; omega)]
    rfl
  have hheight := foldr_height_le glob
  rw [Regex.parse?, hbody]
  simp only [close_readParts]
  rw [if_pos (by simp only [nestLimit]; omega)]

/-! ## Texts that the expression matches -/

/-- The text consists of the pieces, with something on the line between neighbours. -/
def Filled (pieces : List Text) (t : Text) : Prop :=
  ∃ fillings : List Text, pieces.length = fillings.length + 1 ∧ (∀ w ∈ fillings, '\n' ∉ w) ∧
    t = (List.zipWith (· ++ ·) pieces (fillings ++ [[]])).flatten

theorem filled_single {p t : Text} : Filled [p] t ↔ t = p := by
  constructor
  · rintro ⟨ws, hlen, -, rfl⟩
    obtain rfl : ws = [] := List.length_eq_zero_iff.mp (by simpa using hlen.symm)
    simp
  · rintro rfl
    exact ⟨[], rfl, by simp, by simp⟩

theorem filled_nil_cons {p : Text} {ps : List Text} {t : Text} :
    Filled ([] :: p :: ps) t ↔ ∃ w s, t = w ++ s ∧ '\n' ∉ w ∧ Filled (p :: ps) s := by
  constructor
  · rintro ⟨ws, hlen, hws, rfl⟩
    cases ws with
    | nil => simp at hlen
    | cons w ws =>
      refine ⟨w, _, by simp, hws w (by simp), ws, by simpa using hlen, ?_, rfl⟩
      exact fun v hv => hws v (List.mem_cons_of_mem w hv)
  · rintro ⟨w, s, rfl, hw, ws, hlen, hws, rfl⟩
    exact ⟨w :: ws, by simpa using hlen, by simpa using ⟨hw, hws⟩, by simp⟩

theorem filled_cons_cons {c : Char} {p : Text} {ps : List Text} {t : Text} :
    Filled ((c :: p) :: ps) t ↔ ∃ s, t = c :: s ∧ Filled (p :: ps) s := by
  constructor
  · rintro ⟨ws, hlen, hws, rfl⟩
    refine ⟨_, ?_, ws, hlen, hws, rfl⟩
    cases ws <;> simp
  · rintro ⟨s, rfl, ws, hlen, hws, rfl⟩
    refine ⟨ws, hlen, hws, ?_⟩
    cases ws <;> simp

/-- The text is something that a character of a glob stands for. -/
def Stands (c : Char) (w : Text) : Prop := if c = '*' then '\n' ∉ w else w = [c]

/-- A text consists of the pieces of a glob if it begins with what the first character stands for
and the rest consists of the pieces of the rest. -/
theorem filled_splitOn_cons {c : Char} {glob t : Text} :
    Filled (Text.splitOn '*' (c :: glob)) t ↔
      ∃ w s, t = w ++ s ∧ Stands c w ∧ Filled (Text.splitOn '*' glob) s := by
  obtain ⟨p, ps, hps⟩ := List.exists_cons_of_ne_nil (Text.splitOn_ne_nil '*' glob)
  rw [Text.splitOn, hps]
  by_cases hc : c = '*'
  · simp only [Stands, if_pos hc]
    exact filled_nil_cons
  · simp only [Stands, if_neg hc, filled_cons_cons]
    constructor
    · rintro ⟨s, rfl, h⟩
      exact ⟨[c], s, rfl, rfl, h⟩
    · rintro ⟨w, s, rfl, rfl, h⟩
      exact ⟨s, rfl, h⟩

theorem dot_eq : dot {} = ⟨[⟨0, 9⟩, ⟨11, 0xd7ff⟩, ⟨0xe000, 0x10ffff⟩]⟩ :=
  congrArg CharClass.mk (Unicode.Ranges.complement_of_pairwise (by decide))

theorem has_dot (c : Char) : (dot {}).has c.toNat = true ↔ c ≠ '\n' := by
  have hvalid : c.toNat < 0xd800 ∨ 0xdfff < c.toNat ∧ c.toNat < 0x110000 := c.valid
  have hne : c = '\n' ↔ c.toNat = 10 := by
    constructor
    · rintro rfl
      rfl
    · intro h
      exact Char.toNat_inj.mp h
  rw [dot_eq, ne_eq, hne]
  simp only [CharClass.has, Unicode.Ranges.has, Unicode.Range.contains, List.any_cons, List.any_nil,
    Bool.or_false, Bool.or_eq_true, Bool.and_eq_true, decide_eq_true_eq]
  omega

theorem has_single (c c' : Char) : (CharClass.single c.toNat).has c'.toNat = true ↔ c' = c := by
  simp only [CharClass.single, CharClass.has, Unicode.Ranges.has, Unicode.Range.contains,
    List.any_cons, List.any_nil, Bool.or_false, Bool.and_eq_true, decide_eq_true_eq]
  rw [← Nat.le_antisymm_iff, Char.toNat_inj, eq_comm]

theorem spans_chars {t : Text} {cls : CharClass} {i j : Nat} :
    Spans t (.chars cls) i j ↔
      j = i + 1 ∧ ∃ c, t.drop i = c :: t.drop j ∧ cls.has c.toNat = true := by
  refine and_congr_right ?_
  rintro rfl
  refine exists_congr fun c => and_congr_left fun _ => ?_
  constructor
  · intro h
    obtain ⟨hlt, rfl⟩ := List.getElem?_eq_some_iff.mp h
    exact List.drop_eq_getElem_cons hlt
  · intro h
    have hhead : (t.drop i)[0]? = some c := by rw [h]; rfl
    rwa [List.getElem?_drop, Nat.add_zero] at hhead

theorem steps_chars {t : Text} {cls : CharClass} {n i j : Nat} :
    Steps (Spans t (.chars cls)) n i j ↔
      j = i + n ∧
        ∃ w, t.drop i = w ++ t.drop j ∧ w.length = n ∧ ∀ c ∈ w, cls.has c.toNat = true := by
  induction n generalizing i with
  | zero =>
    constructor
    · rintro rfl
      exact ⟨rfl, [], rfl, rfl, by simp⟩
    · rintro ⟨rfl, -⟩
      rfl
  | succ n ih =>
    constructor
    · rintro ⟨k, hk, h⟩
      obtain ⟨rfl, c, hc, hhas⟩ := spans_chars.mp hk
      obtain ⟨rfl, w, hw, rfl, hall⟩ := ih.mp h
      exact ⟨by omega, c :: w, by rw [hc, hw]; rfl, rfl, by simpa using ⟨hhas, hall⟩⟩
    · rintro ⟨rfl, w, hw, hlen, hall⟩
      cases w with
      | nil => simp at hlen
      | cons c w =>
        have hrest : t.drop (i + 1) = w ++ t.drop (i + (n + 1)) := by rw [← List.tail_drop, hw]; rfl
        have hhead : Spans t (.chars cls) i (i + 1) :=
          spans_chars.mpr ⟨rfl, c, by rw [hw, hrest]; rfl, hall c (by simp)⟩
        refine ⟨i + 1, hhead, ih.mpr ⟨by omega, w, hrest, by simpa using hlen, ?_⟩⟩
        exact fun c' hc' => hall c' (List.mem_cons_of_mem c hc')

theorem spans_part {t : Text} {c : Char} {i j : Nat} :
    Spans t (part c).regex i j ↔ ∃ w, j = i + w.length ∧ t.drop i = w ++ t.drop j ∧ Stands c w := by
  by_cases hc : c = '*'
  · have hline : ∀ w : Text, (∀ c ∈ w, (dot {}).has c.toNat = true) ↔ '\n' ∉ w := by
      intro w
      simp only [has_dot]
      exact ⟨fun h hmem => h _ hmem rfl, fun h c hc heq => h (heq ▸ hc)⟩
    simp only [part, Stands, if_pos hc, ← hline]
    constructor
    · rintro ⟨n, -, -, h⟩
      obtain ⟨rfl, w, hw, rfl, hall⟩ := steps_chars.mp h
      exact ⟨w, rfl, hw, hall⟩
    · rintro ⟨w, rfl, hw, hall⟩
      exact ⟨w.length, Nat.zero_le _, by simp, steps_chars.mpr ⟨rfl, w, hw, rfl, hall⟩⟩
  · have hliteral : literal {} c.toNat = .chars (CharClass.single c.toNat) := rfl
    simp only [part, Stands, if_neg hc, hliteral, spans_chars, has_single]
    constructor
    · rintro ⟨rfl, _, hdrop, rfl⟩
      exact ⟨_, rfl, hdrop, rfl⟩
    · rintro ⟨w, hj, hdrop, rfl⟩
      exact ⟨hj, c, hdrop, rfl⟩

/-- What is left of a glob matches what is left of a text, up to its end. -/
theorem spans_suffix (glob : Text) {t : Text} {i j : Nat} (hi : i ≤ t.length) :
    Spans t (suffix glob) i j ↔ j = t.length ∧ Filled (Text.splitOn '*' glob) (t.drop i) := by
  induction glob generalizing i with
  | nil =>
    have hend : t[i]? = none ↔ i = t.length := by rw [List.getElem?_eq_none_iff]; omega
    have hspan : Spans t (suffix []) i j ↔ i = j ∧ t[i]? = none := by
      simp [suffix, Spans, Look.holds, spotAt]
    rw [hspan, hend, Text.splitOn, filled_single, List.drop_eq_nil_iff]
    omega
  | cons c glob ih =>
    rw [filled_splitOn_cons]
    constructor
    · rintro ⟨k, hk, h⟩
      obtain ⟨w, -, hw, hstands⟩ := spans_part.mp hk
      obtain ⟨hj, hfill⟩ := (ih (hk.le_length hi)).mp h
      exact ⟨hj, w, t.drop k, hw, hstands, hfill⟩
    · rintro ⟨hj, w, s, hw, hstands, hfill⟩
      -- The rest of the text is what lies behind the position that the first part leads to.
      have hs : t.drop (i + w.length) = s := by rw [← List.drop_drop, hw, List.drop_left]
      have hk : Spans t (part c).regex i (i + w.length) :=
        spans_part.mpr ⟨w, rfl, by rw [hw, hs], hstands⟩
      exact ⟨i + w.length, hk, (ih (hk.le_length hi)).mpr ⟨hj, hs ▸ hfill⟩⟩

/-- A glob is found in the texts that consist of its pieces with something on the line between
neighbours. -/
theorem isFound_regex (glob t : Text) :
    (regex glob).isFound t = true ↔ Filled (Text.splitOn '*' glob) t := by
  rw [isFound_iff]
  constructor
  · rintro ⟨i, j, hi, k, ⟨rfl, hstart⟩, h⟩
    -- The text begins where nothing stands in front.
    have hzero : i = 0 := by
      simp only [Look.holds, spotAt, Option.isNone_iff_eq_none, ite_eq_left_iff,
        List.getElem?_eq_none_iff] at hstart
      omega
    obtain ⟨-, hfill⟩ := (spans_suffix glob hi).mp h
    rwa [hzero, List.drop_zero] at hfill
  · intro hfill
    exact ⟨0, t.length, Nat.zero_le _, 0, ⟨rfl, rfl⟩,
      (spans_suffix glob (Nat.zero_le _)).mpr ⟨rfl, hfill⟩⟩

/-! ## Size -/

/-- The characters of a line are no surrogates to begin with. -/
theorem dot_without_surrogates : (dot {}).ranges.without [⟨0xd800, 0xdfff⟩] = (dot {}).ranges := by
  have hdot : Unicode.Ranges.complement (dot {}).ranges = [⟨10, 10⟩, ⟨0xd800, 0xdfff⟩] := by
    rw [dot_eq]
    exact Unicode.Ranges.complement_of_pairwise (by decide)
  have hsurrogates :
      Unicode.Ranges.complement (Unicode.Ranges.complement [⟨0xd800, 0xdfff⟩]) =
        [⟨0xd800, 0xdfff⟩] := by
    rw [Unicode.Ranges.complement_of_pairwise (by decide)]
    exact Unicode.Ranges.complement_of_pairwise (by decide)
  have hjoin : Unicode.Ranges.join [⟨10, 10⟩, ⟨0xd800, 0xdfff⟩] [⟨0xd800, 0xdfff⟩] =
      [⟨10, 10⟩, ⟨0xd800, 0xdfff⟩] := by
    rw [Unicode.Ranges.join, Unicode.Ranges.normalize, List.mergeSort_of_pairwise (by decide)]
    rfl
  rw [Unicode.Ranges.without, Unicode.Ranges.meet, hdot, hsurrogates, hjoin, dot_eq]
  exact Unicode.Ranges.complement_of_pairwise (by decide)

theorem ofClass_dot (d : Direction) :
    Size.ofClass d (dot {}) = match d with
      | .forward => 424
      | .backward => 1000 := by
  have hsequences : Utf8.byteSequences (dot {}) =
      [⟨0, 9⟩, ⟨11, 0xd7ff⟩, ⟨0xe000, 0x10ffff⟩].flatMap (Utf8.sequencesOf 10) := by
    rw [Utf8.byteSequences, dot_without_surrogates, dot_eq]
  rw [dot_eq] at hsequences ⊢
  simp only [Size.ofClass, hsequences]
  cases d <;> decide +kernel

theorem layout_part (c : Char) :
    (part c).regex.layout =
      if c = '*' then .repeated (.oneOf (dot {})) 0 none true else .word [c.toNat] := by
  unfold part
  split
  · rw [dot_eq]
    rfl
  · simp [literal, foldIf, CharClass.single, layout, layouts, Layout.anyOf, Layout.ofClass]

theorem layout_part_ne_nothing (c : Char) : (part c).regex.layout ≠ .nothing := by
  rw [layout_part]
  split <;> simp

theorem layout_suffix_cons (c : Char) (glob : Text) :
    (suffix (c :: glob)).layout = .cons (part c).regex.layout (suffix glob).layout := by
  have happend : (suffix (c :: glob)).layout =
      (part c).regex.layout.append (suffix glob).layout := rfl
  rw [happend, layout_part]
  split <;> rfl

theorem layout_suffix_ne_nothing (glob : Text) : (suffix glob).layout ≠ .nothing := by
  cases glob with
  | nil => simp [suffix, layout, layouts, Layout.anyOf]
  | cons c glob =>
    rw [layout_suffix_cons]
    exact Layout.cons_ne_nothing (layout_part_ne_nothing c)

theorem size_suffix_cons (d : Direction) (c : Char) (glob : Text) :
    (suffix (c :: glob)).layout.size d =
      (part c).regex.layout.size d + (suffix glob).layout.size d := by
  rw [layout_suffix_cons]
  exact Layout.size_cons (layout_part_ne_nothing c) (layout_suffix_ne_nothing glob)

theorem layout_regex (glob : Text) :
    (regex glob).layout = .row (.look .textStart) (suffix glob).layout := by
  have happend : (regex glob).layout = .cons (.look .textStart) (suffix glob).layout := rfl
  have hne := layout_suffix_ne_nothing glob
  rw [happend]
  unfold Layout.cons
  split <;> simp_all

theorem size_wild (d : Direction) :
    (Layout.repeated (.oneOf (dot {})) 0 none true).size d = Size.ofClass d (dot {}) + 40 := by
  have hshortest : (Layout.oneOf (dot {})).shortest = some 1 := by
    rw [dot_eq]
    rfl
  have hsize : (Layout.repeated (.oneOf (dot {})) 0 none true).size d =
      Size.ofRepetition (Size.ofClass d (dot {}))
        (!(Layout.oneOf (dot {})).shortest.any (0 < ·)) 0 none := rfl
  simp [hsize, hshortest, Size.ofRepetition, Size.state, Size.branch]

theorem size_part_le (d : Direction) (c : Char) : (part c).regex.layout.size d ≤ 1040 := by
  rw [layout_part]
  split
  · rw [size_wild, ofClass_dot]
    cases d <;> decide
  · have hbytes : (Utf8.bytes c.toNat).length ≤ 4 := by
      unfold Utf8.bytes
      split <;> simp
    simp only [Layout.size_word, Size.ofWord, Size.state, List.flatMap_singleton]
    omega

theorem size_suffix_le (d : Direction) (glob : Text) :
    (suffix glob).layout.size d ≤ 1040 * glob.length + 32 := by
  induction glob with
  | nil => exact Nat.le_refl 32
  | cons c glob ih =>
    have hpart := size_part_le d c
    rw [size_suffix_cons, List.length_cons]
    omega

/-- The size of the expression grows with the length of the glob. -/
theorem size_regex_le (d : Direction) (glob : Text) :
    (regex glob).size d ≤ 1040 * glob.length + 272 := by
  have hsuffix := size_suffix_le d glob
  have hrow : (regex glob).layout.size d = 32 + (suffix glob).layout.size d := by
    rw [layout_regex]
    rfl
  have haround := Layout.surroundings_le d (regex glob).layout
  simp only [Regex.size, hrow]
  omega

/-- Each `*` of a glob takes its share of the automaton that reads backward. -/
theorem le_size_suffix (glob : Text) :
    1040 * glob.count '*' ≤ (suffix glob).layout.size .backward := by
  induction glob with
  | nil => simp
  | cons c glob ih =>
    rw [size_suffix_cons]
    by_cases hstar : c = '*'
    · rw [layout_part, if_pos hstar, size_wild, ofClass_dot, hstar, List.count_cons_self]
      dsimp only
      omega
    · rw [List.count_cons_of_ne hstar]
      omega

/-- A glob with too many `*` is refused. -/
theorem not_fits_of_count {glob : Text} (h : Regex.sizeLimit < 1040 * glob.count '*') :
    (regex glob).fits = false := by
  have hsuffix := le_size_suffix glob
  have hrow : (regex glob).layout.size .backward = 32 + (suffix glob).layout.size .backward := by
    rw [layout_regex]
    rfl
  have hsize : Regex.sizeLimit < (regex glob).size .backward := by
    simp only [Regex.size, hrow]
    omega
  have htable : (regex glob).layout.isTable = false := by
    rw [layout_regex]
    rfl
  simp [Regex.fits, htable, Nat.not_le.mpr hsize]

theorem compile_eq (glob : Text) :
    compile glob = if (regex glob).fits then .ok (regex glob) else .error ⟨toPattern glob⟩ := by
  rw [compile, Regex.compile?, parse?_toPattern]
  by_cases h : (regex glob).fits
  · simp [Option.filter, h]
  · simp [Option.filter, h]

end Glob

theorem exists_mapM_eq_ok_iff {α β ε : Type} {f : α → Except ε β} {xs : List α} :
    (∃ ys, xs.mapM f = .ok ys) ↔ ∀ x ∈ xs, ∃ y, f x = .ok y := by
  induction xs with
  | nil => simp [pure, Except.pure]
  | cons x xs ih =>
    rw [List.mapM_cons, List.forall_mem_cons, ← ih]
    cases f x <;> cases xs.mapM f <;> simp [bind, Except.bind, pure, Except.pure]

namespace Accessor

theorem parse_of_isGlob {p : Text} (h : IsGlob p) :
    Segment.parse p = (Glob.compile p).map .glob := by
  obtain ⟨hstar, hone, hdeep⟩ := h
  simp [Segment.parse, hone, hdeep, hstar]

/-- A segment can be read unless it is a glob whose expression is too large. -/
theorem exists_parse_eq_ok_iff {p : Text} :
    (∃ seg, Segment.parse p = .ok seg) ↔ (IsGlob p → (Glob.regex p).fits = true) := by
  by_cases hglob : IsGlob p
  · rw [parse_of_isGlob hglob, Glob.compile_eq]
    by_cases hfits : (Glob.regex p).fits <;> simp [Except.map, hglob, hfits]
  · refine iff_of_true ?_ fun h => absurd h hglob
    unfold Segment.parse
    simp only [beq_iff_eq, List.contains_iff_mem]
    split
    · exact ⟨_, rfl⟩
    · rename_i hone
      split
      · exact ⟨_, rfl⟩
      · rename_i hdeep
        rw [if_neg fun hstar => hglob ⟨hstar, hone, hdeep⟩]
        exact ⟨_, rfl⟩

end Accessor

namespace AccessorPattern

open Accessor

theorem exists_parse_eq_error_iff {source : Text} :
    (∃ e, parse source = .error e) ↔
      ∃ p ∈ Text.splitOn '.' source, IsGlob p ∧ (Glob.regex p).fits = false := by
  have hok : (∃ p, parse source = .ok p) ↔
      ∀ p ∈ Text.splitOn '.' source, IsGlob p → (Glob.regex p).fits = true := by
    simp only [← exists_parse_eq_ok_iff, ← exists_mapM_eq_ok_iff, parse_eq_ok_iff]
    constructor
    · rintro ⟨p, -, h⟩
      exact ⟨p.segments, h⟩
    · rintro ⟨segs, h⟩
      exact ⟨⟨source, segs⟩, rfl, h⟩
  have herror : (∃ e, parse source = .error e) ↔ ¬ ∃ p, parse source = .ok p := by
    cases parse source <;> simp
  rw [herror, hok]
  simp only [not_forall, Bool.not_eq_true, exists_prop]

end AccessorPattern

/-- The expression of a glob is always well formed, its size is at most proportional to the length
of the glob, it is refused only if it is too large, and it is found exactly in the texts that
consist of the pieces of the glob with something on the line between neighbours. An accessor pattern
is refused only if one of its globs is too large. -/
theorem Glob.compiles_to_filled_pieces :
    (∀ glob : Text, ∃ r, Regex.parse? (toPattern glob) = some r ∧
        (∀ d, r.size d ≤ 1040 * glob.length + 272) ∧
        compile glob = (if r.fits then .ok r else .error ⟨toPattern glob⟩) ∧
        ∀ t, r.isFound t = true ↔ Filled (Text.splitOn '*' glob) t) ∧
      ∀ source : Text, (∃ e, AccessorPattern.parse source = .error e) ↔
        ∃ p ∈ Text.splitOn '.' source, Accessor.IsGlob p ∧
          ∃ r, Regex.parse? (toPattern p) = some r ∧ r.fits = false := by
  constructor
  · intro glob
    exact ⟨regex glob, parse?_toPattern glob, fun d => size_regex_le d glob, compile_eq glob,
      isFound_regex glob⟩
  · intro source
    rw [AccessorPattern.exists_parse_eq_error_iff]
    simp [parse?_toPattern]

end PureLint
