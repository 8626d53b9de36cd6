import Mathlib.Data.List.Basic
import PureLint.Proofs.RegexMeaning
import PureLint.Regex.Size

/-!
# What a layout keeps

A layout can be read as an expression again (`toRegex`). Each way to put layouts together is related
to the same way to put expressions together, so that by induction the layout of an expression
matches the same parts of a text as the expression (`spans_layout`): no rule of simplification adds
or loses a match, neither classes made from choices nor common beginnings moved in front of them.
-/

namespace PureLint

/-! ## Ranges in normal form -/

namespace Unicode.Ranges

theorem has_cons {r : Range} {rs : Ranges} {n : Nat} :
    Ranges.has (r :: rs) n = (r.contains n || rs.has n) := List.any_cons

theorem has_glue {r : Range} {rs : Ranges} {n : Nat}
    (h : (r :: rs).Pairwise fun a b => a.first ≤ b.first) :
    (glue r rs).has n = Ranges.has (r :: rs) n := by
  induction rs generalizing r with
  | nil => rfl
  | cons s rs ih =>
    obtain ⟨hr, hs⟩ := List.pairwise_cons.mp h
    have hrs : r.first ≤ s.first := hr s (by simp)
    rw [glue]
    split
    · rename_i htouch
      have hjoined : Range.contains ⟨r.first, max r.last s.last⟩ n =
          (r.contains n || s.contains n) := by
        rw [Bool.eq_iff_iff]
        simp only [Range.contains, Bool.and_eq_true, Bool.or_eq_true, decide_eq_true_eq]
        omega
      have hrest : (⟨r.first, max r.last s.last⟩ :: rs : Ranges).Pairwise fun a b =>
          a.first ≤ b.first :=
        List.pairwise_cons.mpr ⟨fun b hb => hr b (List.mem_cons_of_mem s hb), hs.of_cons⟩
      rw [ih hrest, has_cons, hjoined, has_cons, has_cons, Bool.or_assoc]
    · rw [has_cons, has_cons, ih hs]

theorem has_normalize (rs : Ranges) (n : Nat) : rs.normalize.has n = rs.has n := by
  have hperm := List.mergeSort_perm rs fun a b => a.first ≤ b.first
  have hsorted : (rs.mergeSort fun a b => a.first ≤ b.first).Pairwise
      fun a b => decide (a.first ≤ b.first) = true :=
    List.pairwise_mergeSort (by simpa using fun a b c => Nat.le_trans)
      (by simpa using fun a b => Nat.le_total _ _) rs
  simp only [decide_eq_true_eq] at hsorted
  have hhas : Ranges.has (rs.mergeSort fun a b => a.first ≤ b.first) n = rs.has n := hperm.any_eq
  rw [← hhas, normalize]
  split
  · rename_i hnil
    rw [hnil]
  · rename_i r rest hcons
    rw [hcons] at hsorted ⊢
    exact has_glue hsorted

end Unicode.Ranges

namespace Regex

theorem spans_ofRanges (t : Text) (rs : Unicode.Ranges) :
    Spans t (.chars (.ofRanges rs)) = Spans t (.chars ⟨rs⟩) := by
  simp only [Spans, CharClass.has, CharClass.ofRanges, Unicode.Ranges.has_normalize]

namespace Layout

/-- A layout read as an expression. -/
def toRegex : Layout → Regex
  | nothing => .empty
  | word codes => codes.foldr (fun n r => .cat (.chars (.single n)) r) .empty
  | oneOf c => .chars c
  | look l => .look l
  | repeated l least most greedy => .rep l.toRegex least most greedy
  | numbered l => .group true l.toRegex
  | row a l => .cat a.toRegex l.toRegex
  | choice a l => .alt a.toRegex l.toRegex

variable {t : Text} {a l : Layout} {as : List Layout} {i j : Nat}

theorem spans_ofClass (c : CharClass) : Spans t (ofClass c).toRegex = Spans t (.chars c) := by
  unfold ofClass
  split
  · rename_i m n hranges
    split
    · rename_i hmn
      subst hmn
      have hc : c = .single m := by cases c; exact congrArg CharClass.mk hranges
      rw [hc]
      exact Relation.comp_eq
    · rfl
  · rfl

/-! ## Rows -/

theorem spans_word_append (s u : List Nat) :
    Spans t (word (s ++ u)).toRegex =
      Relation.Comp (Spans t (word s).toRegex) (Spans t (word u).toRegex) := by
  induction s with
  | nil => exact (Relation.eq_comp).symm
  | cons n s ih =>
    exact (congrArg _ ih).trans Relation.comp_assoc.symm

theorem spans_cons :
    Spans t (cons a l).toRegex = Relation.Comp (Spans t a.toRegex) (Spans t l.toRegex) := by
  unfold cons
  split
  · exact Relation.eq_comp.symm
  · exact Relation.comp_eq.symm
  · exact spans_word_append _ _
  · rename_i s u l
    exact (congrArg (Relation.Comp · _) (spans_word_append s u)).trans Relation.comp_assoc
  · rfl

theorem spans_append :
    Spans t (append a l).toRegex = Relation.Comp (Spans t a.toRegex) (Spans t l.toRegex) := by
  induction a with
  | row b m _ ihm =>
    rw [append, spans_cons, ihm]
    exact Relation.comp_assoc.symm
  | _ => exact spans_cons

theorem spans_ofItems_cons :
    Spans t (ofItems (a :: as)).toRegex =
      Relation.Comp (Spans t a.toRegex) (Spans t (ofItems as).toRegex) := spans_cons

theorem spans_ofItems_append (as bs : List Layout) :
    Spans t (ofItems (as ++ bs)).toRegex =
      Relation.Comp (Spans t (ofItems as).toRegex) (Spans t (ofItems bs).toRegex) := by
  induction as with
  | nil => exact Relation.eq_comp.symm
  | cons a as ih =>
    rw [List.cons_append, spans_ofItems_cons, ih, spans_ofItems_cons, Relation.comp_assoc]

theorem spans_ofItems_items (a : Layout) :
    Spans t (ofItems a.items).toRegex = Spans t a.toRegex := by
  induction a with
  | row b m _ ihm =>
    rw [items, spans_ofItems_cons, ihm]
    rfl
  | _ => exact spans_ofItems_cons.trans Relation.comp_eq

/-! ## Repetitions -/

theorem Steps.stay {R : Nat → Nat → Prop} {i : Nat} (h : R i i) (n : Nat) : Steps R n i i := by
  induction n with
  | zero => rfl
  | succ n ih => exact ⟨i, h, ih⟩

theorem spans_rep_of_stays {r : Regex} (hr : ∀ {i j}, Spans t r i j → i = j) {least : Nat}
    {most : Option Nat} {greedy : Bool} :
    Spans t (.rep r least most greedy) i j ↔ i = j ∧ (least = 0 ∨ Spans t r i i) := by
  constructor
  · rintro ⟨n, hle, -, h⟩
    refine ⟨h.preserves (P := (i = ·)) (fun hstep hi => hi.trans (hr hstep)) rfl, ?_⟩
    cases n with
    | zero => exact .inl (Nat.le_zero.mp hle)
    | succ n =>
      obtain ⟨k, hk, -⟩ := h
      have hik := hr hk
      exact .inr (hik ▸ hk)
  · rintro ⟨rfl, h⟩
    refine ⟨least, Nat.le_refl _, fun m _ => Nat.le_max_left .., ?_⟩
    rcases h with rfl | h
    · rfl
    · exact Steps.stay h least

theorem eq_of_spans (h : a.isEmptyOnly = true) (hspan : Spans t a.toRegex i j) : i = j := by
  induction a generalizing i j with
  | nothing => exact hspan
  | word codes => contradiction
  | oneOf c => contradiction
  | look cond => exact hspan.1
  | repeated l least most greedy ih => exact ((spans_rep_of_stays (ih h)).mp hspan).1
  | numbered l ih => exact ih h hspan
  | row b m ihb ihm =>
    simp only [isEmptyOnly, Bool.and_eq_true] at h
    obtain ⟨k, hb, hm⟩ := hspan
    exact (ihb h.1 hb).trans (ihm h.2 hm)
  | choice b m ihb ihm =>
    simp only [isEmptyOnly, Bool.and_eq_true] at h
    exact hspan.elim (ihb h.1) (ihm h.2)

theorem spans_bounded {least : Nat} {most : Option Nat} {greedy : Bool} :
    Spans t (l.bounded greedy least most).toRegex i j ↔
      Spans t (.rep l.toRegex least most greedy) i j := by
  unfold bounded
  split
  · constructor
    · rintro rfl
      exact ⟨0, Nat.le_refl 0, by simp, rfl⟩
    · rintro ⟨n, -, hmost, h⟩
      obtain rfl : n = 0 := Nat.le_zero.mp (hmost 0 rfl)
      exact h
  · constructor
    · intro h
      exact ⟨1, Nat.le_refl 1, by simp, j, h, rfl⟩
    · rintro ⟨n, hle, hmost, h⟩
      obtain rfl : n = 1 := Nat.le_antisymm (hmost 1 rfl) hle
      obtain ⟨k, hk, rfl⟩ := h
      exact hk
  · rfl

theorem spans_repetition {least : Nat} {most : Option Nat} {greedy : Bool} :
    Spans t (l.repetition least most greedy).toRegex i j ↔
      Spans t (.rep l.toRegex least most greedy) i j := by
  unfold repetition
  split
  · rename_i hempty
    rw [spans_bounded, spans_rep_of_stays (eq_of_spans hempty),
      spans_rep_of_stays (eq_of_spans hempty)]
    have hzero : min least 1 = 0 ↔ least = 0 := by omega
    rw [hzero]
  · exact spans_bounded

/-! ## Choices -/

theorem spans_alternatives :
    (∃ b ∈ a.alternatives, Spans t b.toRegex i j) ↔ Spans t a.toRegex i j := by
  induction a with
  | choice b m _ ihm =>
    rw [alternatives, List.exists_mem_cons_iff, ihm]
    rfl
  | _ => simp [alternatives]

theorem spans_opened :
    (∃ a ∈ as.flatMap alternatives, Spans t a.toRegex i j) ↔ ∃ a ∈ as, Spans t a.toRegex i j := by
  induction as with
  | nil => simp
  | cons a as ih =>
    rw [List.flatMap_cons, List.exists_mem_cons_iff, ← ih, ← spans_alternatives]
    simp only [List.mem_append, or_and_right, exists_or]

theorem spans_spine : Spans t (spine as).toRegex i j ↔ ∃ a ∈ as, Spans t a.toRegex i j := by
  induction as using spine.induct with
  | case1 => simp [spine, toRegex, Spans, CharClass.empty, CharClass.has, Unicode.Ranges.has]
  | case2 a => simp [spine]
  | case3 a as hne ih =>
    rw [spine, List.exists_mem_cons_iff, ← ih]
    · rfl
    · exact hne

theorem spans_flatten {f : Layout → Option Unicode.Ranges}
    (hf : ∀ {a rs}, f a = some rs → Spans t a.toRegex = Spans t (.chars ⟨rs⟩))
    {rss : List Unicode.Ranges} (h : as.mapM f = some rss) :
    Spans t (.chars ⟨rss.flatten⟩) i j ↔ ∃ a ∈ as, Spans t a.toRegex i j := by
  induction as generalizing rss with
  | nil =>
    obtain rfl : rss = [] := by simpa using h.symm
    simp [Spans, CharClass.has, Unicode.Ranges.has]
  | cons a as ih =>
    rw [List.mapM_cons] at h
    obtain ⟨rs, ha, h⟩ := Option.bind_eq_some_iff.mp h
    obtain ⟨rss', has, h⟩ := Option.bind_eq_some_iff.mp h
    obtain rfl : rs :: rss' = rss := Option.some.inj h
    rw [List.exists_mem_cons_iff, ← ih has, hf ha]
    simp only [Spans, CharClass.has, Unicode.Ranges.has, List.flatten_cons, List.any_append,
      Bool.or_eq_true, and_or_left, exists_or]

theorem spans_charClass {c : CharClass} (h : charClass? as = some c) :
    Spans t (.chars c) i j ↔ ∃ a ∈ as, Spans t a.toRegex i j := by
  obtain ⟨rss, hrss, rfl⟩ := Option.map_eq_some_iff.mp h
  rw [spans_ofRanges]
  rw [Option.orElse_eq_orElse, Option.orElse_eq_or, Option.or_eq_some_iff] at hrss
  rcases hrss with hsingles | ⟨-, hclasses⟩
  · refine spans_flatten (fun {a rs} ha => ?_) hsingles
    unfold single? at ha
    split at ha
    · obtain rfl := Option.some.inj ha
      exact Relation.comp_eq
    · contradiction
  · refine spans_flatten (fun {a rs} ha => ?_) hclasses
    unfold class? at ha
    split at ha
    · obtain rfl := Option.some.inj ha
      rfl
    · contradiction

theorem spans_choose : Spans t (choose as).toRegex i j ↔ ∃ a ∈ as, Spans t a.toRegex i j := by
  unfold choose
  split
  · rename_i c hclass
    rw [spans_ofClass]
    exact spans_charClass hclass
  · exact spans_spine

theorem common_isPrefix (as bs : List Layout) : common as bs <+: as ∧ common as bs <+: bs := by
  induction as generalizing bs with
  | nil => simp [common]
  | cons a as ih =>
    cases bs with
    | nil => simp [common]
    | cons b bs =>
      rw [common]
      split
      · rename_i hab
        rw [← hab.1, List.cons_prefix_cons, List.cons_prefix_cons]
        exact ⟨⟨rfl, (ih bs).1⟩, rfl, (ih bs).2⟩
      · simp

theorem foldl_common_isPrefix (p : List Layout) (as : List Layout) :
    as.foldl (fun p b => common p b.items) p <+: p ∧
      ∀ a ∈ as, as.foldl (fun p b => common p b.items) p <+: a.items := by
  induction as generalizing p with
  | nil => simp
  | cons a as ih =>
    obtain ⟨hp, hall⟩ := ih (common p a.items)
    obtain ⟨hleft, hright⟩ := common_isPrefix p a.items
    exact ⟨hp.trans hleft, List.forall_mem_cons.mpr ⟨hp.trans hright, hall⟩⟩

theorem beginning_isPrefix (ha : a ∈ as) : beginning as <+: a.items := by
  unfold beginning
  split
  · contradiction
  · rename_i b bs
    split
    · obtain ⟨hfirst, hrest⟩ := foldl_common_isPrefix b.items bs
      rcases List.mem_cons.mp ha with rfl | ha
      · exact hfirst
      · exact hrest a ha
    · exact List.nil_prefix

/-- An alternative is what it begins with and what is behind that. -/
theorem spans_of_isPrefix {p : List Layout} (h : p <+: a.items) :
    Spans t a.toRegex =
      Relation.Comp (Spans t (ofItems p).toRegex) (Spans t (behind p.length a).toRegex) := by
  obtain ⟨rest, hrest⟩ := h
  rw [behind, ← spans_ofItems_items a, ← hrest, List.drop_left, spans_ofItems_append]

theorem spans_anyOf : Spans t (anyOf as).toRegex i j ↔ ∃ a ∈ as, Spans t a.toRegex i j := by
  unfold anyOf
  split
  · simp
  · rw [← spans_opened]
    simp only
    split
    · exact spans_choose
    · have hsplit : ∀ a ∈ as.flatMap alternatives, Spans t a.toRegex = Relation.Comp
          (Spans t (ofItems (beginning (as.flatMap alternatives))).toRegex)
          (Spans t (behind (beginning (as.flatMap alternatives)).length a).toRegex) :=
        fun a ha => spans_of_isPrefix (beginning_isPrefix ha)
      rw [spans_append]
      constructor
      · rintro ⟨k, hk, h⟩
        obtain ⟨b, hb, hbj⟩ := spans_opened.mp (spans_choose.mp h)
        obtain ⟨a, ha, rfl⟩ := List.mem_map.mp hb
        exact ⟨a, ha, hsplit a ha ▸ ⟨k, hk, hbj⟩⟩
      · rintro ⟨a, ha, h⟩
        rw [hsplit a ha] at h
        obtain ⟨k, hk, hbj⟩ := h
        exact ⟨k, hk, spans_choose.mpr (spans_opened.mpr ⟨_, List.mem_map_of_mem ha, hbj⟩)⟩

end Layout

variable {t : Text} {r : Regex} {i j : Nat}

theorem spans_layout_of_layouts
    (h : ∀ i j, (∃ l ∈ layouts r, Spans t l.toRegex i j) ↔ Spans t r i j) :
    Spans t r.layout.toRegex = Spans t r := by
  funext i j
  exact propext (Layout.spans_anyOf.trans (h i j))

theorem spans_layouts : ∀ i j, (∃ l ∈ layouts r, Spans t l.toRegex i j) ↔ Spans t r i j := by
  intro i j
  induction r generalizing i j with
  | empty => simp [layouts, Layout.toRegex]
  | chars c => simp [layouts, Layout.spans_ofClass]
  | look l => simp [layouts, Layout.toRegex]
  | cat a b iha ihb =>
    have ha := spans_layout_of_layouts iha
    have hb := spans_layout_of_layouts ihb
    rw [layout] at ha hb
    simp only [layouts, List.mem_singleton, exists_eq_left, Layout.spans_append, ha, hb]
    rfl
  | alt a b iha ihb =>
    simp only [layouts, List.mem_append, or_and_right, exists_or, iha, ihb]
    rfl
  | rep r least most greedy ih =>
    have hr := spans_layout_of_layouts ih
    rw [layout] at hr
    simp only [layouts, List.mem_singleton, exists_eq_left, Layout.spans_repetition, Spans, hr]
  | group numbered r ih =>
    have hr := spans_layout_of_layouts ih
    rw [layout] at hr
    cases numbered <;>
      simp [layouts, Layout.toRegex, Spans, hr]

/-- The layout of an expression matches what the expression matches. -/
theorem spans_layout (t : Text) (r : Regex) : Spans t r.layout.toRegex = Spans t r :=
  spans_layout_of_layouts spans_layouts

theorem isFound_layout (t : Text) (r : Regex) : r.layout.toRegex.isFound t = r.isFound t := by
  rw [Bool.eq_iff_iff, isFound_iff, isFound_iff, spans_layout]

/-! ## Sizes -/

namespace Layout

variable {d : Direction} {a l : Layout}

theorem ofWord_append (s t : List Nat) :
    Size.ofWord (s ++ t) = Size.ofWord s + Size.ofWord t := by
  simp [Size.ofWord, Nat.mul_add]

@[simp] theorem size_word (codes : List Nat) : (word codes).size d = Size.ofWord codes := rfl

@[simp] theorem size_row : (row a l).size d = a.size d + l.size d := rfl

/-- Nothing is saved when words are joined. -/
theorem size_cons (ha : a ≠ nothing) (hl : l ≠ nothing) :
    (cons a l).size d = a.size d + l.size d := by
  unfold cons
  split
  · contradiction
  · contradiction
  · exact ofWord_append _ _
  · simp [ofWord_append, Nat.add_assoc]
  · rfl

theorem cons_ne_nothing (ha : a ≠ nothing) : cons a l ≠ nothing := by
  unfold cons
  split <;> simp_all

theorem surroundings_le (d : Direction) (l : Layout) : l.surroundings d ≤ 208 := by
  cases d <;> simp only [surroundings] <;> split <;> decide

end Layout

end Regex

end PureLint
