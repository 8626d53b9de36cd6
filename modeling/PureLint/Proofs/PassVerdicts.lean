import Mathlib.Algebra.Ring.Int.Defs
import PureLint.Proofs.Splice

/-!
# Which replacements a pass makes, and how long the text gets

`splice` may be given replacements in any order, that overlap or reach beyond the text. It goes
through them by where they begin, then by where they end, and as they were given where both are
equal (`InOrder`). To each of them belongs a verdict, and the verdicts are settled one after the
other: a replacement is made exactly if it does not begin before the end of the one that was made
last, and ends within the text (`IsPass`). There is one such list of verdicts (`IsPass.unique`), and
it is that of the pass (`verdicts_isPass`). The text that comes out is as long as the one that went
in together with what the replacements that are made add to it (`byteLength_replaceEach`).
-/

namespace PureLint.Fixer

/-! ## The order -/

/-- `order` lists replacements by where they begin, then by where they end. Those that replace the
same bytes stand as they were given. -/
structure InOrder (fixes order : List Fix) : Prop where
  perm : order.Perm fixes
  sorted : order.Pairwise fun a b => a.start < b.start ∨ (a.start = b.start ∧ a.stop ≤ b.stop)
  stable : ∀ start stop, order.filter (fun f => f.start = start ∧ f.stop = stop) =
    fixes.filter fun f => f.start = start ∧ f.stop = stop

theorem sortBy_fixLe_inOrder (fixes : List Fix) : InOrder fixes (sortBy fixLe fixes) where
  perm := sortBy_perm fixLe fixes
  sorted := (sortBy_fixLe_pairwise fixes).imp fixLe_iff.mp
  stable := by
    intro start stop
    apply filter_sortBy
    intro a b ha hb
    simp only [decide_eq_true_eq] at ha hb
    rw [fixLe_iff]
    omega

/-! ## Verdicts -/

/-- The replacements that are made according to verdicts on each of them. -/
def made (verdicts : List (Fix × Bool)) : List Fix := (verdicts.filter (·.2)).map (·.1)

@[simp] theorem made_cons_true (f : Fix) (verdicts : List (Fix × Bool)) :
    made ((f, true) :: verdicts) = f :: made verdicts := rfl

@[simp] theorem made_cons_false (f : Fix) (verdicts : List (Fix × Bool)) :
    made ((f, false) :: verdicts) = made verdicts := rfl

/-- Verdicts on replacements in order. One of them is made exactly if it does not begin before the
end of the one that was made last before it, and ends within the text. -/
structure IsPass (source : Text) (order : List Fix) (verdicts : List (Fix × Bool)) : Prop where
  about : verdicts.map (·.1) = order
  decided : ∀ before f isMade after, verdicts = before ++ (f, isMade) :: after →
    (isMade = true ↔ (∀ g ∈ (made before).getLast?, g.stop ≤ f.start) ∧ f.stop ≤ source.byteLength)

namespace IsPass

variable {source : Text} {order : List Fix}

/-- A verdict is settled by those before it, so that verdicts that agree up to a place agree behind
it. -/
theorem eq_behind {before verdicts others : List (Fix × Bool)}
    (h : IsPass source order (before ++ verdicts))
    (hothers : IsPass source order (before ++ others)) : others = verdicts := by
  induction verdicts generalizing before others with
  | nil =>
    have hlength := congrArg List.length (hothers.about.trans h.about.symm)
    simpa using hlength
  | cons v verdicts ih =>
    have habout := hothers.about.trans h.about.symm
    simp only [List.map_append, List.append_cancel_left_eq] at habout
    cases others with
    | nil => cases habout
    | cons w others =>
      obtain ⟨f, isMade⟩ := v
      obtain ⟨g, isMade'⟩ := w
      obtain ⟨rfl, _⟩ := List.cons.inj habout
      have hverdict : isMade' = isMade := by
        rw [Bool.eq_iff_iff, h.decided before g isMade verdicts rfl,
          hothers.decided before g isMade' others rfl]
      subst hverdict
      rw [List.append_cons] at h hothers
      rw [ih h hothers]

theorem unique {verdicts others : List (Fix × Bool)} (h : IsPass source order verdicts)
    (hothers : IsPass source order others) : others = verdicts :=
  @eq_behind source order [] verdicts others h hothers

end IsPass

/-! ## The verdicts of the pass -/

/-- The verdicts of a pass that has come to `last`. -/
def verdictsFrom (source : Text) (last : Nat) : List Fix → List (Fix × Bool)
  | [] => []
  | f :: fs =>
    if f.start < last || source.byteLength < f.stop then (f, false) :: verdictsFrom source last fs
    else (f, true) :: verdictsFrom source f.stop fs

/-- The verdicts of `splice`. -/
def verdicts (source : Text) (fixes : List Fix) : List (Fix × Bool) :=
  verdictsFrom source 0 (sortBy fixLe fixes)

theorem made_verdictsFrom (source : Text) (last : Nat) (fs : List Fix) :
    made (verdictsFrom source last fs) = performedFrom source last fs := by
  induction fs generalizing last with
  | nil => rfl
  | cons f fs ih =>
    rw [verdictsFrom, performedFrom]
    split
    · rw [made_cons_false, ih]
    · rw [made_cons_true, ih]

theorem map_verdictsFrom (source : Text) (last : Nat) (fs : List Fix) :
    (verdictsFrom source last fs).map (·.1) = fs := by
  induction fs generalizing last with
  | nil => rfl
  | cons f fs ih =>
    rw [verdictsFrom]
    split <;> rw [List.map_cons, ih]

/-- How far a pass has come that was at `last` and has made the given replacements. -/
def reached (last : Nat) (fs : List Fix) : Nat := (fs.getLast?.map (·.stop)).getD last

theorem reached_cons (last : Nat) (f : Fix) (fs : List Fix) :
    reached last (f :: fs) = reached f.stop fs := by
  rw [reached, reached, List.getLast?_cons]
  cases fs.getLast? <;> rfl

theorem reached_zero_le_iff {fs : List Fix} {n : Nat} :
    reached 0 fs ≤ n ↔ ∀ g ∈ fs.getLast?, g.stop ≤ n := by
  rw [reached]
  cases fs.getLast? with
  | none => simp
  | some g => simp

theorem verdictsFrom_decided {source : Text} {last : Nat} {fs : List Fix}
    {before after : List (Fix × Bool)} {f : Fix}
    {isMade : Bool} (h : verdictsFrom source last fs = before ++ (f, isMade) :: after) :
    isMade = true ↔ reached last (made before) ≤ f.start ∧ f.stop ≤ source.byteLength := by
  -- Each step leaves `reached` as it is: what is made moves `last`, and is then no longer part of
  -- `before`.
  induction fs generalizing last before with
  | nil => simp [verdictsFrom] at h
  | cons g fs ih =>
    rw [verdictsFrom] at h
    split at h
    · rename_i hleft
      cases before with
      | nil =>
        cases h
        apply iff_of_false Bool.false_ne_true
        intro hkept
        exact not_left_out_iff.mpr hkept hleft
      | cons v before =>
        obtain ⟨rfl, hrest⟩ := List.cons.inj h
        rw [made_cons_false]
        exact ih hrest
    · rename_i hkept
      cases before with
      | nil =>
        cases h
        exact iff_of_true rfl (not_left_out_iff.mp hkept)
      | cons v before =>
        obtain ⟨rfl, hrest⟩ := List.cons.inj h
        rw [made_cons_true, reached_cons]
        exact ih hrest

theorem verdicts_isPass (source : Text) (fixes : List Fix) :
    IsPass source (sortBy fixLe fixes) (verdicts source fixes) where
  about := map_verdictsFrom source 0 _
  decided := by
    intro before f isMade after h
    rw [verdictsFrom_decided h, reached_zero_le_iff]

/-! ## The length of the output -/

/-- The number of bytes by which a replacement makes a text longer. -/
def growth (f : Fix) : Int := f.replacement.byteLength - ((f.stop : Int) - f.start)

theorem byteLength_replaceOne {f : Fix} {s t : Text} (h : replaceOne f s = some t) :
    (t.byteLength : Int) = s.byteLength + growth f := by
  unfold replaceOne at h
  split at h
  · split at h
    · rename_i front _ _ back hstart hstop
      obtain ⟨hs, hgone⟩ := Text.cutAt?_eq_some_iff.mp hstop
      have hfront := Text.byteLength_of_cutAt? hstart
      have hlength := congrArg Text.byteLength hs
      cases h
      simp only [Text.byteLength_append] at hlength ⊢
      rw [growth]
      omega
    · cases h
  · cases h

theorem byteLength_replaceEach {fixes : List Fix} {s t : Text} (h : replaceEach fixes s = some t) :
    (t.byteLength : Int) = s.byteLength + (fixes.map growth).sum := by
  induction fixes generalizing s with
  | nil =>
    cases h
    simp
  | cons f fixes ih =>
    rw [← List.singleton_append, replaceEach_append, replaceEach_singleton] at h
    obtain ⟨u, hu, ht⟩ := Option.bind_eq_some_iff.mp h
    rw [ih ht, byteLength_replaceOne hu, List.map_cons, List.sum_cons]
    omega

/-- For replacements in order whose offsets are boundaries as far as they lie in the text, given in
any order and overlapping as they may, splicing succeeds, and so does a suggestion of them. It makes
those that do not begin before the end of the one made last and end within the text, and adds to the
length of the text what these add. -/
theorem splice_makes_pass (source : Text) (fixes : List Fix)
    (h : ∀ f ∈ fixes, WellPlaced source f) :
    ∃ order verdicts out, InOrder fixes order ∧ IsPass source order verdicts ∧
      (∀ others, IsPass source order others → others = verdicts) ∧
      splice source fixes = some out ∧
      (∀ g : Suggestion, g.fixes = fixes → applySuggestion source g = some out) ∧
      replaceEach (made verdicts).reverse source = some out ∧
      (out.byteLength : Int) = source.byteLength + ((made verdicts).map growth).sum := by
  obtain ⟨out, hsplice, heach⟩ := splice_eq_replaceEach h
  have hpass := verdicts_isPass source fixes
  have hmade : made (verdicts source fixes) = performed source fixes := made_verdictsFrom source 0 _
  have hlength := byteLength_replaceEach heach
  rw [List.map_reverse, List.sum_reverse] at hlength
  rw [← hmade] at heach hlength
  refine ⟨_, _, out, sortBy_fixLe_inOrder fixes, hpass, fun _ => hpass.unique, hsplice, ?_, heach,
    hlength⟩
  intro g hg
  rw [applySuggestion, hg, hsplice]

/-- Replacements in `aéb`: two insertions at the same place, a replacement of `é`, one that overlaps
it, and one that reaches beyond the end. -/
def strayingFixes : List Fix :=
  [Fix.replace ⟨3, 9⟩ ['x'], Fix.replace ⟨1, 4⟩ ['y'], Fix.replace ⟨1, 3⟩ ['e'], Fix.insert 1 ['i'],
    Fix.insert 1 ['j']]

theorem splice_makes_pass_strayingFixes :
    splice ['a', 'é', 'b'] strayingFixes = some "aijeb".toList ∧
      ∃ order verdicts, InOrder strayingFixes order ∧ IsPass ['a', 'é', 'b'] order verdicts ∧
        replaceEach (made verdicts).reverse ['a', 'é', 'b'] = some "aijeb".toList ∧
        ((made verdicts).map growth).sum = 1 := by
  obtain ⟨order, verdicts, out, horder, hpass, _, hsplice, _, heach, hlength⟩ :=
    splice_makes_pass ['a', 'é', 'b'] strayingFixes (by decide)
  have hout : splice ['a', 'é', 'b'] strayingFixes = some "aijeb".toList := by decide
  obtain rfl := Option.some.inj (hsplice.symm.trans hout)
  have hbefore : Text.byteLength ['a', 'é', 'b'] = 4 := by decide
  have hafter : Text.byteLength "aijeb".toList = 5 := by decide
  rw [hbefore, hafter] at hlength
  exact ⟨hout, order, verdicts, horder, hpass, heach, by omega⟩

end PureLint.Fixer
