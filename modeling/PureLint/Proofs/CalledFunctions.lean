import PureLint.Proofs.ConcealedMembers
import PureLint.Proofs.ReportedSpans

/-!
# Functions that are called where they stand

`Site.isImmediatelyCalled` looks for the first node above a function that is no parentheses. If that
is a call, it compares the span of the function with the span of what is called, and what is called
is taken without parentheses and type-only syntax around it. So the function is recognised by its
span, and the two sides are stripped of different things. The answer is right nevertheless: the
function is, through parentheses alone, the callee of the call (`Site.IsCallee`). For an assertion
around the function would be the first node above it, and an argument lies elsewhere than the callee
(`Tree.IsLaidOut`).
-/

namespace PureLint

/-! ## Where calls have their parts -/

/-- Whether two spans have no byte in common. -/
def Span.IsDisjoint (a b : Span) : Prop := a.stop ≤ b.start ∨ b.stop ≤ a.start

instance (a b : Span) : Decidable (a.IsDisjoint b) := inferInstanceAs (Decidable (_ ∨ _))

theorem Span.IsDisjoint.ne {a b c d : Span} (h : a.IsDisjoint b) (hc : c.LiesIn a) (hd : d.LiesIn b)
    (hfilled : d.start < d.stop) : c ≠ d := by
  intro heq
  subst heq
  unfold Span.LiesIn at hc hd
  unfold Span.IsDisjoint at h
  omega

theorem Span.LiesIn.trans {a b c : Span} (h : a.LiesIn b) (h' : b.LiesIn c) : a.LiesIn c :=
  ⟨Nat.le_trans h'.1 h.1, Nat.le_trans h.2 h'.2⟩

namespace Tree

/-- What is known of the spans of a node of a program. What is wrapped lies in what wraps it, the
callee of a call is disjoint from the arguments, and no argument is empty inside its parentheses. -/
structure IsLaidOut (t : Tree) : Prop where
  nested : t.label.isWrapping = true → ∀ part ∈ t.children, part.span.LiesIn t.span
  single : t.label = .parenthesizedExpression → t.children.length = 1
  disjoint : ∀ callee ∈ t.children.head?, ∀ a ∈ t.callArguments, callee.span.IsDisjoint a.span
  filled : ∀ a ∈ t.callArguments, a.withoutParentheses.span.start < a.withoutParentheses.span.stop

instance (t : Tree) : Decidable t.IsLaidOut :=
  decidable_of_iff
    ((t.label.isWrapping = true → ∀ part ∈ t.children, part.span.LiesIn t.span) ∧
      (t.label = .parenthesizedExpression → t.children.length = 1) ∧
      (∀ callee ∈ t.children.head?, ∀ a ∈ t.callArguments, callee.span.IsDisjoint a.span) ∧
      ∀ a ∈ t.callArguments, a.withoutParentheses.span.start < a.withoutParentheses.span.stop)
    ⟨fun h => ⟨h.1, h.2.1, h.2.2.1, h.2.2.2⟩, fun h => ⟨h.1, h.2, h.3, h.4⟩⟩

theorem mem_children_of_mem_callArguments {e a : Tree} (ha : a ∈ e.callArguments) :
    a ∈ e.children := by
  unfold callArguments at ha
  split at ha
  · exact List.mem_cons_of_mem _ (List.mem_of_mem_filter ha)
  · cases ha

/-- Whether a tree is found at a node of another. -/
def Occurs (part t : Tree) : Prop := ∃ x ∈ t.sites, x.tree = part

variable {t : Tree} (ht : ∀ x ∈ t.sites, x.tree.IsLaidOut)

include ht

theorem Occurs.liesIn {e part : Tree} {span : Span} (he : e.Occurs t)
    (hwraps : e.label.isWrapping = true)
    (hpart : part ∈ e.children) (h : part.Occurs t → span.LiesIn part.span) :
    span.LiesIn e.span := by
  obtain ⟨x, hx, rfl⟩ := he
  exact (h (exists_site_of_part hx hpart)).trans ((ht x hx).nested hwraps part hpart)

theorem inner_liesIn {e : Tree} (he : e.Occurs t) : e.inner.span.LiesIn e.span := by
  fun_induction inner e with
  | case1 _ e ih => exact he.liesIn ht rfl List.mem_cons_self ih
  | case2 _ e _ ih => exact he.liesIn ht rfl List.mem_cons_self ih
  | case3 _ e _ ih => exact he.liesIn ht rfl List.mem_cons_self ih
  | case4 _ e _ ih => exact he.liesIn ht rfl List.mem_cons_self ih
  | case5 _ e ih => exact he.liesIn ht rfl List.mem_cons_self ih
  | case6 _ e _ ih => exact he.liesIn ht rfl (List.mem_cons_of_mem _ List.mem_cons_self) ih
  | case7 e => exact ⟨Nat.le_refl _, Nat.le_refl _⟩

theorem withoutParentheses_liesIn {e : Tree} (he : e.Occurs t) :
    e.withoutParentheses.span.LiesIn e.span := by
  fun_induction withoutParentheses e with
  | case1 _ e ih => exact he.liesIn ht rfl List.mem_cons_self ih
  | case2 e => exact ⟨Nat.le_refl _, Nat.le_refl _⟩

/-- What is called and what is given as an argument have different spans, also inside of what is
around them. -/
theorem inner_span_ne {call callee a : Tree} (hcall : call.Occurs t)
    (hcallee : call.children.head? = some callee)
    (ha : a ∈ call.callArguments) : callee.inner.span ≠ a.withoutParentheses.span := by
  obtain ⟨x, hx, rfl⟩ := hcall
  have hoccurs : callee.Occurs t := exists_site_of_part hx (List.mem_of_head? hcallee)
  have hoccurs' : a.Occurs t := exists_site_of_part hx (mem_children_of_mem_callArguments ha)
  apply ((ht x hx).disjoint callee hcallee a ha).ne
  · exact inner_liesIn ht hoccurs
  · exact withoutParentheses_liesIn ht hoccurs'
  · exact (ht x hx).filled a ha

omit ht

/-- Inside parentheses around a function there is nothing else to look through. -/
theorem inner_of_isFunction {e : Tree}
    (h : Site.isFunctionLabel e.withoutParentheses.label = true) :
    e.inner = e.withoutParentheses := by
  fun_induction withoutParentheses e with
  | case1 _ e ih =>
    rw [inner]
    exact ih h
  | case2 e _ =>
    apply inner_of_not_isWrapping
    revert h
    cases e.label <;> simp [Site.isFunctionLabel, Label.isWrapping]

theorem isTypeArguments_of_isFunction {e : Tree}
    (h : Site.isFunctionLabel e.withoutParentheses.label = true) :
    e.label.isTypeArguments = false := by
  unfold withoutParentheses at h
  split at h
  · rfl
  · revert h
    cases e.label <;> simp [Site.isFunctionLabel, Label.isTypeArguments]

theorem withoutParentheses_of_isFunction {e : Tree} (h : Site.isFunctionLabel e.label = true) :
    e.withoutParentheses = e := by
  unfold withoutParentheses
  split
  · cases h
  · rfl

theorem withoutParentheses_of_children {e inside : Tree}
    (hlabel : e.label = .parenthesizedExpression)
    (hchildren : e.children = [inside]) : e.withoutParentheses = inside.withoutParentheses := by
  obtain ⟨label, span, children⟩ := e
  obtain rfl : label = .parenthesizedExpression := hlabel
  obtain rfl : children = [inside] := hchildren
  rw [withoutParentheses]

theorem size_pos (e : Tree) : 0 < e.size := by
  obtain ⟨label, span, children⟩ := e
  rw [size]
  omega

end Tree

/-! ## Callees -/

/-- Whether a node is the first part of another. -/
def Node.IsFirstPart (part whole : Node) : Prop :=
  whole.tree.children.head? = some part.tree ∧ part.id = whole.id + 1

namespace Site

theorem isParentheses_iff {label : Label} :
    isParentheses label = true ↔ label = .parenthesizedExpression := by
  unfold isParentheses
  split
  · simp
  · rename_i hother
    exact iff_of_false Bool.false_ne_true hother

/-- The first node above that is no parentheses, and the node right below it on the way there. -/
def holder? (n : Node) : List Node → Option (Node × Node)
  | [] => none
  | p :: rest => if isParentheses p.tree.label then holder? p rest else some (p, n)

/-- Whether the node at a site, looked at through parentheses, is what a call calls. -/
def IsCallee (s : Site) : Prop :=
  ∃ call n,
    holder? s.node s.above = some (call, n) ∧ call.tree.label = .callExpression ∧ n.IsFirstPart call

/-- Whether the node at a site, looked at through parentheses, is another part of a call than what
it calls. -/
def IsArgument (s : Site) : Prop :=
  ∃ call n,
    holder? s.node s.above = some (call, n) ∧ call.tree.label = .callExpression ∧ n.id ≠ call.id + 1

/-- Whether the node at a site, looked at through parentheses, is a part of something else than a
call. -/
def IsOutsideCall (s : Site) : Prop :=
  ∃ p n, holder? s.node s.above = some (p, n) ∧ p.tree.label ≠ .callExpression

/-- Whether a tree is a call of something that has the given span when it is stripped. -/
def callsAt (span : Span) : Tree → Bool
  | .node .callExpression _ (callee :: _) => callee.inner.span == span
  | _ => false

theorem calledAbove_eq (span : Span) (n : Node) (above : List Node) :
    calledAbove span above = (holder? n above).any fun q => callsAt span q.1.tree := by
  induction above generalizing n with
  | nil => rfl
  | cons p rest ih =>
    rw [holder?]
    cases hp : isParentheses p.tree.label with
    | true =>
      have hpass : calledAbove span (p :: rest) = calledAbove span rest := by simp [calledAbove, hp]
      rw [hpass, if_pos rfl, ih p]
    | false =>
      have hfind : (p :: rest).find? (fun m => !isParentheses m.tree.label) = some p := by simp [hp]
      show calledAbove span (p :: rest) = callsAt span p.tree
      unfold calledAbove
      rw [hfind]
      split
      · rename_i heq
        cases heq
        rfl
      · rename_i hother
        unfold callsAt
        split
        · rename_i htree
          exact absurd (congrArg (fun tree => some (Node.mk p.id tree)) htree) (hother _ _ _ _)
        · rfl

variable {t : Tree}

/-- On the way up through parentheses the node stays what it is inside of them. -/
theorem holder?_part (ht : ∀ x ∈ t.sites, x.tree.IsLaidOut) {n p m : Node} {above : List Node}
    (hs : ⟨n, above⟩ ∈ t.sites) (h : holder? n above = some (p, m)) :
    p.tree.Occurs t ∧ m.IsPart p ∧ m.tree.withoutParentheses = n.tree.withoutParentheses := by
  induction above generalizing n with
  | nil => cases h
  | cons q rest ih =>
    have hq := (t.sites_isPreorder.parent_earlier _ hs q rest rfl).2
    have hpart : n.IsPart q := Tree.isPart_of_above hs rfl
    rw [holder?] at h
    split at h
    · rename_i hparens
      have hlabel : q.tree.label = .parenthesizedExpression := isParentheses_iff.mp hparens
      obtain ⟨before, after, hchildren, _⟩ := hpart
      have hsingle := (ht _ hq).single hlabel
      rw [show (⟨q, rest⟩ : Site).tree.children = _ from hchildren, List.length_append,
        List.length_cons] at hsingle
      obtain rfl : before = [] := List.length_eq_zero_iff.mp (by omega)
      obtain rfl : after = [] := List.length_eq_zero_iff.mp (by omega)
      obtain ⟨hoccurs, hm, hinside⟩ := ih hq h
      rw [Tree.withoutParentheses_of_children hlabel hchildren] at hinside
      exact ⟨hoccurs, hm, hinside⟩
    · cases h
      exact ⟨⟨_, hq, rfl⟩, hpart, rfl⟩

/-- A call has a function as its callee, through parentheses, exactly if what it calls has the span
of the function. -/
theorem callsAt_iff (ht : ∀ x ∈ t.sites, x.tree.IsLaidOut) {n p : Node} (hp : p.tree.Occurs t)
    (hpart : n.IsPart p) (hf : isFunctionLabel n.tree.withoutParentheses.label = true) :
    callsAt n.tree.withoutParentheses.span p.tree = true ↔
      p.tree.label = .callExpression ∧ n.IsFirstPart p := by
  obtain ⟨before, after, hchildren, hid⟩ := hpart
  obtain ⟨id, label, span, children⟩ := p
  obtain rfl : children = before ++ n.tree :: after := hchildren
  by_cases hlabel : label = .callExpression
  · subst hlabel
    cases before with
    | nil =>
      have hspan : n.tree.inner.span = n.tree.withoutParentheses.span := by
        rw [Tree.inner_of_isFunction hf]
      exact iff_of_true (beq_iff_eq.mpr hspan) ⟨rfl, rfl, hid⟩
    | cons callee before =>
      -- The number of the node is that of a later part, and its span lies in an argument and not in
      -- the callee.
      have hpos := callee.size_pos
      rw [Tree.sizeAll] at hid
      apply iff_of_false
      · have hargument : n.tree ∈
            Tree.callArguments
              (.node .callExpression span (callee :: (before ++ n.tree :: after))) := by
          apply List.mem_filter.mpr
          refine ⟨by simp, ?_⟩
          rw [Tree.isTypeArguments_of_isFunction hf]
          rfl
        have hne := Tree.inner_span_ne ht hp rfl hargument
        simpa [callsAt] using hne
      · intro hfirst
        have hnext := hfirst.2.2
        omega
  · apply iff_of_false
    · unfold callsAt
      split
      · rename_i htree
        exact absurd (congrArg Tree.label htree) hlabel
      · exact Bool.false_ne_true
    · intro hfirst
      exact hlabel hfirst.1

theorem isImmediatelyCalled_iff (ht : ∀ x ∈ t.sites, x.tree.IsLaidOut) {s : Site} (hs : s ∈ t.sites)
    (hf : isFunctionLabel s.label = true) : s.isImmediatelyCalled = true ↔ s.IsCallee := by
  rw [isImmediatelyCalled, calledAbove_eq s.span s.node s.above]
  cases hholder : holder? s.node s.above with
  | none => simp [IsCallee, hholder]
  | some q =>
    obtain ⟨p, m⟩ := q
    obtain ⟨hp, hpart, hsame⟩ := holder?_part ht hs hholder
    have hm : m.tree.withoutParentheses = s.tree :=
      hsame.trans (Tree.withoutParentheses_of_isFunction hf)
    have hcalls := callsAt_iff ht hp hpart (by rw [hm]; exact hf)
    rw [hm] at hcalls
    show callsAt s.tree.span p.tree = true ↔ _
    rw [hcalls]
    simp [IsCallee, hholder]

theorem IsArgument.not_isCallee {s : Site} (h : s.IsArgument) : ¬ s.IsCallee := by
  intro hcallee
  obtain ⟨call, n, hholder, _, hid⟩ := h
  obtain ⟨call', n', hholder', _, hfirst⟩ := hcallee
  rw [hholder] at hholder'
  cases hholder'
  exact hid hfirst.2

theorem IsOutsideCall.not_isCallee {s : Site} (h : s.IsOutsideCall) : ¬ s.IsCallee := by
  intro hcallee
  obtain ⟨p, n, hholder, hlabel⟩ := h
  obtain ⟨call, n', hholder', hcall, _⟩ := hcallee
  rw [hholder] at hholder'
  cases hholder'
  exact hlabel hcall

/-- If wrapped expressions lie in what wraps them, and the callee of each call is disjoint from the
arguments, then a function is taken for one that is called where it stands exactly if it is the
callee of a call, looked at through parentheses. So this never happens to an argument of a call, or
to a function with anything but parentheses between it and the call, be it an assertion or another
function that is called. -/
theorem immediatelyCalled_iff_callee {t : Tree} (ht : ∀ x ∈ t.sites, x.tree.IsLaidOut) {s : Site}
    (hs : s ∈ t.sites) (hf : isFunctionLabel s.label = true) :
    (s.isImmediatelyCalled = true ↔ s.IsCallee) ∧ (s.IsArgument → s.isImmediatelyCalled = false) ∧
      (s.IsOutsideCall → s.isImmediatelyCalled = false) := by
  have hcalled := isImmediatelyCalled_iff ht hs hf
  refine ⟨hcalled, ?_, ?_⟩
  · intro hargument
    rw [← Bool.not_eq_true, hcalled]
    exact hargument.not_isCallee
  · intro houtside
    rw [← Bool.not_eq_true, hcalled]
    exact houtside.not_isCallee

/-- A call of a function with functions as arguments, one of them asserted to be something else, and
with one inside. -/
def callWithFunctions : Text := "((function(){return()=>a}))((()=>b),(()=>c)as d);".toList

theorem immediatelyCalled_iff_callee_callWithFunctions :
    ∃ file, SourceFile.parse? callWithFunctions (some "p.ts".toList) = some file ∧
      (∀ x ∈ file.tree.sites, x.tree.IsLaidOut) ∧
      (∃ s ∈ file.tree.sites, isFunctionLabel s.label = true ∧ s.span = ⟨2, 25⟩ ∧ s.IsCallee) ∧
      (∃ s ∈ file.tree.sites,
        isFunctionLabel s.label = true ∧ s.IsArgument ∧ s.isImmediatelyCalled = false) ∧
      ∃ s ∈ file.tree.sites,
        isFunctionLabel s.label = true ∧ s.IsOutsideCall ∧ s.isImmediatelyCalled = false := by
  have hread : ((SourceFile.parse? callWithFunctions (some "p.ts".toList)).any fun file =>
      file.tree.sites.all (fun x => decide x.tree.IsLaidOut) &&
        (file.tree.sites.any (fun s =>
          isFunctionLabel s.label && decide (s.span = ⟨2, 25⟩) && s.isImmediatelyCalled) &&
          (file.tree.sites.any (fun s =>
            isFunctionLabel s.label && (holder? s.node s.above).any fun q =>
              decide (q.1.tree.label = .callExpression) && decide (q.2.id ≠ q.1.id + 1)) &&
            file.tree.sites.any fun s =>
              isFunctionLabel s.label && (holder? s.node s.above).any fun q =>
              decide (q.1.tree.label ≠ .callExpression)))) = true := by
    decide +kernel
  simp only [Option.any_eq_true, Bool.and_eq_true, List.all_eq_true, List.any_eq_true,
    decide_eq_true_eq] at hread
  obtain ⟨file, hfile, hlaid, ⟨f, hf, ⟨hfunction, hspan⟩, hcalled⟩,
      ⟨g, hg, hfunction', q, hq, hcall, hid⟩, ⟨h, hh, hfunction'', r, hr, hlabel⟩⟩ := hread
  have hargument : g.IsArgument := ⟨q.1, q.2, hq, hcall, hid⟩
  have houtside : h.IsOutsideCall := ⟨r.1, r.2, hr, hlabel⟩
  exact ⟨file, hfile, hlaid,
    ⟨f, hf, hfunction, hspan, (immediatelyCalled_iff_callee hlaid hf hfunction).1.mp hcalled⟩,
    ⟨g, hg, hfunction', hargument,
      (immediatelyCalled_iff_callee hlaid hg hfunction').2.1 hargument⟩,
    ⟨h, hh, hfunction'', houtside,
      (immediatelyCalled_iff_callee hlaid hh hfunction'').2.2 houtside⟩⟩

end Site

end PureLint
