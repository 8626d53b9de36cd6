import Mathlib.Data.List.Nodup
import PureLint.Proofs.PrunedWalk
import PureLint.Proofs.RegisteredRules
import PureLint.SourceFile

/-!
# What lies below an ignored node

A rule may leave alone what lies below a node that it ignores. The runner remembers such nodes only
where it came to ask about them, that is, where nothing above them was remembered. This module says
what comes of that.

What offering a site hides is one equivalence (`isHidden_offer_iff`). From it follow two results. If
a rule hides what lies below ignored nodes and nothing else, then after a part of the table it sees
nothing below any ignored node of that part, remembered or not, and so a site is checked exactly if
neither it nor a node above it is ignored (`checked_iff_nothing_ignored`). And where everything
below an ignored node is ignored too, as under options that look at nothing but the surroundings, it
makes no difference whether a rule hides it (`structural_ignoring_is_hereditary`).
-/

namespace PureLint

/-! ## Sites below a site -/

instance (x s : Site) : Decidable (x.IsBelow s) :=
  inferInstanceAs (Decidable (∃ n ∈ x.above, n.id = s.node.id))

namespace IsPreorder

variable {table : List Site} (h : IsPreorder table) {s x y : Site}

include h

theorem eq_of_id_eq (hs : s ∈ table) (hx : x ∈ table) (hid : s.node.id = x.node.id) : s = x := by
  have hnodup : (table.map (·.node.id)).Nodup := by
    rw [h.numbered]
    exact List.nodup_range
  exact List.inj_on_of_nodup_map hnodup hs hx hid

theorem mem_of_above {inner rest : List Node} {n : Node} (hs : s ∈ table)
    (habove : s.above = inner ++ n :: rest) : ⟨n, rest⟩ ∈ table := by
  induction inner generalizing s with
  | nil => exact (h.parent_earlier s hs n rest habove).2
  | cons p inner ih => exact ih (h.parent_earlier s hs p (inner ++ n :: rest) habove).2 rfl

/-- Above a site that is below another there are first nodes between them, and then that site with
all above it. -/
theorem above_of_isBelow (hs : s ∈ table) (hx : x ∈ table) (hbelow : x.IsBelow s) :
    ∃ between, x.above = between ++ s.node :: s.above := by
  obtain ⟨n, hn, hid⟩ := hbelow
  obtain ⟨between, rest, habove⟩ := List.append_of_mem hn
  obtain rfl : (⟨n, rest⟩ : Site) = s := h.eq_of_id_eq (h.mem_of_above hx habove) hs hid
  exact ⟨between, habove⟩

theorem isBelow_trans (hx : x ∈ table) (hy : y ∈ table) (hxs : x.IsBelow s) (hyx : y.IsBelow x) :
    y.IsBelow s := by
  obtain ⟨n, hn, hid⟩ := hxs
  obtain ⟨between, habove⟩ := h.above_of_isBelow hx hy hyx
  exact ⟨n, by simp [habove, hn], hid⟩

theorem mem_before_of_isBelow {before behind : List Site} (htable : table = before ++ s :: behind)
    (hx : x ∈ table) (hbelow : s.IsBelow x) : x ∈ before := by
  have hs : s ∈ table := by simp [htable]
  have hlt : x.node.id < s.node.id := ((h.contiguous x hx s hs).mp hbelow).1
  have hsorted : (table.map (·.node.id)).Pairwise (· < ·) := by
    rw [h.numbered]
    exact List.pairwise_lt_range
  rw [htable, List.pairwise_map, List.pairwise_append, List.pairwise_cons] at hsorted
  rw [htable, List.mem_append, List.mem_cons] at hx
  rcases hx with hx | rfl | hx
  · exact hx
  · omega
  · have hgt := hsorted.2.1.1 x hx
    omega

end IsPreorder

theorem Site.hasAbove_of_isBelow {table : List Site} (h : IsPreorder table) {s x : Site}
    (hs : s ∈ table) (hx : x ∈ table)
    (hbelow : x.IsBelow s) {p : Label → Bool} (hp : s.hasAbove p = true) : x.hasAbove p = true := by
  obtain ⟨between, habove⟩ := h.above_of_isBelow hs hx hbelow
  rw [Site.hasAbove] at hp ⊢
  rw [habove, List.any_append, List.any_cons, hp]
  simp

/-! ## What offering a site hides -/

namespace Runner

open Walk

variable {source : Text}

theorem isHidden_cons_iff {x s : Site} {hidden : Hidden} :
    isHidden (x.node.id :: hidden) s = true ↔ s.IsBelow x ∨ isHidden hidden s = true := by
  simp only [isHidden, List.any_eq_true, List.contains_iff_mem, List.mem_cons, Site.IsBelow]
  refine ⟨?_, ?_⟩
  · intro ⟨n, hn, hid⟩
    rcases hid with hid | hid
    · exact .inl ⟨n, hn, hid⟩
    · exact .inr ⟨n, hn, hid⟩
  · intro hor
    rcases hor with ⟨n, hn, hid⟩ | ⟨n, hn, hid⟩
    · exact ⟨n, hn, .inl hid⟩
    · exact ⟨n, hn, .inr hid⟩

/-- After a site was offered a rule does not see what it did not see before, and what lies below the
site if the rule saw the site and is pruned there. -/
theorem isHidden_offer_iff {x s : Site} {c : ConfiguredRule} {hidden : Hidden} :
    isHidden (offer source x c hidden).2 s = true ↔
      (s.IsBelow x ∧ isHidden hidden x = false ∧ (visit source x (c, false)).2 = true) ∨
        isHidden hidden s = true := by
  rw [offer_eq_visit, ← isHidden_eq_covers]
  cases hx : isHidden hidden x with
  | true => simp
  | false =>
    cases hv : (visit source x (c, false)).2 with
    | true => simp [isHidden_cons_iff]
    | false => simp

/-! ## Checks -/

/-- Whether the check of a rule is asked about a site that is offered to it. -/
def asks (source : Text) (s : Site) (c : ConfiguredRule) (hidden : Hidden) : Bool :=
  c.rule.runsOn s.tree && !isHidden hidden s && !c.rule.ignores source s

/-- The checks that are made when a site is offered to rules. -/
def checksAt (source : Text) (s : Site) (state : State) : List (ConfiguredRule × Site) :=
  state.flatMap fun p => if asks source s p.1 p.2 then [(p.1, s)] else []

/-- The checks that are made when sites are offered in order. -/
def checksOf (source : Text) : List Site → State → List (ConfiguredRule × Site)
  | [], _ => []
  | s :: ss, state => checksAt source s state ++ checksOf source ss (offerAll source s state).2

/-- The checks that a run makes, in order. -/
def checks (source : Text) (tree : Tree) (rules : RuleSet) : List (ConfiguredRule × Site) :=
  checksOf source tree.sites (rules.map fun c => (c, []))

/-- What a check reports, with the severity of the rule. -/
def checkReports (source : Text) (p : ConfiguredRule × Site) : List Diagnostic :=
  (p.1.rule.check source p.2).diagnostics.map (·.withSeverity p.1.severity)

theorem offer_fst_eq (s : Site) (c : ConfiguredRule) (hidden : Hidden) :
    (offer source s c hidden).1 =
      if asks source s c hidden then checkReports source (c, s) else [] := by
  unfold offer asks
  cases c.rule.runsOn s.tree with
  | false => simp
  | true =>
    cases isHidden hidden s with
    | true => simp
    | false => cases c.rule.ignores source s <;> simp [checkReports]

theorem offerAll_fst_eq_checks (s : Site) (state : State) :
    (offerAll source s state).1 = (checksAt source s state).flatMap (checkReports source) := by
  induction state with
  | nil => rfl
  | cons p rest ih =>
    rw [offerAll, checksAt, List.flatMap_cons, List.flatMap_append, ← checksAt, ← ih]
    show (offer source s p.1 p.2).1 ++ _ = _
    rw [offer_fst_eq]
    congr 1
    split <;> simp

/-- A run reports what its checks report, and nothing else. -/
theorem runSites_eq_checks (ss : List Site) (state : State) :
    runSites source ss state = (checksOf source ss state).flatMap (checkReports source) := by
  induction ss generalizing state with
  | nil => rfl
  | cons s ss ih =>
    rw [checksOf, List.flatMap_append, ← ih, ← offerAll_fst_eq_checks]
    rfl

/-! ## Rules that hide what lies below ignored nodes -/

/-- Whether a rule hides what lies below the nodes it ignores, and nothing else. -/
structure HidesIgnored (source : Text) (r : Rule) : Prop where
  skipIgnoredSubtree : r.skipIgnoredSubtree = true
  skipChildren : ∀ s, (r.check source s).skipChildren = false

/-- Whether a rule looks at the node of a site and ignores it. -/
def passesOver (source : Text) (r : Rule) (s : Site) : Bool := r.runsOn s.tree && r.ignores source s

theorem HidesIgnored.visit_snd {c : ConfiguredRule} (h : HidesIgnored source c.rule) (s : Site) :
    (visit source s (c, false)).2 = passesOver source c.rule s := by
  cases hr : c.rule.runsOn s.tree with
  | false => simp [visit, passesOver, hr]
  | true =>
    cases hi : c.rule.ignores source s with
    | false => simp [visit, passesOver, hr, hi, h.skipChildren]
    | true => simp [visit, passesOver, hr, hi, h.skipIgnoredSubtree]

/-- Whether a rule looks at the node of a site, and passes over neither it nor a node above it. -/
def InSight (source : Text) (table : List Site) (r : Rule) (s : Site) : Prop :=
  r.runsOn s.tree = true ∧ ∀ a ∈ table, a = s ∨ s.IsBelow a → passesOver source r a = false

/-- Whether exactly those sites of a table are hidden from a rule that lie below an ignored one of
the sites `before`. -/
def HiddenBelow (source : Text) (table before : List Site) (r : Rule) (hidden : Hidden) : Prop :=
  ∀ s ∈ table, isHidden hidden s = true ↔ ∃ a ∈ before, s.IsBelow a ∧ passesOver source r a = true

section

variable {table before : List Site} (h : IsPreorder table) {c : ConfiguredRule}

include h

/-- One more site: if it is ignored but hidden itself, then a node above it is ignored, and what
lies below the site lies below that node. -/
theorem hiddenBelow_offer (hc : HidesIgnored source c.rule) {x : Site} {hidden : Hidden}
    (hx : x ∈ table) (hidden_iff : HiddenBelow source table before c.rule hidden) :
    HiddenBelow source table (before ++ [x]) c.rule (offer source x c hidden).2 := by
  intro s hs
  rw [isHidden_offer_iff, hidden_iff s hs, hc.visit_snd]
  refine ⟨?_, ?_⟩
  · intro hor
    rcases hor with ⟨hbelow, _, hpass⟩ | ⟨a, ha, hbelow, hpass⟩
    · exact ⟨x, by simp, hbelow, hpass⟩
    · exact ⟨a, by simp [ha], hbelow, hpass⟩
  · intro ⟨a, ha, hbelow, hpass⟩
    rcases List.mem_append.mp ha with ha | ha
    · exact .inr ⟨a, ha, hbelow, hpass⟩
    · obtain rfl : a = x := List.mem_singleton.mp ha
      cases hhidden : isHidden hidden a with
      | false => exact .inl ⟨hbelow, rfl, hpass⟩
      | true =>
        -- The runner does not remember `a`, since an ignored `b` lies above it; `b` need not be
        -- remembered either.
        obtain ⟨b, hb, hab, hpass'⟩ := (hidden_iff a hx).mp hhidden
        exact .inr ⟨b, hb, h.isBelow_trans hx hs hab hbelow, hpass'⟩

theorem asks_iff {x : Site} {hidden : Hidden} {behind : List Site}
    (htable : table = before ++ x :: behind)
    (hidden_iff : HiddenBelow source table before c.rule hidden) :
    asks source x c hidden = true ↔ InSight source table c.rule x := by
  have hx : x ∈ table := by simp [htable]
  have hhidden : isHidden hidden x = false ↔
      ∀ a ∈ table, x.IsBelow a → passesOver source c.rule a = false := by
    rw [← Bool.not_eq_true, hidden_iff x hx]
    refine ⟨?_, ?_⟩
    · intro hnone a ha hbelow
      rw [← Bool.not_eq_true]
      intro hpass
      exact hnone ⟨a, h.mem_before_of_isBelow htable ha hbelow, hbelow, hpass⟩
    · intro hall ⟨a, ha, hbelow, hpass⟩
      have hfalse := hall a (by simp [htable, ha]) hbelow
      rw [hfalse] at hpass
      cases hpass
  simp only [asks, InSight, Bool.and_eq_true, Bool.not_eq_true', hhidden, and_assoc]
  refine and_congr_right fun hruns => ?_
  have hself : passesOver source c.rule x = c.rule.ignores source x := by
    rw [passesOver, hruns, Bool.true_and]
  rw [← hself]
  refine ⟨?_, ?_⟩
  · intro ⟨habove, hhere⟩ a ha hor
    rcases hor with rfl | hbelow
    · exact hhere
    · exact habove a ha hbelow
  · intro hall
    exact ⟨fun a ha hbelow => hall a ha (.inr hbelow), hall x hx (.inl rfl)⟩

/-- Rules of which what is hidden from `c` is what lies below ignored sites of `before`; `c` is one
of them. -/
structure Knows (source : Text) (table before : List Site) (c : ConfiguredRule) (state : State) :
    Prop where
  has : ∃ hidden, (c, hidden) ∈ state
  hiddenBelow : ∀ hidden, (c, hidden) ∈ state → HiddenBelow source table before c.rule hidden

theorem mem_checksAt_iff {s x : Site} {behind : List Site} {state : State}
    (htable : table = before ++ x :: behind) (hstate : Knows source table before c state) :
    (c, s) ∈ checksAt source x state ↔ s = x ∧ InSight source table c.rule x := by
  simp only [checksAt, List.mem_flatMap, Prod.exists]
  refine ⟨?_, ?_⟩
  · intro ⟨c', hidden, hmem, hin⟩
    split at hin
    · rename_i hasks
      cases List.mem_singleton.mp hin
      exact ⟨rfl, (asks_iff h htable (hstate.hiddenBelow hidden hmem)).mp hasks⟩
    · cases hin
  · intro ⟨heq, hsight⟩
    obtain ⟨hidden, hmem⟩ := hstate.has
    have hasks := (asks_iff h htable (hstate.hiddenBelow hidden hmem)).mpr hsight
    exact ⟨c, hidden, hmem, by simp [hasks, heq]⟩

theorem Knows.offerAll (hc : HidesIgnored source c.rule) {x : Site} {state : State} (hx : x ∈ table)
    (hstate : Knows source table before c state) :
    Knows source table (before ++ [x]) c (Runner.offerAll source x state).2 := by
  rw [offerAll_snd]
  refine ⟨?_, ?_⟩
  · obtain ⟨hidden, hmem⟩ := hstate.has
    exact ⟨_, List.mem_map_of_mem hmem⟩
  · intro hidden' hmem'
    obtain ⟨⟨c', hidden⟩, hmem, heq⟩ := List.mem_map.mp hmem'
    cases heq
    exact hiddenBelow_offer h hc hx (hstate.hiddenBelow hidden hmem)

/-- On the rest of a table a rule is asked about the sites in sight. -/
theorem mem_checksOf_iff (hc : HidesIgnored source c.rule) {s : Site} {behind : List Site}
    {state : State}
    (htable : table = before ++ behind) (hstate : Knows source table before c state) :
    (c, s) ∈ checksOf source behind state ↔ s ∈ behind ∧ InSight source table c.rule s := by
  -- The induction is on the rest of the table, and each site that was offered joins `before`.
  induction behind generalizing before state with
  | nil => simp [checksOf]
  | cons x behind ih =>
    have hx : x ∈ table := by simp [htable]
    have hrest :=
      ih (by rw [htable, List.append_assoc, List.singleton_append]) (hstate.offerAll h hc hx)
    rw [checksOf, List.mem_append, mem_checksAt_iff h htable hstate, hrest, List.mem_cons]
    refine ⟨?_, ?_⟩
    · intro hor
      rcases hor with ⟨rfl, hsight⟩ | ⟨hmem, hsight⟩
      · exact ⟨.inl rfl, hsight⟩
      · exact ⟨.inr hmem, hsight⟩
    · intro ⟨hor, hsight⟩
      rcases hor with rfl | hmem
      · exact .inl ⟨rfl, hsight⟩
      · exact .inr ⟨hmem, hsight⟩

end

/-- A rule that hides what lies below ignored nodes, and nothing else, is asked in a run about
exactly the sites in sight. -/
theorem mem_checks_iff {tree : Tree} {rules : RuleSet} {c : ConfiguredRule} (hmem : c ∈ rules)
    (hc : HidesIgnored source c.rule) {s : Site} (hs : s ∈ tree.sites) :
    (c, s) ∈ checks source tree rules ↔ InSight source tree.sites c.rule s := by
  have hstart : Knows source tree.sites [] c (rules.map fun c => (c, [])) := by
    refine ⟨?_, ?_⟩
    · exact ⟨[], List.mem_map_of_mem hmem⟩
    · intro hidden hin
      obtain ⟨c', _, heq⟩ := List.mem_map.mp hin
      cases heq
      intro x _
      simp [isHidden]
  have hall : (c, s) ∈ checks source tree rules ↔
      s ∈ tree.sites ∧ InSight source tree.sites c.rule s :=
    mem_checksOf_iff tree.sites_isPreorder hc (List.nil_append _).symm hstart
  exact hall.trans (and_iff_right hs)

theorem passesOver_eq_false_iff {r : Rule} {o : IgnoreOptions} (ho : r.ignore = some o) (a : Site) :
    passesOver source r a = false ↔
      (r.runsOn a.tree = true → Ignore.shouldIgnore source o a = false) := by
  rw [passesOver, Rule.ignores, ho, Option.any_some]
  cases r.runsOn a.tree <;> simp

end Runner

open Runner

theorem Rules.PreferReadonlyType.hidesIgnored {o : PreferReadonlyType.Options} {r : Rule}
    (h : preferReadonlyType.withOptions o = .ok r) (source : Text) :
    HidesIgnored source r ∧ ∃ i, r.ignore = some i := by
  obtain ⟨i, hi, rfl⟩ := Definition.withOptions_eq_ok_iff.mp h
  obtain ⟨compiled, _, rfl⟩ := hi
  exact ⟨⟨rfl, fun s => (check_signedBy o source s).skipChildren_eq⟩, compiled, rfl⟩

/-- What a run reports is what its checks report. A rule that hides what lies below ignored nodes,
and nothing else, checks a site exactly if it looks at the node and ignores neither it nor a node
above it that it looks at. Of the nodes that `preferReadonlyType` looks at, under any options, those
are not checked that are ignored or lie below one of them that is ignored, and no others. -/
theorem checked_iff_nothing_ignored (source : Text) (tree : Tree) (rules : RuleSet) :
    run source tree rules = (checks source tree rules).flatMap (checkReports source) ∧
      (∀ c ∈ rules, ∀ o, c.rule.ignore = some o → c.rule.skipIgnoredSubtree = true →
        (∀ s, (c.rule.check source s).skipChildren = false) → ∀ s ∈ tree.sites,
          ((c, s) ∈ checks source tree rules ↔
            c.rule.runsOn s.tree = true ∧ ∀ a ∈ tree.sites, a = s ∨ s.IsBelow a →
            c.rule.runsOn a.tree = true → Ignore.shouldIgnore source o a = false)) ∧
      ∀ c ∈ rules, ∀ options, Rules.preferReadonlyType.withOptions options = .ok c.rule →
        ∃ o, c.rule.ignore = some o ∧ ∀ s ∈ tree.sites, c.rule.runsOn s.tree = true →
          ((c, s) ∉ checks source tree rules ↔ ∃ a ∈ tree.sites, (a = s ∨ s.IsBelow a) ∧
            c.rule.runsOn a.tree = true ∧ Ignore.shouldIgnore source o a = true) := by
  refine ⟨runSites_eq_checks _ _, ?_, ?_⟩
  · intro c hmem o ho hskip hchildren s hs
    rw [mem_checks_iff hmem ⟨hskip, hchildren⟩ hs, InSight]
    simp only [passesOver_eq_false_iff ho]
  · intro c hmem options hrule
    obtain ⟨hhides, o, ho⟩ := Rules.PreferReadonlyType.hidesIgnored hrule source
    refine ⟨o, ho, fun s hs hruns => ?_⟩
    rw [mem_checks_iff hmem hhides hs, InSight, and_iff_right hruns]
    simp only [passesOver_eq_false_iff ho]
    push Not
    simp only [Bool.not_eq_false, ne_eq]

/-- Two declarations of types with an array in each. -/
def twoAliases : Text := "type M={a:b[]};type C=d[];".toList

/-- Options under which one of the declarations is ignored. -/
def namedM : Rules.PreferReadonlyType.Options := { ignorePattern := .one ['M'] }

theorem checked_iff_nothing_ignored_twoAliases :
    ∃ file r, SourceFile.parse? twoAliases (some "p.ts".toList) = some file ∧
      Rules.preferReadonlyType.withOptions namedM = .ok r ∧
      (∃ s ∈ file.tree.sites,
        s.label = .arrayType ∧ (⟨r, .error⟩, s) ∉ checks twoAliases file.tree [⟨r, .error⟩]) ∧
      ∃ s ∈ file.tree.sites,
        s.label = .arrayType ∧ (⟨r, .error⟩, s) ∈ checks twoAliases file.tree [⟨r, .error⟩] := by
  have hread : (SourceFile.parse? twoAliases (some "p.ts".toList)).any (fun file =>
      (Rules.preferReadonlyType.withOptions namedM).toOption.any fun r => r.ignore.any fun o =>
        decide ((∃ s ∈ file.tree.sites, s.label = .arrayType ∧ ∃ a ∈ file.tree.sites, s.IsBelow a ∧
            r.runsOn a.tree = true ∧ Ignore.shouldIgnore twoAliases o a = true) ∧
          ∃ s ∈ file.tree.sites,
            s.label = .arrayType ∧ ∀ a ∈ file.tree.sites, a.node.id = s.node.id ∨ s.IsBelow a →
            r.runsOn a.tree = true → Ignore.shouldIgnore twoAliases o a = false)) = true := by
    decide +kernel
  simp only [Option.any_eq_true, decide_eq_true_eq] at hread
  obtain ⟨file, hfile, r, hr, o, ho, ⟨s, hs, hlabel, a, ha, hbelow, hruns, hignored⟩, t, ht,
      hlabel', hsight⟩ := hread
  have hbuilt : Rules.preferReadonlyType.withOptions namedM = .ok r := by
    cases h : Rules.preferReadonlyType.withOptions namedM with
    | error e => rw [h] at hr; cases hr
    | ok r' => rw [h] at hr; cases hr; rfl
  have hhides := (Rules.PreferReadonlyType.hidesIgnored hbuilt twoAliases).1
  have hlooks : ∀ x : Site, x.label = .arrayType → r.runsOn x.tree = true := by
    intro x hx
    obtain ⟨i, _, rfl⟩ := Definition.withOptions_eq_ok_iff.mp hbuilt
    show Rules.PreferReadonlyType.runsOn x.label = true
    rw [hx]
    rfl
  obtain ⟨_, hchecked, hreadonly⟩ := checked_iff_nothing_ignored twoAliases file.tree [⟨r, .error⟩]
  obtain ⟨o', ho', hunchecked⟩ := hreadonly ⟨r, .error⟩ List.mem_cons_self namedM hbuilt
  obtain rfl : o' = o := Option.some.inj (ho'.symm.trans ho)
  refine ⟨file, r, hfile, hbuilt, ⟨s, hs, hlabel, ?_⟩, t, ht, hlabel', ?_⟩
  · exact (hunchecked s hs (hlooks s hlabel)).mpr ⟨a, ha, .inr hbelow, hruns, hignored⟩
  · refine (hchecked ⟨r, .error⟩ List.mem_cons_self o' ho hhides.skipIgnoredSubtree
      hhides.skipChildren t ht).mpr
      ⟨hlooks t hlabel', ?_⟩
    intro b hb hor
    exact hsight b hb (hor.imp_left fun heq => by rw [heq])

/-! ## Options that look at the surroundings -/

/-- Whether options look at nothing but what surrounds a site. -/
def IgnoreOptions.IsStructural (o : IgnoreOptions) : Prop :=
  o.hasTextMatchers = false ∧ o.ignoreClass ≠ .fieldsOnly

theorem Ignore.shouldIgnore_of_isBelow {table : List Site} (h : IsPreorder table) {source : Text}
    {o : IgnoreOptions}
    (ho : o.IsStructural) {s x : Site} (hs : s ∈ table) (hx : x ∈ table) (hbelow : x.IsBelow s)
    (hignore : shouldIgnore source o s = true) : shouldIgnore source o x = true := by
  obtain ⟨htexts, hfields⟩ := ho
  have habove : ∀ p, s.hasAbove p = true → x.hasAbove p = true :=
    fun p => Site.hasAbove_of_isBelow h hs hx hbelow
  have hplace : ignoredByPlace o s = true := by
    simpa [shouldIgnore, ignoredByText, htexts] using hignore
  suffices ignoredByPlace o x = true by rw [shouldIgnore, this, Bool.true_or]
  unfold ignoredByPlace at hplace ⊢
  simp only [Bool.or_eq_true, Bool.and_eq_true] at hplace ⊢
  rcases hplace with (⟨hallow, hbody⟩ | hclass) | ⟨hallow, hbody⟩
  · exact .inl (.inl ⟨hallow, habove _ hbody⟩)
  · refine .inl (.inr ?_)
    cases hmode : o.ignoreClass with
    | off => rw [hmode] at hclass; cases hclass
    | fieldsOnly => exact absurd hmode hfields
    | all =>
      rw [hmode] at hclass
      exact habove _ hclass
  · exact .inr ⟨hallow, habove _ hbody⟩

/-- The rule, with or without hiding what lies below ignored nodes. -/
def ConfiguredRule.hiding (c : ConfiguredRule) (b : Bool) : ConfiguredRule :=
  { c with rule := { c.rule with skipIgnoredSubtree := b } }

theorem ConfiguredRule.hiding_ignores (c : ConfiguredRule) (b : Bool) (source : Text) (s : Site) :
    (c.hiding b).rule.ignores source s = c.rule.ignores source s := rfl

namespace Walk

variable {source : Text} {s : Site} {c : ConfiguredRule}

theorem visit_fst_of_ignores (h : c.rule.ignores source s = true) (p : Bool) :
    (visit source s (c, p)).1 = [] := by
  cases p with
  | true => rfl
  | false => cases hr : c.rule.runsOn s.tree <;> simp [visit, hr, h]

theorem visit_hiding_of_not_ignores (h : c.rule.ignores source s = false) (b p : Bool) :
    visit source s (c.hiding b, p) = visit source s (c, p) := by
  cases p with
  | true => rfl
  | false =>
    simp only [visit, c.hiding_ignores, h]
    rfl

end Walk

namespace Runner

open Walk

variable {source : Text} {table : List Site} {c : ConfiguredRule}

/-- Whether what a rule ignores has everything below it ignored. -/
def IgnoresBelow (source : Text) (table : List Site) (r : Rule) : Prop :=
  ∀ s ∈ table, ∀ x ∈ table, x.IsBelow s → r.ignores source s = true → r.ignores source x = true

/-- Whether what is hidden from two rules differs only at sites that are ignored. -/
def HiddenAlike (source : Text) (table : List Site) (r : Rule) (hidden hidden' : Hidden) : Prop :=
  ∀ s ∈ table, r.ignores source s = false → isHidden hidden s = isHidden hidden' s

variable (b b' : Bool) {hidden hidden' : Hidden} {x : Site}

/-- At a site, a rule that hides what lies below ignored nodes reports the same as one that does
not. -/
theorem visit_fst_eq_of_hiddenAlike (h : HiddenAlike source table c.rule hidden hidden')
    (hx : x ∈ table) :
    (visit source x (c.hiding b, isHidden hidden x)).1 =
      (visit source x (c.hiding b', isHidden hidden' x)).1 := by
  cases hi : c.rule.ignores source x with
  | true =>
    have hnone : ∀ d p, (visit source x (c.hiding d, p)).1 = [] :=
      fun d p => visit_fst_of_ignores ((c.hiding_ignores d source x).trans hi) p
    rw [hnone, hnone]
  | false => rw [h x hx hi, visit_hiding_of_not_ignores hi, visit_hiding_of_not_ignores hi]

/-- If the site is ignored, the two rules may come to differ in what lies below it, and all of that
is ignored. If it is not, both look at it or neither does. -/
theorem hiddenAlike_offer (hbelow : IgnoresBelow source table c.rule)
    (h : HiddenAlike source table c.rule hidden hidden') (hx : x ∈ table) :
    HiddenAlike source table c.rule (offer source x (c.hiding b) hidden).2
      (offer source x (c.hiding b') hidden').2 := by
  intro s hs hsight
  rw [Bool.eq_iff_iff, isHidden_offer_iff, isHidden_offer_iff, h s hs hsight]
  cases hi : c.rule.ignores source x with
  | true =>
    have hnot : ¬ s.IsBelow x := by
      intro hsx
      rw [hbelow x hx s hs hsx hi] at hsight
      cases hsight
    simp [hnot]
  | false => rw [h x hx hi, visit_hiding_of_not_ignores hi, visit_hiding_of_not_ignores hi]

theorem runSites_hiding (hbelow : IgnoresBelow source table c.rule) {ss : List Site}
    (hss : ∀ s ∈ ss, s ∈ table)
    (before after : State) (h : HiddenAlike source table c.rule hidden hidden') :
    runSites source ss (before ++ (c.hiding b, hidden) :: after) =
      runSites source ss (before ++ (c.hiding b', hidden') :: after) := by
  -- The other rules take the same turns in both runs, whatever is hidden from them.
  induction ss generalizing before after hidden hidden' with
  | nil => rfl
  | cons x ss ih =>
    have hx := hss x List.mem_cons_self
    have hreports : reports source x (standing x.above (before ++ (c.hiding b, hidden) :: after)) =
        reports source x (standing x.above (before ++ (c.hiding b', hidden') :: after)) := by
      have hhere := visit_fst_eq_of_hiddenAlike b b' h hx
      rw [isHidden_eq_covers, isHidden_eq_covers] at hhere
      simp only [reports, standing, List.map_append, List.map_cons, List.flatMap_append,
        List.flatMap_cons, hhere]
    rw [runSites_cons, runSites_cons, hreports, offerAll_snd, offerAll_snd, List.map_append,
      List.map_append, List.map_cons, List.map_cons]
    congr 1
    exact ih (fun s hs => hss s (List.mem_cons_of_mem x hs)) _ _
      (hiddenAlike_offer b b' hbelow h hx)

theorem run_hiding {tree : Tree} (hbelow : IgnoresBelow source tree.sites c.rule)
    (before after : RuleSet) :
    run source tree (before ++ c.hiding b :: after) =
      run source tree (before ++ c.hiding b' :: after) := by
  rw [run, run, List.map_append, List.map_append, List.map_cons, List.map_cons]
  exact runSites_hiding b b' hbelow (fun _ hs => hs) _ _ fun _ _ _ => rfl

end Runner

/-- Under options that look at nothing but the surroundings, everything below an ignored site is
ignored; and in any rule set it makes no difference to the reports whether a rule with such options
hides what lies below ignored nodes. -/
theorem structural_ignoring_is_hereditary (source : Text) (tree : Tree) (o : IgnoreOptions)
    (ho : o.IsStructural) :
    (∀ s ∈ tree.sites, ∀ x ∈ tree.sites, x.IsBelow s →
      Ignore.shouldIgnore source o s = true → Ignore.shouldIgnore source o x = true) ∧
    ∀ (before after : RuleSet) (c : ConfiguredRule), c.rule.ignore = some o →
      run source tree (before ++ c.hiding true :: after) =
        run source tree (before ++ c.hiding false :: after) := by
  have hdown : ∀ s ∈ tree.sites, ∀ x ∈ tree.sites, x.IsBelow s →
      Ignore.shouldIgnore source o s = true → Ignore.shouldIgnore source o x = true :=
    fun s hs x hx hbelow => Ignore.shouldIgnore_of_isBelow tree.sites_isPreorder ho hs hx hbelow
  refine ⟨hdown, ?_⟩
  intro before after c hc
  apply run_hiding
  intro s hs x hx hbelow hignores
  rw [Rule.ignores, hc, Option.any_some] at hignores ⊢
  exact hdown s hs x hx hbelow hignores

/-- Calls with two arguments in a method and outside of its class, and a call with one. -/
def callsInClass : Text := "class A{m(){f(b,c)}}f(b);f(b,c);".toList

/-- A rule about calls with more than one argument, which ignores everything in classes. -/
def callsOutsideClasses : ConfiguredRule where
  rule :=
    { name := "calls"
      runsOn := fun t => decide (1 < t.callArguments.length)
      ignore := some { ignoreClass := .all }
      check := fun _ s => .report (.plain "calls" "call" s.span "too many arguments") }
  severity := .warning

theorem structural_ignoring_callsInClass :
    IgnoreOptions.IsStructural { ignoreClass := .all } ∧
      ∃ file, SourceFile.parse? callsInClass (some "p.ts".toList) = some file ∧
        run callsInClass file.tree [callsOutsideClasses.hiding true] =
          run callsInClass file.tree [callsOutsideClasses.hiding false] ∧
        (run callsInClass file.tree [callsOutsideClasses.hiding false]).map (·.span) =
          [⟨25, 31⟩] := by
  have ho : IgnoreOptions.IsStructural { ignoreClass := .all } := ⟨rfl, nofun⟩
  have hread : (SourceFile.parse? callsInClass (some "p.ts".toList)).any (fun file =>
      decide ((run callsInClass file.tree [callsOutsideClasses.hiding false]).map (·.span) =
        [⟨25, 31⟩])) = true := by
    decide +kernel
  simp only [Option.any_eq_true, decide_eq_true_eq] at hread
  obtain ⟨file, hfile, hspans⟩ := hread
  have hboth :=
    (structural_ignoring_is_hereditary callsInClass file.tree _ ho).2 [] [] callsOutsideClasses rfl
  exact ⟨ho, file, hfile, hboth, hspans⟩

end PureLint
