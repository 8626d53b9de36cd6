import PureLint.Proofs.SiteTable
import PureLint.Runner

/-!
# The runner is a pruned walk

The runner goes once through the table of sites and keeps, for each rule, the numbers of the nodes
below which the rule sees nothing. `Walk.walk` is the recursion this stands for: it goes down the
tree and carries with every rule whether the rule is pruned in the current subtree. The two report
the same diagnostics in the same order.

What ties them together is `standing`: a rule is pruned below the nodes `above` if one of their
numbers is hidden from it. A site adds at most its own number (`mem_offer_hidden`), numbers grow in
visiting order, and so what is done inside a subtree never changes how the rules stand beside it
(`standing_stateAfter`).
-/

namespace PureLint

/-! ## The walk -/

namespace Walk

/-- A rule, and whether it is pruned in the current subtree. -/
abbrev Standing := ConfiguredRule × Bool

/-- What a rule does at a site: what it reports there, and whether it is pruned below. -/
def visit (source : Text) (s : Site) : Standing → List Diagnostic × Bool
  | (_, true) => ([], true)
  | (c, false) =>
    if c.rule.runsOn s.tree then
      if c.rule.ignores source s then ([], c.rule.skipIgnoredSubtree)
      else
        let r := c.rule.check source s
        (r.diagnostics.map (·.withSeverity c.severity), r.skipChildren)
    else ([], false)

/-- The reports of the rules at a site, rule after rule. -/
def reports (source : Text) (s : Site) (rules : List Standing) : List Diagnostic :=
  rules.flatMap fun p => (visit source s p).1

/-- The rules as they stand below a site. -/
def below (source : Text) (s : Site) (rules : List Standing) : List Standing :=
  rules.map fun p => (p.1, (visit source s p).2)

mutual

/-- Walks a tree whose root has the number `id`, below the nodes `above`: first the root, then its
children with the rules as they stand below the root. -/
def walkFrom (source : Text) (rules : List Standing) (above : List Node) (id : Nat) :
    Tree → List Diagnostic
  | .node label span children =>
    let here : Node := ⟨id, .node label span children⟩
    reports source ⟨here, above⟩ rules ++
      walkAll source (below source ⟨here, above⟩ rules) (here :: above) (id + 1) children

/-- Walks neighbours, all with the rules as they stand below their parent. -/
def walkAll (source : Text) (rules : List Standing) (above : List Node) (id : Nat) :
    List Tree → List Diagnostic
  | [] => []
  | t :: ts => walkFrom source rules above id t ++ walkAll source rules above (id + t.size) ts

end

/-- Walks a tree with rules none of which is pruned. -/
def walk (source : Text) (tree : Tree) (rules : RuleSet) : List Diagnostic :=
  walkFrom source (rules.map fun c => (c, false)) [] 0 tree

end Walk

namespace Runner

open Walk

/-! ## One site -/

/-- Rules, each with what is hidden from it. -/
abbrev State := List (ConfiguredRule × Hidden)

/-- Whether one of the nodes is hidden. -/
def covers (hidden : Hidden) (above : List Node) : Bool := above.any fun n => hidden.contains n.id

theorem isHidden_eq_covers (hidden : Hidden) (s : Site) :
    isHidden hidden s = covers hidden s.above := rfl

/-- The runner reports at a site what the walk reports there, and hides the node if the walk prunes
the rule there. -/
theorem offer_eq_visit (source : Text) (s : Site) (c : ConfiguredRule) (hidden : Hidden) :
    offer source s c hidden =
      ((visit source s (c, covers hidden s.above)).1,
        if !covers hidden s.above && (visit source s (c, covers hidden s.above)).2 then
          s.node.id :: hidden
        else hidden) := by
  unfold offer
  rw [isHidden_eq_covers]
  -- Unless the rule is covered, both ask for the node, the ignore options and the check in this
  -- order.
  cases hc : covers hidden s.above with
  | true => simp [visit]
  | false =>
    cases hr : c.rule.runsOn s.tree with
    | false => simp [visit, hr]
    | true => cases hi : c.rule.ignores source s <;> simp [visit, hr, hi]

theorem mem_offer_hidden {source : Text} {s : Site} {c : ConfiguredRule} {hidden : Hidden} {n : Nat}
    (h : n ∈ (offer source s c hidden).2) : n = s.node.id ∨ n ∈ hidden := by
  rw [offer_eq_visit] at h
  simp only at h
  split at h
  · exact List.mem_cons.mp h
  · exact Or.inr h

theorem covers_cons_of_lt {id : Nat} {hidden : Hidden} {above : List Node}
    (h : ∀ n ∈ above, n.id < id) : covers (id :: hidden) above = covers hidden above := by
  unfold covers
  rw [Bool.eq_iff_iff, List.any_eq_true, List.any_eq_true]
  constructor
  · rintro ⟨n, hn, hc⟩
    have hlt := h n hn
    simp only [List.contains_cons, Bool.or_eq_true, beq_iff_eq] at hc
    rcases hc with he | hc
    · omega
    · exact ⟨n, hn, hc⟩
  · rintro ⟨n, hn, hc⟩
    exact ⟨n, hn, by rw [List.contains_cons, hc, Bool.or_true]⟩

/-- What a site hides changes nothing for the nodes above it. -/
theorem covers_offer {source : Text} {s : Site} {c : ConfiguredRule} {hidden : Hidden}
    {above : List Node}
    (h : ∀ n ∈ above, n.id < s.node.id) :
    covers (offer source s c hidden).2 above = covers hidden above := by
  rw [offer_eq_visit]
  simp only
  split
  · exact covers_cons_of_lt h
  · rfl

theorem covers_offer_below {source : Text} {s : Site} {c : ConfiguredRule} {hidden : Hidden}
    (h : ∀ n ∈ hidden, n < s.node.id) :
    covers (offer source s c hidden).2 (s.node :: s.above) =
      (visit source s (c, covers hidden s.above)).2 := by
  have hnew : s.node.id ∉ hidden := fun hc => Nat.lt_irrefl _ (h _ hc)
  have hcons : ∀ hs, covers hs (s.node :: s.above) = (hs.contains s.node.id || covers hs s.above) :=
    fun _ => rfl
  rw [offer_eq_visit, hcons]
  -- The number of the site is new, so that it is hidden only if it was added just now.
  cases hc : covers hidden s.above with
  | true => simp [visit, hc]
  | false => cases hv : (visit source s (c, false)).2 <;> simp [hnew, hc]

/-! ## All rules at a site -/

/-- The rules as they stand below the nodes `above`. -/
def standing (above : List Node) (state : State) : List Standing :=
  state.map fun p => (p.1, covers p.2 above)

/-- Everything that is hidden has a number below `id`. -/
def Fresh (id : Nat) (state : State) : Prop := ∀ p ∈ state, ∀ n ∈ p.2, n < id

theorem Fresh.mono {a b : Nat} {state : State} (h : Fresh a state) (hab : a ≤ b) : Fresh b state :=
  fun p hp n hn => Nat.lt_of_lt_of_le (h p hp n hn) hab

theorem offerAll_snd (source : Text) (s : Site) (state : State) :
    (offerAll source s state).2 = state.map fun p => (p.1, (offer source s p.1 p.2).2) := by
  induction state with
  | nil => rfl
  | cons p rest ih => simp only [offerAll, List.map_cons, ih]

theorem offerAll_fst (source : Text) (s : Site) (state : State) :
    (offerAll source s state).1 = reports source s (standing s.above state) := by
  induction state with
  | nil => rfl
  | cons p rest ih =>
    simp only [offerAll, ih]
    rw [offer_eq_visit]
    rfl

theorem fresh_offerAll {source : Text} {s : Site} {id : Nat} {state : State} (h : Fresh id state)
    (hs : s.node.id < id) : Fresh id (offerAll source s state).2 := by
  rw [offerAll_snd]
  intro p hp n hn
  obtain ⟨q, hq, rfl⟩ := List.mem_map.mp hp
  rcases mem_offer_hidden hn with rfl | hn
  · exact hs
  · exact h q hq n hn

theorem standing_offerAll {source : Text} {s : Site} {above : List Node} (state : State)
    (h : ∀ n ∈ above, n.id < s.node.id) :
    standing above (offerAll source s state).2 = standing above state := by
  rw [offerAll_snd, standing, List.map_map]
  apply List.map_congr_left
  intro p _
  simp only [Function.comp_apply, covers_offer h]

/-- Below a site that is new to the rules, they stand as the walk says. -/
theorem standing_offerAll_below {source : Text} {s : Site} {state : State}
    (h : Fresh s.node.id state) :
    standing (s.node :: s.above)
    (offerAll source s state).2 = below source s (standing s.above state) := by
  rw [offerAll_snd, standing, standing, below, List.map_map, List.map_map]
  apply List.map_congr_left
  intro p hp
  simp only [Function.comp_apply, covers_offer_below (h p hp)]

/-! ## Sites one after the other -/

/-- The rules after sites were offered. -/
def stateAfter (source : Text) : List Site → State → State
  | [], state => state
  | s :: ss, state => stateAfter source ss (offerAll source s state).2

theorem runSites_cons (source : Text) (s : Site) (ss : List Site) (state : State) :
    runSites source (s :: ss) state =
      reports source s (standing s.above state) ++
        runSites source ss (offerAll source s state).2 := by
  rw [← offerAll_fst]
  rfl

theorem runSites_append (source : Text) (first second : List Site) (state : State) :
    runSites source (first ++ second) state =
      runSites source first state ++ runSites source second (stateAfter source first state) := by
  induction first generalizing state with
  | nil => rfl
  | cons s ss ih =>
    rw [List.cons_append, runSites_cons, runSites_cons, stateAfter, ih, List.append_assoc]

theorem fresh_stateAfter {source : Text} {id : Nat} {ss : List Site} {state : State}
    (h : Fresh id state)
    (hs : ∀ s ∈ ss, s.node.id < id) : Fresh id (stateAfter source ss state) := by
  induction ss generalizing state with
  | nil => exact h
  | cons s ss ih =>
    have hhead := hs s List.mem_cons_self
    exact ih (fresh_offerAll h hhead) fun x hx => hs x (List.mem_cons_of_mem s hx)

theorem standing_stateAfter {source : Text} {above : List Node} {ss : List Site} {state : State}
    (h : ∀ s ∈ ss, ∀ n ∈ above, n.id < s.node.id) :
    standing above (stateAfter source ss state) = standing above state := by
  induction ss generalizing state with
  | nil => rfl
  | cons s ss ih =>
    have hhead := h s List.mem_cons_self
    rw [stateAfter, ih fun x hx => h x (List.mem_cons_of_mem s hx), standing_offerAll state hhead]

/-! ## Whole trees -/

mutual

/-- On the sites of a subtree the runner does what the walk does, if the nodes above the subtree and
all that is hidden have smaller numbers. -/
theorem runSites_sitesFrom (source : Text) :
    ∀ (t : Tree) {above : List Node} {id : Nat} {state : State},
    (∀ n ∈ above, n.id < id) → Fresh id state →
    runSites source (t.sitesFrom above id) state = walkFrom source (standing above state) above id t
  | .node label span children, above, id, state, habove, hfresh => by
    -- The root can only hide its own number, which is smaller than those of the children.
    have hfresh' :
        Fresh (id + 1) (offerAll source ⟨⟨id, .node label span children⟩, above⟩ state).2 :=
      fresh_offerAll (hfresh.mono (Nat.le_succ id)) (Nat.lt_succ_self id)
    rw [Tree.sitesFrom, runSites_cons, walkFrom,
      runSites_sitesOfAll source children (Tree.above_cons_lt habove) hfresh',
        ← standing_offerAll_below hfresh]

theorem runSites_sitesOfAll (source : Text) :
    ∀ (ts : List Tree) {above : List Node} {id : Nat} {state : State},
    (∀ n ∈ above, n.id < id) → Fresh id state →
    runSites source (Tree.sitesOfAll above id ts) state =
      walkAll source (standing above state) above id ts
  | [], _, _, _, _, _ => by rw [Tree.sitesOfAll, runSites, walkAll]
  | t :: ts, above, id, state, habove, hfresh => by
    -- The sites of `t` have the numbers from `id` up to `id + t.size`.
    have hfresh' : Fresh (id + t.size) (stateAfter source (t.sitesFrom above id) state) :=
      fresh_stateAfter (hfresh.mono (Nat.le_add_right id t.size)) fun s hs =>
        (Tree.sitesFrom_id_bounds hs).2
    have hstanding : standing above (stateAfter source (t.sitesFrom above id) state) =
        standing above state :=
      standing_stateAfter fun s hs n hn =>
        Nat.lt_of_lt_of_le (habove n hn) (Tree.sitesFrom_id_bounds hs).1
    have habove' : ∀ n ∈ above, n.id < id + t.size :=
      fun n hn => Nat.lt_add_right t.size (habove n hn)
    rw [Tree.sitesOfAll, runSites_append, walkAll, runSites_sitesFrom source t habove hfresh,
      runSites_sitesOfAll source ts habove' hfresh', hstanding]

end

theorem run_eq_walk (source : Text) (tree : Tree) (rules : RuleSet) :
    run source tree rules = walk source tree rules := by
  have hnone : standing [] (rules.map fun c => (c, [])) = rules.map fun c => (c, false) := by
    rw [standing, List.map_map]
    rfl
  have hfresh : Fresh 0 (rules.map fun c => (c, ([] : Hidden))) := by
    intro p hp n hn
    obtain ⟨c, _, rfl⟩ := List.mem_map.mp hp
    simp at hn
  rw [run, Tree.sites, runSites_sitesFrom source tree (by simp) hfresh, hnone, walk]

/-- The sites of a tree are a table in pre-order, and the single pass of the runner over this table
reports exactly what the pruned walk of the tree reports, in the same order. -/
theorem run_on_table_eq_walk (source : Text) (tree : Tree) (rules : RuleSet) :
    IsPreorder tree.sites ∧ run source tree rules = walk source tree rules :=
  ⟨tree.sites_isPreorder, run_eq_walk source tree rules⟩

end Runner

end PureLint
