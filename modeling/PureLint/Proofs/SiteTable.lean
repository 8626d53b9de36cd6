import PureLint.Tree.Site

/-!
# The table of sites

`Tree.sites` lists the sites of a tree in pre-order: the number of a node is its place in the table,
the node above a site has a site of its own earlier in the table, and the sites below a node follow
it without a gap (`sites_isPreorder`). A site that is not the root is a part of the node right above
it (`isPart_of_above`).
-/

namespace PureLint

/-- Whether a site lies below another. -/
def Site.IsBelow (x s : Site) : Prop := ∃ n ∈ x.above, n.id = s.node.id

/-- A table of sites in pre-order. -/
structure IsPreorder (table : List Site) : Prop where
  /-- The number of a node is its place. -/
  numbered : table.map (·.node.id) = List.range table.length
  /-- The node above a site stands earlier, below the same nodes. -/
  parent_earlier : ∀ s ∈ table, ∀ p rest, s.above = p :: rest → p.id < s.node.id ∧ ⟨p, rest⟩ ∈ table
  /-- What lies below a node follows it without a gap. -/
  contiguous : ∀ s ∈ table, ∀ x ∈ table,
    x.IsBelow s ↔ s.node.id < x.node.id ∧ x.node.id < s.node.id + s.tree.size

namespace Tree

/-! ## Numbers -/

mutual

theorem sitesFrom_numbers (above : List Node) (id : Nat) : ∀ t : Tree,
    (sitesFrom above id t).map (·.node.id) = List.range' id t.size
  | .node label span children => by
    rw [sitesFrom, List.map_cons, sitesOfAll_numbers, size, Nat.add_comm 1, List.range'_succ]

theorem sitesOfAll_numbers (above : List Node) (id : Nat) : ∀ ts : List Tree,
    (sitesOfAll above id ts).map (·.node.id) = List.range' id (sizeAll ts)
  | [] => by rw [sitesOfAll, sizeAll, List.map_nil, List.range'_zero]
  | t :: ts => by
    rw [sitesOfAll, List.map_append, sitesFrom_numbers above id t,
      sitesOfAll_numbers above (id + t.size) ts, sizeAll, List.range'_append_1]

end

theorem sitesFrom_id_bounds {above : List Node} {id : Nat} {t : Tree} {s : Site}
    (h : s ∈ sitesFrom above id t) : id ≤ s.node.id ∧ s.node.id < id + t.size := by
  have hmem : s.node.id ∈ (sitesFrom above id t).map (·.node.id) := List.mem_map_of_mem h
  rwa [sitesFrom_numbers, List.mem_range'_1] at hmem

theorem sitesOfAll_id_bounds {above : List Node} {id : Nat} {ts : List Tree} {s : Site}
    (h : s ∈ sitesOfAll above id ts) : id ≤ s.node.id ∧ s.node.id < id + sizeAll ts := by
  have hmem : s.node.id ∈ (sitesOfAll above id ts).map (·.node.id) := List.mem_map_of_mem h
  rwa [sitesOfAll_numbers, List.mem_range'_1] at hmem

/-! ## Nodes above a site -/

theorem above_cons_lt {above : List Node} {id : Nat} {t : Tree} (h : ∀ n ∈ above, n.id < id) :
    ∀ n ∈ (⟨id, t⟩ : Node) :: above, n.id < id + 1 := by
  intro n hn
  rcases List.mem_cons.mp hn with rfl | hn
  · exact Nat.lt_succ_self id
  · exact Nat.lt_succ_of_lt (h n hn)

/-- Above a site there are first nodes with numbers from `id` on that come before it, and then the
nodes `above`. -/
def StandsUnder (above : List Node) (id : Nat) (s : Site) : Prop :=
  ∃ inner, s.above = inner ++ above ∧ ∀ n ∈ inner, id ≤ n.id ∧ n.id < s.node.id

mutual

/-- A site stands under what is above its tree, and what lies below it ends with the tree. -/
theorem sitesFrom_above {above : List Node} {id : Nat} :
    ∀ {t : Tree} {s : Site}, s ∈ sitesFrom above id t →
    StandsUnder above id s ∧ s.node.id + s.tree.size ≤ id + t.size
  | .node label span children, s, h => by
    rw [sitesFrom] at h
    rcases List.mem_cons.mp h with rfl | h
    · exact ⟨⟨[], rfl, by simp⟩, Nat.le_refl _⟩
    · obtain ⟨⟨inner, hinner, hids⟩, hend⟩ := sitesOfAll_above h
      have hlow := (sitesOfAll_id_bounds h).1
      refine ⟨⟨inner ++ [⟨id, .node label span children⟩], by rw [hinner]; simp, ?_⟩, by
        rw [size]; omega⟩
      intro n hn
      rcases List.mem_append.mp hn with hn | hn
      · have := hids n hn
        omega
      · rw [List.mem_singleton] at hn
        subst hn
        exact ⟨Nat.le_refl _, by simp only; omega⟩

theorem sitesOfAll_above {above : List Node} {id : Nat} :
    ∀ {ts : List Tree} {s : Site}, s ∈ sitesOfAll above id ts →
    StandsUnder above id s ∧ s.node.id + s.tree.size ≤ id + sizeAll ts
  | [], s, h => by simp [sitesOfAll] at h
  | t :: ts, s, h => by
    rw [sitesOfAll] at h
    rw [sizeAll]
    rcases List.mem_append.mp h with h | h
    · obtain ⟨hinner, hend⟩ := sitesFrom_above h
      exact ⟨hinner, by omega⟩
    · obtain ⟨⟨inner, hinner, hids⟩, hend⟩ := sitesOfAll_above h
      refine ⟨⟨inner, hinner, fun n hn => ?_⟩, by omega⟩
      have := hids n hn
      omega

end

mutual

theorem sitesFrom_parent {above : List Node} {id : Nat} :
    ∀ {t : Tree} {s : Site}, s ∈ sitesFrom above id t →
    s.above = above ∨
      ∃ p rest, s.above = p :: rest ∧ p.id < s.node.id ∧ ⟨p, rest⟩ ∈ sitesFrom above id t
  | .node label span children, s, h => by
    rw [sitesFrom] at h ⊢
    rcases List.mem_cons.mp h with rfl | h
    · exact Or.inl rfl
    · right
      rcases sitesOfAll_parent h with habove | ⟨p, rest, habove, hlt, hmem⟩
      · have hlow := (sitesOfAll_id_bounds h).1
        exact ⟨_, _, habove, hlow, List.mem_cons_self⟩
      · exact ⟨p, rest, habove, hlt, List.mem_cons_of_mem _ hmem⟩

theorem sitesOfAll_parent {above : List Node} {id : Nat} :
    ∀ {ts : List Tree} {s : Site}, s ∈ sitesOfAll above id ts →
    s.above = above ∨
      ∃ p rest, s.above = p :: rest ∧ p.id < s.node.id ∧ ⟨p, rest⟩ ∈ sitesOfAll above id ts
  | [], s, h => by simp [sitesOfAll] at h
  | t :: ts, s, h => by
    rw [sitesOfAll] at h ⊢
    rcases List.mem_append.mp h with h | h
    · rcases sitesFrom_parent h with habove | ⟨p, rest, habove, hlt, hmem⟩
      · exact Or.inl habove
      · exact Or.inr ⟨p, rest, habove, hlt, List.mem_append_left _ hmem⟩
    · rcases sitesOfAll_parent h with habove | ⟨p, rest, habove, hlt, hmem⟩
      · exact Or.inl habove
      · exact Or.inr ⟨p, rest, habove, hlt, List.mem_append_right _ hmem⟩

end

/-! ## Sites below a site -/

/-- A site that is below another, but not through the nodes `above`, comes after it. -/
theorem StandsUnder.lt_of_isBelow {above : List Node} {id : Nat} {s x : Site}
    (hx : StandsUnder above id x)
    (habove : ∀ n ∈ above, n.id < s.node.id) (h : x.IsBelow s) :
    id ≤ s.node.id ∧ s.node.id < x.node.id := by
  obtain ⟨inner, hinner, hids⟩ := hx
  obtain ⟨n, hn, hid⟩ := h
  rw [hinner] at hn
  rcases List.mem_append.mp hn with hn | hn
  · rw [← hid]
    exact hids n hn
  · have := habove n hn
    omega

mutual

theorem sitesFrom_isBelow_iff {above : List Node} {id : Nat} (habove : ∀ n ∈ above, n.id < id) :
    ∀ {t : Tree} {s x : Site}, s ∈ sitesFrom above id t → x ∈ sitesFrom above id t →
      (x.IsBelow s ↔ s.node.id < x.node.id ∧ x.node.id < s.node.id + s.tree.size)
  | .node label span children, s, x, hs, hx => by
    have hslow := (sitesFrom_id_bounds hs).1
    rw [sitesFrom] at hs hx
    rcases List.mem_cons.mp hx with rfl | hx
    · -- The root of the tree is below none of its sites.
      constructor
      · rintro ⟨n, hn, hid⟩
        have := habove n hn
        omega
      · rintro ⟨hlt, _⟩
        simp only at hlt
        omega
    · have hxb := sitesOfAll_id_bounds hx
      rcases List.mem_cons.mp hs with rfl | hs
      · -- All other sites of the tree are below the root.
        obtain ⟨⟨inner, hinner, _⟩, _⟩ := sitesOfAll_above hx
        constructor
        · intro _
          simp only [Site.tree, size]
          omega
        · intro _
          exact ⟨⟨id, .node label span children⟩, by rw [hinner]; simp, rfl⟩
      · exact sitesOfAll_isBelow_iff (above_cons_lt habove) hs hx

theorem sitesOfAll_isBelow_iff {above : List Node} {id : Nat} (habove : ∀ n ∈ above, n.id < id) :
    ∀ {ts : List Tree} {s x : Site}, s ∈ sitesOfAll above id ts → x ∈ sitesOfAll above id ts →
      (x.IsBelow s ↔ s.node.id < x.node.id ∧ x.node.id < s.node.id + s.tree.size)
  | [], s, x, hs, hx => by simp [sitesOfAll] at hs
  | t :: ts, s, x, hs, hx => by
    have hslow := (sitesOfAll_id_bounds hs).1
    have habove' : ∀ n ∈ above, n.id < s.node.id :=
      fun n hn => Nat.lt_of_lt_of_le (habove n hn) hslow
    rw [sitesOfAll] at hs hx
    rcases List.mem_append.mp hs with hs | hs <;> rcases List.mem_append.mp hx with hx | hx
    · exact sitesFrom_isBelow_iff habove hs hx
    · -- `x` comes after the tree that `s` is in.
      have hend := (sitesFrom_above hs).2
      have hsb := sitesFrom_id_bounds hs
      have hxb := sitesOfAll_id_bounds hx
      constructor
      · intro h
        have := (sitesOfAll_above hx).1.lt_of_isBelow habove' h
        omega
      · omega
    · -- `x` is in the tree before `s`.
      have hsb := sitesOfAll_id_bounds hs
      have hxb := sitesFrom_id_bounds hx
      constructor
      · intro h
        have := (sitesFrom_above hx).1.lt_of_isBelow habove' h
        omega
      · omega
    · exact sitesOfAll_isBelow_iff (fun n hn => Nat.lt_add_right t.size (habove n hn)) hs hx

end

theorem sites_isPreorder (t : Tree) : IsPreorder t.sites where
  numbered := by
    have hnumbers := sitesFrom_numbers [] 0 t
    have hlength : t.sites.length = t.size := by
      rw [← List.length_map, sites, hnumbers, List.length_range']
    rw [hlength, List.range_eq_range']
    exact hnumbers
  parent_earlier := by
    intro s hs p rest habove
    rcases sitesFrom_parent hs with hnil | ⟨p', rest', habove', hlt, hmem⟩
    · rw [hnil] at habove
      cases habove
    · rw [habove'] at habove
      cases habove
      exact ⟨hlt, hmem⟩
  contiguous := fun _ hs _ hx => sitesFrom_isBelow_iff (by simp) hs hx

end Tree

namespace IsPreorder

variable {table : List Site} (h : IsPreorder table) {s : Site}

include h

theorem id_of_getElem? {id : Nat} (hs : table[id]? = some s) : s.node.id = id := by
  obtain ⟨hlt, _⟩ := List.getElem?_eq_some_iff.mp hs
  have hnumber := congrArg (·[id]?) h.numbered
  simpa only [List.getElem?_map, hs, Option.map_some, List.getElem?_range hlt, Option.some.injEq]
    using hnumber

theorem getElem?_id (hs : s ∈ table) : table[s.node.id]? = some s := by
  obtain ⟨i, hi⟩ := List.mem_iff_getElem?.mp hs
  rw [h.id_of_getElem? hi, hi]

end IsPreorder

/-! ## Parts -/

/-- Whether a node is a part of another: its tree is one of the children there, and its number
follows those of the children before it. -/
def Node.IsPart (part whole : Node) : Prop :=
  ∃ before after,
    whole.tree.children = before ++ part.tree :: after ∧
      part.id = whole.id + 1 + Tree.sizeAll before

namespace Tree

mutual

theorem sitesFrom_isPart {above : List Node} {id : Nat} :
    ∀ {t : Tree} {s : Site}, s ∈ sitesFrom above id t →
    s = ⟨⟨id, t⟩, above⟩ ∨ ∃ p rest, s.above = p :: rest ∧ s.node.IsPart p
  | .node label span children, s, h => by
    rw [sitesFrom] at h
    rcases List.mem_cons.mp h with rfl | h
    · exact Or.inl rfl
    · right
      rcases sitesOfAll_isPart h with ⟨habove, before, after, hchildren, hid⟩ | hpart
      · exact ⟨_, _, habove, before, after, hchildren, hid⟩
      · exact hpart

theorem sitesOfAll_isPart {above : List Node} {id : Nat} :
    ∀ {ts : List Tree} {s : Site}, s ∈ sitesOfAll above id ts →
    (s.above = above ∧
      ∃ before after, ts = before ++ s.tree :: after ∧ s.node.id = id + sizeAll before) ∨
      ∃ p rest, s.above = p :: rest ∧ s.node.IsPart p
  | [], s, h => by simp [sitesOfAll] at h
  | t :: ts, s, h => by
    rw [sitesOfAll] at h
    rcases List.mem_append.mp h with h | h
    · rcases sitesFrom_isPart h with rfl | hpart
      · exact Or.inl ⟨rfl, [], ts, rfl, rfl⟩
      · exact Or.inr hpart
    · rcases sitesOfAll_isPart h with ⟨habove, before, after, rfl, hid⟩ | hpart
      · refine Or.inl ⟨habove, t :: before, after, rfl, ?_⟩
        rw [hid, sizeAll]
        omega
      · exact Or.inr hpart

end

variable {t : Tree} {s : Site}

theorem eq_root_of_above_eq_nil (hs : s ∈ t.sites) (h : s.above = []) : s = ⟨⟨0, t⟩, []⟩ := by
  rcases sitesFrom_isPart hs with hroot | ⟨p, rest, habove, _⟩
  · exact hroot
  · rw [habove] at h
    cases h

theorem isPart_of_above (hs : s ∈ t.sites) {p : Node} {rest : List Node}
    (habove : s.above = p :: rest) : s.node.IsPart p := by
  rcases sitesFrom_isPart hs with rfl | ⟨q, rest', habove', hpart⟩
  · cases habove
  · rw [habove'] at habove
    cases habove
    exact hpart

theorem exists_site_of_mem {above : List Node} {id : Nat} {part : Tree} {ts : List Tree}
    (h : part ∈ ts) : ∃ x ∈ sitesOfAll above id ts, x.tree = part := by
  induction ts generalizing id with
  | nil => cases h
  | cons t ts ih =>
    rw [sitesOfAll]
    rcases List.mem_cons.mp h with rfl | h
    · obtain ⟨label, span, children⟩ := part
      refine ⟨⟨⟨id, .node label span children⟩, above⟩, List.mem_append_left _ ?_, rfl⟩
      rw [sitesFrom]
      exact List.mem_cons_self
    · obtain ⟨x, hx, htree⟩ := @ih (id + t.size) h
      exact ⟨x, List.mem_append_right _ hx, htree⟩

mutual

theorem sitesFrom_part {above : List Node} {id : Nat} {part : Tree} :
    ∀ {t : Tree} {s : Site}, s ∈ sitesFrom above id t →
    part ∈ s.tree.children → ∃ x ∈ sitesFrom above id t, x.tree = part
  | .node label span children, s, hs, hpart => by
    rw [sitesFrom] at hs ⊢
    rcases List.mem_cons.mp hs with rfl | hs
    · obtain ⟨x, hx, htree⟩ := exists_site_of_mem hpart
      exact ⟨x, List.mem_cons_of_mem _ hx, htree⟩
    · obtain ⟨x, hx, htree⟩ := sitesOfAll_part hs hpart
      exact ⟨x, List.mem_cons_of_mem _ hx, htree⟩

theorem sitesOfAll_part {above : List Node} {id : Nat} {part : Tree} :
    ∀ {ts : List Tree} {s : Site},
    s ∈ sitesOfAll above id ts → part ∈ s.tree.children →
      ∃ x ∈ sitesOfAll above id ts, x.tree = part
  | [], s, hs, _ => by simp [sitesOfAll] at hs
  | t :: ts, s, hs, hpart => by
    rw [sitesOfAll] at hs ⊢
    rcases List.mem_append.mp hs with hs | hs
    · obtain ⟨x, hx, htree⟩ := sitesFrom_part hs hpart
      exact ⟨x, List.mem_append_left _ hx, htree⟩
    · obtain ⟨x, hx, htree⟩ := sitesOfAll_part hs hpart
      exact ⟨x, List.mem_append_right _ hx, htree⟩

end

theorem exists_site_of_part {part : Tree} (hs : s ∈ t.sites) (hpart : part ∈ s.tree.children) :
    ∃ x ∈ t.sites, x.tree = part :=
  sitesFrom_part hs hpart

end Tree

end PureLint
