import MarkTree.Proofs.Document.Sketch

/-!
# Selecting below scopes

A selection looks below every node of the scopes' kind, one after the other, and keeps the first
listing of each node that it finds. Scopes may stand below each other, and then reach the same nodes.

In a tree that loses nothing and changes no order. What an inner scope reaches, the outer one has
reached before it; and what two scopes reach of which neither stands below the other, comes in the
order of the scopes. So a selection is the search for the kind, restricted to the nodes below a scope
(`select_eq_filter`). The wildcard asks for something else, the children of the scopes
(`mem_select_any_iff`).
-/

namespace MarkTree.Store

open Relation (TransGen ReflTransGen)

variable {s : Store} {root n a c : NodeId} {k w : Kind}

/-- Whether an ancestor of `n` in the tree at `root` is accepted by `w`. -/
def within (s : Store) (w : Kind) (root n : NodeId) : Bool :=
  (s.ancestors n).any fun a => w.accepts (s.kind a) && (s.search .any root).contains a

namespace IsTree

/-! ## Ancestors in a tree -/

/-- In a tree a node stands below exactly those nodes of the tree that its way up leads to. -/
theorem owns_iff_under (ht : s.IsTree root) (hs : s.Sound) (ha : ReflTransGen s.Owns root a)
    (hn : ReflTransGen s.Owns root n) : TransGen s.Owns a n ↔ TransGen s.Under n a := by
  refine ⟨(ht.below hs ha).transGen_up, fun h => ?_⟩
  induction hn with
  | refl => exact absurd (h.trans_left (ht.path_up ha)) (hs.loopFree root)
  | @tail p n hp ho ih =>
    obtain ⟨q, hq, hqa⟩ := TransGen.head'_iff.mp h
    obtain rfl : q = p := under_unique s hq (ht.linked hp ho)
    rcases Relation.reflTransGen_iff_eq_or_transGen.mp hqa with rfl | hqa
    · exact .single ho
    · exact (ih hqa).tail ho

theorem within_iff (ht : s.IsTree root) (hs : s.Sound) (hn : ReflTransGen s.Owns root n) :
    s.within w root n = true ↔
      ∃ a, ReflTransGen s.Owns root a ∧ TransGen s.Owns a n ∧ w.accepts (s.kind a) = true := by
  simp only [within, List.any_eq_true, Bool.and_eq_true, List.contains_iff_mem,
    hs.loopFree.mem_ancestors_iff, ht.mem_search_iff hs]
  constructor
  · rintro ⟨a, hup, hw, ha, -⟩
    exact ⟨a, ha, (ht.owns_iff_under hs ha hn).mpr hup, hw⟩
  · rintro ⟨a, ha, hdown, hw⟩
    exact ⟨a, (ht.owns_iff_under hs ha hn).mp hdown, hw, ha, rfl⟩

theorem within_self (ht : s.IsTree root) (hs : s.Sound) : s.within w root root = false := by
  rw [Bool.eq_false_iff]
  intro h
  obtain ⟨a, ha, hdown, -⟩ := (ht.within_iff hs .refl).mp h
  exact ht.acyclic hs .refl (hdown.trans_right ha)

theorem within_of_accepts (ht : s.IsTree root) (hs : s.Sound) (hw : w.accepts (s.kind root) = true)
    (hn : TransGen s.Owns root n) : s.within w root n = true :=
  (ht.within_iff hs hn.to_reflTransGen).mpr ⟨root, .refl, hn, hw⟩

/-- A top that is no scope does not matter to what stands below one of its children. -/
theorem within_child (ht : s.IsTree root) (hs : s.Sound) (hw : w.accepts (s.kind root) = false)
    (hc : c ∈ s.childList root) (hn : ReflTransGen s.Owns c n) :
    s.within w root n = s.within w c n := by
  rw [Bool.eq_iff_iff, ht.within_iff hs (.head hc hn), (ht.child hs hc).within_iff hs hn]
  constructor
  · rintro ⟨a, ha, hdown, hwa⟩
    rcases Relation.ReflTransGen.cases_head ha with rfl | ⟨c', hc', ha⟩
    · rw [hw] at hwa
      cases hwa
    · -- `a` stands below the child that `n` stands below
      obtain rfl := ht.eq_of_paths hs hc hc' hn (ha.trans hdown.to_reflTransGen)
      exact ⟨a, ha, hdown, hwa⟩
  · rintro ⟨a, ha, hdown, hwa⟩
    exact ⟨a, .head hc ha, hdown, hwa⟩

/-! ## What scopes reach -/

theorem mem_scopes_iff (ht : s.IsTree root) (hs : s.Sound) (hk : k ≠ .any) :
    n ∈ (s.search w root).flatMap (s.find k) ↔
      k.accepts (s.kind n) = true ∧
        ∃ a, ReflTransGen s.Owns root a ∧ TransGen s.Owns a n ∧ w.accepts (s.kind a) = true := by
  rw [List.mem_flatMap]
  constructor
  · rintro ⟨a, ha, hn⟩
    obtain ⟨hpath, hw⟩ := (ht.mem_search_iff hs).mp ha
    obtain ⟨hdown, hkn⟩ := ((ht.below hs hpath).mem_find_iff hs hk).mp hn
    exact ⟨hkn, a, hpath, hdown, hw⟩
  · rintro ⟨hkn, a, hpath, hdown, hw⟩
    exact ⟨a, (ht.mem_search_iff hs).mpr ⟨hpath, hw⟩,
      ((ht.below hs hpath).mem_find_iff hs hk).mpr ⟨hdown, hkn⟩⟩

theorem scopes_subset_search (ht : s.IsTree root) (hs : s.Sound) (hk : k ≠ .any) :
    (s.search w root).flatMap (s.find k) ⊆ s.search k root := by
  intro n hn
  obtain ⟨hkn, a, ha, hdown, -⟩ := (ht.mem_scopes_iff hs hk).mp hn
  exact (ht.mem_search_iff hs).mpr ⟨ha.trans hdown.to_reflTransGen, hkn⟩

/-- A top that is a scope reaches everything that the scopes below it reach. -/
theorem scopes_of_accepts (ht : s.IsTree root) (hs : s.Sound) (hk : k ≠ .any)
    (hw : w.accepts (s.kind root) = true) :
    ((s.search w root).flatMap (s.find k)).eraseDups = s.find k root := by
  have hinner : ((s.childList root).flatMap (s.search w)).flatMap (s.find k) ⊆ s.find k root := by
    intro n hn
    have hn : n ∈ (s.search w root).flatMap (s.find k) := by
      rw [(ht.ends hs).search_eq, List.flatMap_append]
      exact List.mem_append_right _ hn
    obtain ⟨hkn, a, ha, hdown, -⟩ := (ht.mem_scopes_iff hs hk).mp hn
    exact (ht.mem_find_iff hs hk).mpr ⟨hdown.trans_right ha, hkn⟩
  rw [(ht.ends hs).search_eq, if_pos hw, List.flatMap_append, List.flatMap_singleton,
    eraseDups_append_of_subset hinner, eraseDups_of_nodup (ht.nodup_find hs hk)]

/-- A top that is no scope leaves it to its children, whose trees share nothing. -/
theorem scopes_of_not_accepts (ht : s.IsTree root) (hs : s.Sound) (hk : k ≠ .any)
    (hw : w.accepts (s.kind root) = false) :
    ((s.search w root).flatMap (s.find k)).eraseDups =
      (s.childList root).flatMap fun c => ((s.search w c).flatMap (s.find k)).eraseDups := by
  have hdisjoint : List.Pairwise (Function.onFun List.Disjoint fun c =>
      (s.search w c).flatMap (s.find k)) (s.childList root) := by
    refine (ht.once .refl).imp_of_mem fun {c c'} hc hc' hne n hn hn' => ?_
    have hsub := (ht.child hs hc).scopes_subset_search hs hk hn
    have hsub' := (ht.child hs hc').scopes_subset_search hs hk hn'
    exact ht.disjoint_searches hs hc hc' hne hsub hsub'
  rw [(ht.ends hs).search_eq, if_neg (by simp [hw]), List.nil_append, List.flatMap_assoc,
    eraseDups_flatMap_of_disjoint hdisjoint]

theorem filter_search_of_accepts (ht : s.IsTree root) (hs : s.Sound) (hk : k ≠ .any)
    (hw : w.accepts (s.kind root) = true) :
    (s.search k root).filter (s.within w root) = s.find k root := by
  have hself : (if s.kind root = k then [root] else []).filter (s.within w root) = [] := by
    split <;> simp [ht.within_self hs]
  have hfind : (s.find k root).filter (s.within w root) = s.find k root := by
    refine List.filter_eq_self.mpr fun n hn => ?_
    exact ht.within_of_accepts hs hw ((ht.mem_find_iff hs hk).mp hn).1
  rw [(ht.ends hs).search_eq_self_find hk, List.filter_append, hself, hfind, List.nil_append]

theorem filter_search_of_not_accepts (ht : s.IsTree root) (hs : s.Sound)
    (hw : w.accepts (s.kind root) = false) :
    (s.search k root).filter (s.within w root) =
      (s.childList root).flatMap fun c => (s.search k c).filter (s.within w c) := by
  have hself : (if k.accepts (s.kind root) = true then [root] else []).filter (s.within w root) = [] := by
    split <;> simp [ht.within_self hs]
  rw [(ht.ends hs).search_eq, List.filter_append, hself, List.nil_append, List.filter_flatMap]
  refine List.flatMap_congr fun c hc => List.filter_congr fun n hn => ?_
  exact ht.within_child hs hw hc (((ht.child hs hc).mem_search_iff hs).mp hn).1

/-- What the scopes reach, each node once, is what a search finds below scopes. -/
theorem select_eq_filter (ht : s.IsTree root) (hs : s.Sound) (hk : k ≠ .any) (w : Kind) :
    s.select k (some w) root = (s.search k root).filter (s.within w root) := by
  change ((s.search w root).flatMap (s.find k)).eraseDups = _
  refine Ends.induction (P := fun n => s.IsTree n →
    ((s.search w n).flatMap (s.find k)).eraseDups = (s.search k n).filter (s.within w n))
    (fun n _ ih ht => ?_) (ht.ends hs) ht
  cases hw : w.accepts (s.kind n) with
  | true => rw [ht.scopes_of_accepts hs hk hw, ht.filter_search_of_accepts hs hk hw]
  | false =>
    rw [ht.scopes_of_not_accepts hs hk hw, ht.filter_search_of_not_accepts hs hw]
    exact List.flatMap_congr fun c hc => ih c hc (ht.child hs hc)

theorem mem_select_any_iff (ht : s.IsTree root) (hs : s.Sound) (w : Kind) :
    n ∈ s.select .any (some w) root ↔
      n ∈ s.search .any root ∧ n ≠ root ∧ ∃ p, s.parent? n = some p ∧ w.accepts (s.kind p) = true := by
  simp only [select, List.mem_eraseDups, List.mem_flatMap, find_any, ht.mem_search_iff hs]
  constructor
  · rintro ⟨p, ⟨hp, hw⟩, ho⟩
    refine ⟨⟨hp.tail ho, rfl⟩, ?_, p, ht.linked hp ho, hw⟩
    rintro rfl
    exact ht.acyclic hs .refl (TransGen.tail' hp ho)
  · rintro ⟨⟨hn, -⟩, hne, p, hp, hw⟩
    -- the parent of a node that is not the top is the node that lists it in the tree
    rcases Relation.ReflTransGen.cases_tail hn with he | ⟨q, hq, ho⟩
    · exact absurd he hne
    · obtain rfl : p = q := under_unique s hp (ht.linked hq ho)
      exact ⟨p, ⟨hq, hw⟩, ho⟩

theorem nodup_select (ht : s.IsTree root) (hs : s.Sound) (k : Kind) (scope : Option Kind) :
    (s.select k scope root).Nodup := by
  cases scope with
  | none => exact ht.nodup_search hs k
  | some w => exact nodup_eraseDups _

end IsTree

/-- What a selection gives from a tree in a store that moves can lead to. -/
theorem select_from_tree (hs : s.Sound) (ht : s.IsTree root) (k : Kind) :
    (∀ scope, (s.select k scope root).Nodup) ∧
    (k ≠ .any → ∀ w, s.select k (some w) root = (s.search k root).filter (s.within w root)) ∧
    (k = .any → ∀ w n, n ∈ s.select k (some w) root ↔
      n ∈ s.search .any root ∧ n ≠ root ∧ ∃ p, s.parent? n = some p ∧ w.accepts (s.kind p) = true) ∧
    s.select k none root = s.search k root := by
  refine ⟨ht.nodup_select hs k, fun hk w => ht.select_eq_filter hs hk w, ?_, rfl⟩
  rintro rfl w n
  exact ht.mem_select_any_iff hs w

/-- A document with a list in a list, and with links inside and outside of it. -/
def linksMarkup : Markup :=
  let link := Markup.node .paragraph [.node (.link "u" none) [.leaf (.text "a")]]
  .node .root [
    .node (.list false none) [
      .node (.listItem none) [link, .node (.list false none) [.node (.listItem none) [link]]]],
    link]

theorem select_from_tree_links :
    ∃ s, Document.read false linksMarkup {} = .ok (0, s) ∧ s.Sound ∧ s.IsTree 0 ∧
      s.select .link (some .listItem) 0 = [4, 9] ∧
      s.select .link (some .listItem) 0 = (s.search .link 0).filter (s.within .listItem 0) ∧
      (∀ n, n ∈ s.select .any (some .listItem) 0 ↔ n ∈ s.search .any 0 ∧ n ≠ 0 ∧
        ∃ p, s.parent? n = some p ∧ Kind.listItem.accepts (s.kind p) = true) := by
  have hvalue : (Document.read false linksMarkup {}).map
      (fun r => (r.1, r.2.select .link (some .listItem) r.1)) = .ok (0, [4, 9]) := by decide +kernel
  cases hread : Document.read false linksMarkup {} with
  | error e =>
    rw [hread] at hvalue
    cases hvalue
  | ok r =>
    obtain ⟨root, s⟩ := r
    rw [hread] at hvalue
    obtain ⟨rfl, hselect⟩ := Prod.mk.inj (Except.ok.inj hvalue)
    have hmay : Document.AllowsUnlisted Unlisted := fun _ _ _ h => h
    have hs : s.Sound := (Document.read_grown hmay sound_empty hread).1.moves.sound sound_empty
    have ht : s.IsTree 0 := Document.isTree_of_read hread
    have hlink := (select_from_tree hs ht .link).2.1 (by decide) .listItem
    have hany := (select_from_tree hs ht .any).2.2.1 rfl .listItem
    exact ⟨s, rfl, hs, ht, hselect, hlink, hany⟩

end MarkTree.Store
