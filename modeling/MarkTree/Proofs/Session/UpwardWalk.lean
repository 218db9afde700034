import MarkTree.Proofs.Session.Ownership

/-!
# The way up after a run

Whatever a run does, no way up comes back to where it started: nodes may be inserted while they are
still listed elsewhere, or twice under one parent, and lists may disagree with links. So the walk
upwards ends by itself, over different nodes (`upward_walk_ends`).

The check of an insertion looks at that walk alone. It keeps the links free of loops, and for that it
has to be stricter than the lists ask for: a node that was taken out of a list keeps its link, and is
refused whatever that link leads to (`cycle_iff_on_way_up`).
-/

namespace MarkTree.Session

open Relation (TransGen ReflTransGen)
open Store (Unlisted)

/-- No way up comes back, and the walk upwards from `n`, which nothing bounds, ends with the list that
the bounded one gives: different nodes, none of them `n`. -/
theorem upward_walk_ends (sts : List Step) (n : NodeId) :
    let s := (after {} sts).store
    ¬ TransGen s.Under n n ∧
      ∀ k, (∀ l, s.Climbs k n l ↔ l = s.ancestorsWhile k n) ∧
        (s.ancestorsWhile k n).Nodup ∧ n ∉ s.ancestorsWhile k n := by
  intro s
  have hfree := (sound_after sts).store.loopFree
  refine ⟨hfree n, fun k => ⟨hfree.climbs_iff, ?_⟩⟩
  obtain ⟨hn, hnodup⟩ := List.nodup_cons.mp (hfree.nodup_cons_climb k s.size n)
  exact ⟨hnodup, hn⟩

/-! ## Refusals -/

/-- If every inserted node is listed by no node when it is inserted, an insertion of `n` under `t` is
refused as a cycle exactly if `n` is `t` or an ancestor of `t`; that is, if `t` is `n` or stands below it,
or the way up from `t` to `n` passes over a node `m` that its parent does not list any more. Taking a node
out of a list leaves its ancestors as they are, and all of them are refused. -/
theorem cycle_iff_on_way_up (sts : List Step) (h : Heeds Unlisted {} sts) :
    let s := (after {} sts).store
    (∀ t, ∀ a ∈ s.childList t, s.target? .after a = some t ∧ s.target? .before a = some t) ∧
    (∀ place on t n, s.target? place on = some t →
      s.isPlaceholder t = false → s.isPlaceholder n = false →
      (s.insert place on n = .error .cycle ↔ n = t ∨ n ∈ s.ancestors t) ∧
      (s.insert place on n = .error .cycle ↔
        n = t ∨ TransGen s.Owns n t ∨
          ∃ m q, (m = t ∨ m ∈ s.ancestors t) ∧ s.parent? m = some q ∧ m ∉ s.childList q ∧
            (n = q ∨ n ∈ s.ancestors q))) ∧
    ∀ m s', (s.remove m = .ok s' ∨ ∃ p, m ∈ s.childList p ∧ s' = s.clear p) →
      s'.ancestors m = s.ancestors m ∧
      ∀ n ∈ s.ancestors m, s.isPlaceholder m = false → s.isPlaceholder n = false →
        s'.insert .last m n = .error .cycle ∧ s'.insert .first m n = .error .cycle := by
  intro s
  have hfree := (sound_after sts).store.loopFree
  have hcoherent := coherent_after_of_unlisted h
  refine ⟨fun t a ha => hcoherent.target?_of_owns ha, ?_, ?_⟩
  · intro place on t n ht hpt hpn
    have hiff := Store.insert_eq_cycle_iff_mem_ancestors ht hpt hpn
    exact ⟨hiff, by rw [hiff, hcoherent.mem_ancestors_iff hfree]⟩
  · intro m s' hs'
    -- both ways of taking a node out change a list and no link
    obtain ⟨p, f, rfl⟩ : ∃ p f, s' = s.relist p f := by
      rcases hs' with hremove | ⟨p, -, rfl⟩
      · obtain ⟨p, i, -, rfl⟩ := Store.remove_eq_ok_iff.mp hremove
        exact ⟨p, _, rfl⟩
      · exact ⟨p, _, s.clear_eq p⟩
    have hsame : (s.relist p f).ancestors m = s.ancestors m := s.ancestorsWhile_relist p f .any m
    refine ⟨hsame, fun n hn hpm hpn => ?_⟩
    have hcycle : ∀ place, (s.relist p f).target? place m = some m →
        (s.relist p f).insert place m n = .error .cycle := by
      intro place ht
      rw [Store.insert_eq_cycle_iff_mem_ancestors ht (by simpa using hpm) (by simpa using hpn), hsame]
      exact .inr hn
    exact ⟨hcycle .last rfl, hcycle .first rfl⟩

/-- A run that takes a node out of its parent's list. -/
def detaching : List Step :=
  [.node (.create {}) (some "a"), .node (.create {}) (some "b"), .node (.create {}) (some "c"),
    .change (.insert .last "a" "b"), .change (.insert .last "b" "c"), .change (.remove "b")]

theorem cycle_iff_on_way_up_detaching :
    let s := (after {} detaching).store
    Heeds Unlisted {} detaching ∧ 2 ∈ s.childList 1 ∧
      s.isPlaceholder 2 = false ∧ s.isPlaceholder 1 = false ∧ s.isPlaceholder 0 = false ∧
      s.insert .after 2 0 = .error .cycle ∧
      (0 = 1 ∨ TransGen s.Owns 0 1 ∨
        ∃ m q, (m = 1 ∨ m ∈ s.ancestors 1) ∧ s.parent? m = some q ∧ m ∉ s.childList q ∧
          (0 = q ∨ 0 ∈ s.ancestors q)) ∧
      0 ∈ s.ancestors 2 ∧ ∃ s', s.remove 2 = .ok s' ∧ s'.insert .last 2 0 = .error .cycle := by
  intro s
  have hheeds : Heeds Unlisted {} detaching := by decide +kernel
  have hlisted : 2 ∈ s.childList 1 := by decide +kernel
  have h₂ : s.isPlaceholder 2 = false := by decide +kernel
  have h₁ : s.isPlaceholder 1 = false := by decide +kernel
  have h₀ : s.isPlaceholder 0 = false := by decide +kernel
  have hcycle : s.insert .after 2 0 = .error .cycle := rfl
  have habove : 0 ∈ s.ancestors 2 := by decide +kernel
  obtain ⟨htarget, hrefuse, htaken⟩ := cycle_iff_on_way_up detaching hheeds
  have hreason := (hrefuse .after 2 1 0 (htarget 1 2 hlisted).1 h₁ h₀).2.mp hcycle
  obtain ⟨s', hs'⟩ : ∃ s', s.remove 2 = .ok s' := ⟨_, rfl⟩
  have hlast := ((htaken 2 s' (.inl hs')).2 0 habove h₂ h₀).1
  exact ⟨hheeds, hlisted, h₂, h₁, h₀, hcycle, hreason, habove, s', hs', hlast⟩

/-- A node is refused below a node that was taken out of its list. -/
theorem detached_refuses_former_parent :
    Heeds Unlisted {} detaching ∧
      (after {} detaching).store.isPlaceholder 1 = false ∧
      (after {} detaching).store.isPlaceholder 0 = false ∧
      (after {} detaching).store.insert .last 1 0 = .error .cycle ∧
      ¬ (1 = 0 ∨ TransGen (after {} detaching).store.Owns 0 1) := by
  refine ⟨by decide +kernel, by decide +kernel, by decide +kernel, rfl, ?_⟩
  rintro (he | hpath)
  · cases he
  · obtain ⟨c, hc, -⟩ := TransGen.head'_iff.mp hpath
    have hempty : (after {} detaching).store.childList 0 = [] := by decide +kernel
    rw [Store.Owns, hempty] at hc
    exact List.not_mem_nil hc

end MarkTree.Session
