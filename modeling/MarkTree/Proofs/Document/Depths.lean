import MarkTree.Proofs.Document.Sketch
import MarkTree.Proofs.Store.Reclaim

/-!
# Tab depths of a document that was read

A tab depth is kept with each node. It is handed down while the tree is built, when no node has a parent
yet: a part gets the depth that it is reached with, and what is inside a list item one more
(`everywhere_deepens`). In the tree that comes out, the depth of a node counts the list items on the way up
from it, as the walk upwards sees them (`tabDepth_of_read`). That stays so for as long as the root is held.
-/

namespace MarkTree

open Markup (Target)
open Relation (ReflTransGen)

/-! ## Trees that are held -/

/-- Reclaiming takes nothing from a tree whose top is held. -/
theorem Store.Holds.reclaim {s : Store} {above : Option NodeId} {n : NodeId} {t : Rose Payload}
    {held : List NodeId} (h : s.Holds above n t) (hsize : t.size ≤ s.size) (hn : n ∈ held) :
    (s.reclaim held).Holds above n t := by
  apply Store.Holds.congr t _ h
  intro m hle hlt
  have hmem : m ∈ s.search .any n := by
    rw [h.search t (h.ends hsize)]
    exact List.mem_range'_1.mpr ⟨hle, hlt⟩
  exact Store.get?_reclaim_of_reaches ⟨n, hn, Store.owns_of_mem_search hmem⟩

namespace Document

variable {defs : List (String × Target)} {lenient : Bool} {s s' : Store} {t : Rose Payload}
  {own : Payload} {depth : Nat} {root n c : NodeId}

/-- The tab depth of what stands right below a node. -/
def depthBelow (own : Payload) : Nat := own.tabDepth + if own.kind = .listItem then 1 else 0

/-! ## The depth that is handed down -/

theorem tabDepth_of_sketch {m : Markup} (h : sketch defs depth m = some t) :
    t.label.tabDepth = depth := by
  cases m with
  | leaf part =>
    obtain ⟨p, -, rfl⟩ := Option.map_eq_some_iff.mp h
    rfl
  | node part inside =>
    obtain ⟨p, -, rfl⟩ := Option.map_eq_some_iff.mp h
    rfl

theorem tabDepth_of_mem_sketchAll {ms : List Markup} (h : t ∈ sketchAll defs depth ms) :
    t.label.tabDepth = depth := by
  induction ms with
  | nil => exact absurd h List.not_mem_nil
  | cons m rest ih =>
    rw [sketchAll] at h
    rcases List.mem_append.mp h with h | h
    · exact tabDepth_of_sketch (Option.mem_toList.mp h)
    · exact ih h

/-- The trees below a node have its depth, or one more below a list item. -/
def Deepens (own : Payload) (below : List (Rose Payload)) : Prop :=
  ∀ t ∈ below, t.label.tabDepth = depthBelow own

theorem everywhere_deepens (m : Markup) {depth : Nat} {t : Rose Payload}
    (h : sketch defs depth m = some t) : t.Everywhere Deepens := by
  refine SoOfParts.everywhere ⟨fun _ _ t ht => absurd ht List.not_mem_nil, ?_⟩ m h
  intro part p depth inside _ below t ht
  rw [tabDepth_of_mem_sketchAll ht]
  simp only [depthBelow]
  split <;> rfl

/-! ## The depth that the way up shows -/

theorem tabDepth_of_owns (h : s.Holds none root t) (ht : t.Everywhere Deepens)
    (hn : ReflTransGen s.Owns root n) (hc : s.Owns n c) :
    (s.payload c).tabDepth = depthBelow (s.payload n) := by
  obtain ⟨below, hbelow, hlabels⟩ := h.everywhere t ht hn
  have hmem : s.payload c ∈ below.map Rose.label := by
    rw [← hlabels]
    exact List.mem_map_of_mem hc
  obtain ⟨t', ht', he⟩ := List.mem_map.mp hmem
  rw [← he]
  exact hbelow t' ht'

/-- Along the way down to a node its depth and the way up from it grow together. -/
theorem exists_climbs (h : s.Holds none root t) (ht : t.Everywhere Deepens) (hroot : t.label.tabDepth = 0)
    (hn : ReflTransGen s.Owns root n) : ∃ l, s.Climbs .any n l ∧
      (s.payload n).tabDepth = l.countP fun a => s.kind a = .listItem := by
  induction hn with
  | refl =>
    have htop : s.parent? root = none := by simp [Store.parent?_eq, h.under?]
    refine ⟨[], .top htop, ?_⟩
    rw [h.payload, hroot]
    rfl
  | @tail n c hn hc ih =>
    obtain ⟨l, hl, hcount⟩ := ih
    have hup : s.Under c n := h.isTree.linked hn hc
    refine ⟨n :: l, .up hup rfl hl, ?_⟩
    have hkind : (s.payload n).kind = s.kind n := rfl
    rw [tabDepth_of_owns h ht hn hc, depthBelow, hkind, hcount, List.countP_cons]
    simp only [decide_eq_true_eq]

/-- The tab depth of each node of a document that was read is the number of list items among its ancestors.
It does not count the node itself, which is none of them: the children of a list item are one deeper than the
item, and all other children as deep as their parent. This holds once the document was read, and when
everything is gone that nobody keeps, if the root is held. -/
theorem tabDepth_of_read {m : Markup} {held : List NodeId} (h : read lenient m s = .ok (root, s'))
    (hheld : root ∈ held) :
    ∀ left ∈ [s', s'.reclaim held], ∀ n ∈ left.search .any root,
      (left.payload n).tabDepth = (left.ancestors n).countP (fun a => left.kind a = .listItem) ∧
      n ∉ left.ancestors n ∧
      ∀ c ∈ left.childList n, left.parent? c = some n ∧
        (left.payload c).tabDepth =
          (left.payload n).tabDepth + if left.kind n = .listItem then 1 else 0 := by
  obtain ⟨t, ht, rfl, hadded⟩ := read_added h
  intro left hleft n hn
  have hholds : left.Holds none s.size t := by
    rcases List.mem_pair.mp hleft with rfl | rfl
    · exact hadded.holds
    · exact hadded.holds.reclaim (hadded.size ▸ Nat.le_add_left _ _) hheld
  have hpath := Store.owns_of_mem_search hn
  have hdeepens := everywhere_deepens m ht
  obtain ⟨l, hl, hcount⟩ := exists_climbs hholds hdeepens (tabDepth_of_sketch ht) hpath
  have hup : left.ancestors n = l := hl.ancestorsWhile_eq
  refine ⟨hup ▸ hcount, hup ▸ hl.notMem, fun c hc => ?_⟩
  exact ⟨hholds.isTree.linked hpath hc, tabDepth_of_owns hholds hdeepens hpath hc⟩

/-- A list with a quoted list in its item, the inner one behind an embedded program, a footnote beside. -/
def nestedMarkup : Markup :=
  .node .root [
    .node (.list false none) [.node (.listItem none) [
      .node .paragraph [.leaf (.text "a")],
      .node .embedded [.node .paragraph []],
      .node .blockQuote [.node (.list true none) [.node (.listItem none) [.leaf (.text "b")]]]]],
    .node (.footnoteDefinition "x") [.node .paragraph [.leaf .embedded, .leaf (.text "c")]]]

theorem tabDepth_of_read_nested :
    ∃ s', read true nestedMarkup {} = .ok (0, s') ∧
      (s'.reclaim [0]).search .any 0 = List.range 12 ∧
      (List.range 12).map (fun n => ((s'.reclaim [0]).payload n).tabDepth) =
        [0, 0, 0, 1, 1, 1, 1, 1, 2, 0, 0, 0] ∧
      (s'.reclaim [0]).ancestors 8 = [7, 6, 5, 2, 1, 0] ∧
      ((s'.reclaim [0]).payload 8).tabDepth =
        ((s'.reclaim [0]).ancestors 8).countP (fun a => (s'.reclaim [0]).kind a = .listItem) ∧
      ((s'.reclaim [0]).payload 8).tabDepth = ((s'.reclaim [0]).payload 7).tabDepth + 1 := by
  have htree : (read true nestedMarkup {}).map (fun r =>
      (r.1, (r.2.reclaim [0]).search .any 0, (r.2.reclaim [0]).childList 7)) =
      .ok (0, List.range 12, [8]) := by
    decide +kernel
  have hseen : (read true nestedMarkup {}).map (fun r =>
      ((List.range 12).map (fun n => ((r.2.reclaim [0]).payload n).tabDepth),
        (r.2.reclaim [0]).ancestors 8, (r.2.reclaim [0]).kind 7)) =
      .ok ([0, 0, 0, 1, 1, 1, 1, 1, 2, 0, 0, 0], [7, 6, 5, 2, 1, 0], .listItem) := by
    decide +kernel
  obtain ⟨⟨root, s'⟩, hread, htree⟩ := map_eq_ok_iff.mp htree
  rw [hread] at hseen
  obtain ⟨rfl, htree⟩ := Prod.mk.inj htree
  obtain ⟨hnodes, hbelow⟩ := Prod.mk.inj htree
  obtain ⟨hdepths, hseen⟩ := Prod.mk.inj (Except.ok.inj hseen)
  obtain ⟨hup, hitem⟩ := Prod.mk.inj hseen
  have hmem : ∀ n < 12, n ∈ (s'.reclaim [0]).search .any 0 := by
    intro n hn
    rw [hnodes]
    exact List.mem_range.mpr hn
  have hchild : 8 ∈ (s'.reclaim [0]).childList 7 := by
    rw [hbelow]
    exact List.mem_singleton.mpr rfl
  have hdepth := tabDepth_of_read hread (List.mem_singleton.mpr rfl) (s'.reclaim [0])
    (List.mem_pair.mpr (.inr rfl))
  obtain ⟨-, hdeeper⟩ := (hdepth 7 (hmem 7 (by decide))).2.2 8 hchild
  rw [if_pos hitem] at hdeeper
  exact ⟨s', hread, hnodes, hdepths, hup, (hdepth 8 (hmem 8 (by decide))).1, hdeeper⟩

end Document

end MarkTree
