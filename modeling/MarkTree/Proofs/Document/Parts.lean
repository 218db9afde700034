import MarkTree.Proofs.Document.Image

/-!
# The parts of a document in order

A document is a list of parts, in the order in which a reader meets them, however deep they are nested.
That list tells everything that reading looks up from afar: what the document defines, and what in it no
node stands for.

* `Markup.definitions_eq_filterMap`: the definitions are collected in the order of the document.
* `Markup.not_embedded_of_pruned`: what is left of a document holds no embedded program.
* `Document.IsImage.map_face`: node by node, what the tree of a document shows.
-/

namespace MarkTree

open Markup (Target)

/-- What a part defines: a label, and where that leads. -/
def Part.definition? : Part → Option (String × Target)
  | .inl (.definition label url title) => some (label, ⟨url, title⟩)
  | _ => none

/-- A part that no node stands for. -/
def Part.Embedded (part : Part) : Prop := part = .inl .embedded ∨ part = .inr .embedded

instance (part : Part) : Decidable part.Embedded :=
  inferInstanceAs (Decidable (part = .inl .embedded ∨ part = .inr .embedded))

namespace Markup

/-- The parts of a document, in its order. -/
def parts (m : Markup) : List Part := m.tree.labels

/-- The parts of the parts of a list, one after the other. -/
def partsIn (ms : List Markup) : List Part := Rose.labelsAll (treeAll ms)

/-- The part at the top of a document. -/
def top (m : Markup) : Part := m.tree.label

theorem parts_leaf (part : Leaf) : (Markup.leaf part).parts = [.inl part] := rfl

theorem parts_node (part : Container) (inside : List Markup) :
    (Markup.node part inside).parts = .inr part :: partsIn inside := rfl

theorem partsIn_nil : partsIn [] = [] := rfl

theorem partsIn_cons (m : Markup) (rest : List Markup) :
    partsIn (m :: rest) = m.parts ++ partsIn rest := rfl

theorem partsIn_append (ms ms' : List Markup) : partsIn (ms ++ ms') = partsIn ms ++ partsIn ms' := by
  rw [partsIn, treeAll_append, Rose.labelsAll_append]
  rfl

theorem partsIn_singleton (m : Markup) : partsIn [m] = m.parts := List.append_nil _

theorem top_mem_parts (m : Markup) : m.top ∈ m.parts := by
  cases m <;> exact List.mem_cons_self

/-! ## Definitions -/

mutual

theorem definitions_eq_filterMap (m : Markup) : m.definitions = m.parts.filterMap Part.definition? := by
  cases m with
  | leaf part => cases part <;> rfl
  | node part inside =>
    have hnone : Part.definition? (.inr part) = none := rfl
    rw [definitions, definitionsIn_eq_filterMap inside, parts_node, List.filterMap_cons_none hnone]

theorem definitionsIn_eq_filterMap (ms : List Markup) :
    definitionsIn ms = (partsIn ms).filterMap Part.definition? := by
  cases ms with
  | nil => rfl
  | cons m rest =>
    rw [definitionsIn, definitions_eq_filterMap m, definitionsIn_eq_filterMap rest, partsIn_cons,
      List.filterMap_append]

end

/-! ## Embedded programs -/

theorem pruned_eq_none_iff (m : Markup) : m.pruned = none ↔ m.top.Embedded := by
  cases m with
  | leaf part =>
    rw [pruned]
    split <;> simp_all [top, tree, Rose.label, Part.Embedded]
  | node part inside =>
    rw [pruned]
    split <;> simp_all [top, tree, Rose.label, Part.Embedded]

mutual

theorem not_embedded_of_mem_pruned (m : Markup) {part : Part} (h : part ∈ partsIn m.pruned.toList) :
    ¬ part.Embedded := by
  cases m with
  | leaf own =>
    rw [pruned] at h
    split at h
    · exact absurd h List.not_mem_nil
    · rename_i hown
      rw [Option.toList_some, partsIn_singleton, parts_leaf, List.mem_singleton] at h
      subst h
      simpa [Part.Embedded] using hown
  | node own inside =>
    rw [pruned] at h
    split at h
    · exact absurd h List.not_mem_nil
    · rename_i hown
      rw [Option.toList_some, partsIn_singleton, parts_node] at h
      rcases List.mem_cons.mp h with rfl | h
      · simpa [Part.Embedded] using hown
      · exact not_embedded_of_mem_prunedIn inside h

theorem not_embedded_of_mem_prunedIn (ms : List Markup) {part : Part} (h : part ∈ partsIn (prunedIn ms)) :
    ¬ part.Embedded := by
  cases ms with
  | nil => exact absurd h List.not_mem_nil
  | cons m rest =>
    rw [prunedIn, partsIn_append] at h
    rcases List.mem_append.mp h with h | h
    · exact not_embedded_of_mem_pruned m h
    · exact not_embedded_of_mem_prunedIn rest h

end

theorem not_embedded_of_pruned {m kept : Markup} (h : m.pruned = some kept) {part : Part}
    (hpart : part ∈ kept.parts) : ¬ part.Embedded := by
  refine m.not_embedded_of_mem_pruned ?_
  rwa [h, Option.toList_some, partsIn_singleton]

end Markup

namespace Document

/-- Node by node, the tree of a document shows what its parts say. -/
theorem IsImage.map_face {s : Store} {root : NodeId} {defs : List (String × Target)} {m : Markup}
    (h : IsImage s root defs m) :
    (s.search .any root).map (fun n => some (s.payload n).face) = m.parts.map (partFace defs) := by
  have hrows := congrArg (List.map Row.label) h.rows
  rw [List.map_map, List.map_map] at hrows
  rw [← h.nodes, Markup.parts, ← Rose.map_label_rows m.tree 0 none 0, List.map_map, List.map_map]
  exact hrows

end Document

end MarkTree
