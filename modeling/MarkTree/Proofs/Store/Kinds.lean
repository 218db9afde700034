import MarkTree.Proofs.Store.Placeholders

/-!
# Kinds

A node has its kind from when it is made, and keeps it: nothing that can be written is a kind
(`Moves.kind_eq`). The wildcard is a test of lookups, but a node may be made to be of that kind as well.
Reading a document never does so (`Document.kind_ne_any_of_read`).
-/

namespace MarkTree

namespace Store

variable {s s' : Store} {n : NodeId} {may : Store → NodeId → NodeId → Prop}

/-- No node is of the wildcard's kind. -/
def NoWildcards (s : Store) : Prop := ∀ n, s.kind n ≠ .any

theorem kind_of_not_alive (h : ¬ s.alive n) : s.kind n = .unset := by
  rw [kind, payload, get?_eq_none_of_not_alive h]
  rfl

theorem kind_apply (what : PayloadWrite) (q : Payload) : (what.apply q).kind = q.kind := by
  cases what <;> rfl

/-- A node that stays is of the kind that it was of. -/
theorem Moves.kind_eq (h : Moves may s s') (hn : n < s.size) (ha : s'.alive n) :
    s'.kind n = s.kind n := h.read_eq kind_apply hn ha

theorem noWildcards_empty : NoWildcards {} := fun n h => by
  rw [kind_of_not_alive (not_alive_empty n)] at h
  cases h

/-- Only the nodes that are there have to be looked at. -/
theorem noWildcards_of_alive (h : ∀ n, s.alive n → s.kind n ≠ .any) : s.NoWildcards := fun n hn => by
  by_cases ha : s.alive n
  · exact h n ha hn
  · rw [kind_of_not_alive ha] at hn
    cases hn

theorem NoWildcards.reclaim (h : s.NoWildcards) (held : List NodeId) : (s.reclaim held).NoWildcards :=
  noWildcards_of_alive fun n ha => by
    rw [kind, payload_reclaim_of_alive ha]
    exact h n

end Store

/-! ## Reading a document -/

namespace Document

open Markup (Target)

variable {defs : List (String × Target)} {lenient : Bool} {s s' : Store} {p : Payload} {n root : NodeId}

theorem kind_ne_any_of_leafPayload {part : Leaf} (h : leafPayload defs part = some p) :
    p.kind ≠ .any := by
  cases part <;> cases h <;> exact Kind.noConfusion

theorem kind_ne_any_of_containerPayload {part : Container} (h : containerPayload defs part = some p) :
    p.kind ≠ .any := by
  cases part with
  | list ordered start => cases ordered <;> cases h <;> exact Kind.noConfusion
  | embedded => cases h
  | _ =>
    cases h
    exact Kind.noConfusion

/-- Reading a document makes no node of the wildcard's kind. -/
theorem kind_ne_any_of_read {m : Markup} (h : read lenient m s = .ok (root, s')) (hn : s.size ≤ n) :
    s'.kind n ≠ .any := by
  obtain ⟨t, ht, rfl, hadded⟩ := read_added h
  have hkinds : t.Everywhere fun own _ => own.kind ≠ .any :=
    SoOfParts.everywhere ⟨fun _ hp => kind_ne_any_of_leafPayload hp,
      fun _ _ hp => kind_ne_any_of_containerPayload hp⟩ m ht
  by_cases ha : s'.alive n
  · -- the new nodes are those of the tree
    have hmem : n ∈ s'.search .any s.size := by
      rw [hadded.holds.search t hadded.ends]
      exact List.mem_range'_1.mpr ⟨hn, hadded.size ▸ Store.lt_size_of_alive ha⟩
    obtain ⟨-, hkind, -⟩ := hadded.holds.everywhere t hkinds (Store.owns_of_mem_search hmem)
    exact hkind
  · rw [Store.kind_of_not_alive ha]
    exact Kind.noConfusion

end Document

end MarkTree
