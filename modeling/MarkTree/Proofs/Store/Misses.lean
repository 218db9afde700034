import MarkTree.Proofs.Store.Descent
import MarkTree.Proofs.Store.Placeholders
import MarkTree.Proofs.Store.Siblings

/-!
# Looking further from a placeholder

From a node that has neither children nor a parent no question leads anywhere, but for the search that
takes the node itself in (`query_of_lone`). A placeholder is such a node, of no kind. So a search for
everything, or for nodes of no kind, answers it alone, and every other question is without an answer
(`Apart.query_of_placeholder`). This is the only way to come by a placeholder through a question
(`Apart.eq_of_mem_query`).
-/

namespace MarkTree.Store

open Relation (TransGen ReflTransGen)

variable {s : Store} {n m : NodeId}

/-! ## Nodes without children and parent -/

section Childless

variable (hc : s.childList n = [])
include hc

theorem search_of_childless (hn : s.alive n) (k : Kind) :
    s.search k n = if k.accepts (s.kind n) then [n] else [] := by
  have hends : s.Ends n := by
    have hpos := lt_size_of_alive hn
    rw [Ends, ← Nat.succ_pred_eq_of_pos (Nat.zero_lt_of_lt hpos), EndsWithin, hc]
    exact fun c h => absurd h List.not_mem_nil
  rw [hends.search_eq, hc, List.flatMap_nil, List.append_nil]

theorem children_of_childless (k : Kind) : s.children k n = [] := by
  rw [children, hc, List.filter_nil]

theorem find_of_childless (k : Kind) : s.find k n = [] := by
  rw [find]
  split
  · exact children_of_childless hc .any
  · cases s.size with
    | zero => rfl
    | succ depth => rw [findTo, hc, List.flatMap_nil]

theorem query_of_lone (hn : s.alive n) (hp : s.parent? n = none) (q : Query) :
    s.query n q = match q with
      | .search k => if k.accepts (s.kind n) then [n] else []
      | _ => [] := by
  have hdetached : s.Detached n := detached_of_parent?_eq_none hp
  cases q with
  | search k => exact search_of_childless hc hn k
  | find k => exact find_of_childless hc k
  | children k => exact children_of_childless hc k
  | ancestors => exact climb_of_parent?_eq_none hp _
  | ancestorsWhile k => exact climb_of_parent?_eq_none hp _
  | siblings k =>
    rw [query, siblings, siblingsOfKind_of_parent?_eq_none hp, children_of_childless hc, List.filter_nil,
      ite_self]
  | siblingsOfKind k => exact siblingsOfKind_of_parent?_eq_none hp k
  | all side => exact hdetached.scan_eq_nil side none
  | upTo side stop => exact hdetached.scan_eq_nil side (some stop)

theorem lookup?_of_lone (hp : s.parent? n = none) (q : Lookup) : s.lookup? n q = none := by
  have hdetached : s.Detached n := detached_of_parent?_eq_none hp
  cases q with
  | firstChild k => rw [lookup?, firstChild?, hc, List.find?_nil]
  | lastChild k =>
    rw [lookup?, lastChild?, hc]
    rfl
  | nearest side => rw [lookup?, nearest?, hdetached.scan_eq_nil, List.head?_nil]

end Childless

/-! ## Placeholders -/

theorem accepts_unset_iff {k : Kind} : k.accepts .unset = true ↔ k = .any ∨ k = .unset := by
  rw [Kind.accepts, Bool.or_eq_true, beq_iff_eq, beq_iff_eq, eq_comm (a := Kind.unset)]

namespace Apart

theorem lookup?_of_placeholder (ha : s.Apart) (hp : s.isPlaceholder n = true) (q : Lookup) :
    s.lookup? n q = none :=
  lookup?_of_lone (ha.childList_eq_nil hp) (ha.parent?_eq_none hp) q

/-- A search for everything, or for what is of no kind, takes the placeholder itself in. -/
theorem query_of_placeholder (ha : s.Apart) (hb : s.Blank) (hp : s.isPlaceholder n = true) (q : Query) :
    s.query n q = if q = .search .any ∨ q = .search .unset then [n] else [] := by
  have hkind : s.kind n = .unset := congrArg Payload.kind (hb n hp)
  rw [query_of_lone (ha.childList_eq_nil hp) (alive_of_isPlaceholder hp) (ha.parent?_eq_none hp), hkind]
  cases q with
  | search k => simp only [accepts_unset_iff, Query.search.injEq]
  | _ => simp

/-- A placeholder that answers a question is the node that was asked about. -/
theorem eq_of_mem_query (ha : s.Apart) {q : Query} (h : m ∈ s.query n q) (hp : s.isPlaceholder m = true) :
    m = n := by
  rcases path_of_mem_query h with hm | hm | ⟨p, -, hm⟩
  · rcases ReflTransGen.cases_tail hm with he | ⟨p, -, hm⟩
    · exact he
    · exact absurd hm (ha.not_owns hp p).2
  · obtain ⟨p, -, hm⟩ := TransGen.tail'_iff.mp hm
    rw [(ha.ordinary_of_under hm).1] at hp
    cases hp
  · exact absurd hm (ha.not_owns hp p).2

theorem search_of_mem_query (ha : s.Apart) (hb : s.Blank) {q : Query} (h : m ∈ s.query n q)
    (hp : s.isPlaceholder m = true) : m = n ∧ (q = .search .any ∨ q = .search .unset) := by
  obtain rfl := ha.eq_of_mem_query h hp
  refine ⟨rfl, ?_⟩
  by_contra hother
  rw [ha.query_of_placeholder hb hp, if_neg hother] at h
  exact absurd h List.not_mem_nil

end Apart

end MarkTree.Store
