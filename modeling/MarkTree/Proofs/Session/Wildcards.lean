import MarkTree.Proofs.Session.Placeholders
import MarkTree.Proofs.Store.Kinds
import MarkTree.Proofs.Store.Scans

/-!
# The wildcard as a bound

The bound of a walk sideways is compared with the kinds of the siblings. So the wildcard, which accepts every
node in other questions, stops a walk at a sibling that was made to be of the wildcard's kind, and there only
(`wildcard_bound_after`, `wildcard_stops_walk`).

Such a node has to be asked for: nothing that is read from a document is of that kind, a placeholder is not,
and kinds do not change. A run that asks for none leaves none (`noWildcards_after`), and in it no walk is
stopped by the wildcard.
-/

namespace MarkTree

/-- If the step is told to make a node, then none of the wildcard's kind. -/
def Step.MakesNoWildcard (st : Step) : Prop := ∀ p ∈ st.made?, p.kind ≠ .any

instance (st : Step) : Decidable st.MakesNoWildcard :=
  inferInstanceAs (Decidable (∀ p ∈ st.made?, p.kind ≠ .any))

namespace Session

variable {ses ses' : Session} {st : Step} {n : NodeId}

/-! ## Kinds of new nodes -/

theorem Sound.kind_ne_any_of_oneNode (hs : ses.Sound) {q : NodeStep} {name : Option String}
    (hq : (Step.node q name).MakesNoWildcard) {r : Option NodeId × Store} (h : ses.oneNode q = .ok r)
    (hn : ses.store.size ≤ n) : r.2.kind n ≠ .any := by
  have hold : ses.store.kind n = .unset := Store.kind_of_not_alive fun ha =>
    absurd (Store.lt_size_of_alive ha) (Nat.not_lt.mpr hn)
  rcases hs.oneNode_cases h with ⟨hstore, -⟩ | ⟨p, hp, rfl⟩ | ⟨lenient, m, root, s, hr, rfl⟩
  · rw [hstore, hold]
    exact Kind.noConfusion
  · rw [Store.kind, Store.payload_add]
    split
    · rcases hp with rfl | rfl
      · exact hq p rfl
      · exact Kind.noConfusion
    · change ses.store.kind n ≠ .any
      rw [hold]
      exact Kind.noConfusion
  · exact Document.kind_ne_any_of_read (mapError_eq_ok_iff.mp hr) hn

/-- Only a step that makes or finds one node makes any. -/
theorem size_of_perform {a : Answer} (hst : ∀ q name, st ≠ .node q name)
    (h : ses.perform st = .ok (ses', a)) : ses'.store.size = ses.store.size := by
  cases st with
  | node q name => exact absurd rfl (hst q name)
  | nodes q name =>
    obtain ⟨ns, -, h⟩ := bind_eq_ok_iff.mp h
    cases h
    rw [store_hold]
  | ask question =>
    obtain ⟨a', -, h⟩ := bind_eq_ok_iff.mp h
    cases h
    rfl
  | change c =>
    obtain ⟨s, hc, h⟩ := bind_eq_ok_iff.mp h
    cases h
    obtain ⟨c', -, happly⟩ := makeChange_eq_ok_iff.mp hc
    exact Store.size_of_apply happly
  | forget name =>
    obtain ⟨h', -, h⟩ := bind_eq_ok_iff.mp h
    cases h
    rfl

theorem Sound.noWildcards_perform (hs : ses.Sound) (hw : ses.store.NoWildcards)
    (hst : st.MakesNoWildcard) {a : Answer} (h : ses.perform st = .ok (ses', a)) :
    ses'.store.NoWildcards := by
  obtain ⟨hmoves, -⟩ : Store.Moves (fun _ _ _ => True) ses.store ses'.store ∧ _ :=
    hs.perform_moves (fun _ _ _ _ => trivial) (fun _ _ => trivial) h
  refine Store.noWildcards_of_alive fun n ha => ?_
  by_cases hn : n < ses.store.size
  · rw [hmoves.kind_eq hn ha]
    exact hw n
  · cases st with
    | node q name =>
      obtain ⟨⟨found, s⟩, hone, h⟩ := bind_eq_ok_iff.mp h
      have hkind : s.kind n ≠ .any := hs.kind_ne_any_of_oneNode hst hone (Nat.not_lt.mp hn)
      cases found with
      | none =>
        cases h
        exact hkind
      | some m =>
        cases h
        rwa [store_hold]
    | nodes | ask | change | forget =>
      refine absurd (Store.lt_size_of_alive ha) ?_
      rwa [size_of_perform (fun _ _ => Step.noConfusion) h]

/-! ## Runs -/

theorem Sound.noWildcards_step (hs : ses.Sound) (hw : ses.store.NoWildcards)
    (hst : st.MakesNoWildcard) : (ses.step st).1.store.NoWildcards := by
  unfold step
  cases h : ses.perform st with
  | error e => exact hw.reclaim _
  | ok r => exact (hs.noWildcards_perform hw hst h).reclaim _

theorem Sound.noWildcards_after (hs : ses.Sound) (hw : ses.store.NoWildcards) {sts : List Step}
    (h : ∀ st ∈ sts, st.MakesNoWildcard) : (ses.after sts).store.NoWildcards := by
  induction sts generalizing ses with
  | nil => exact hw
  | cons st rest ih =>
    obtain ⟨hst, hrest⟩ := List.forall_mem_cons.mp h
    exact ih (hs.moves_after [st]).2 (hs.noWildcards_step hw hst) hrest

/-- A run that asks for no node of the wildcard's kind leaves none. -/
theorem noWildcards_after {sts : List Step} (h : ∀ st ∈ sts, st.MakesNoWildcard) :
    (after {} sts).store.NoWildcards :=
  sound_empty.noWildcards_after Store.noWildcards_empty h

/-- With the wildcard as a bound, a walk sideways loses what it would have collected at the first sibling of
the wildcard's kind and behind it, and nothing else. So it is the whole walk just if no sibling of the node's
own kind stands there. That is so for all nodes if the run asks for no node of the wildcard's kind. -/
theorem wildcard_bound_after (sts : List Step) :
    let s := (after {} sts).store
    (∀ n side,
      let behind := (s.sideOf side n).dropWhile fun m => s.kind m ≠ .any
      s.query n (.all side) =
          s.query n (.upTo side .any) ++ behind.filter (fun m => s.kind m = s.kind n) ∧
        (s.query n (.upTo side .any) = s.query n (.all side) ↔ ∀ m ∈ behind, s.kind m ≠ s.kind n)) ∧
    ((∀ st ∈ sts, st.MakesNoWildcard) →
      ∀ n side, s.query n (.upTo side .any) = s.query n (.all side)) := by
  intro s
  refine ⟨fun n side => ⟨s.scan_none_eq_append side .any n, Store.scan_some_eq_scan_none_iff⟩, ?_⟩
  intro hmade n side
  have hkinds : s.NoWildcards := noWildcards_after hmade
  exact Store.scan_some_of_absent fun m _ => hkinds m

/-- A run that reads two paragraphs and puts a node without a kind between them. -/
def parting : List Step :=
  [.node (.read false (.node .root [.node .paragraph [], .node .paragraph []])) (some "a"),
    .node (.lookup "a" (.firstChild .any)) (some "b"), .node (.create {}) (some "c"),
    .change (.insert .after "b" "c")]

/-- A run that puts a node of the wildcard's kind behind two paragraphs, and a quote behind that. -/
def closing : List Step :=
  [.node (.create { kind := .document }) (some "a"), .node (.create { kind := .paragraph }) (some "b"),
    .node (.create { kind := .paragraph }) (some "c"), .node (.create { kind := .any }) (some "d"),
    .node (.create { kind := .blockQuote }) (some "e"), .change (.insert .last "a" "b"),
    .change (.insert .last "a" "c"), .change (.insert .last "a" "d"), .change (.insert .last "a" "e")]

theorem wildcard_bound_after_closing :
    let s := (after {} parting).store
    let s' := (after {} closing).store
    (∀ st ∈ parting, st.MakesNoWildcard) ∧ s.childList 0 = [1, 3, 2] ∧
      s.query 1 (.upTo .after .any) = s.query 1 (.all .after) ∧ s.query 1 (.all .after) = [2] ∧
      (s'.sideOf .after 1).dropWhile (fun m => s'.kind m ≠ .any) = [3, 4] ∧
      s'.query 1 (.all .after) = [2] ∧ s'.query 1 (.upTo .after .any) = s'.query 1 (.all .after) := by
  intro s s'
  have hmade : ∀ st ∈ parting, st.MakesNoWildcard := by decide +kernel
  have hbehind : (s'.sideOf .after 1).dropWhile (fun m => s'.kind m ≠ .any) = [3, 4] := by
    decide +kernel
  obtain ⟨-, hnone⟩ := wildcard_bound_after parting
  obtain ⟨hbound, -⟩ := wildcard_bound_after closing
  obtain ⟨-, hwhole⟩ := hbound 1 .after
  refine ⟨hmade, by decide +kernel, hnone hmade 1 .after, by decide +kernel, hbehind, by decide +kernel,
    hwhole.mpr ?_⟩
  rw [hbehind]
  decide +kernel

/-- A run that puts a node of the wildcard's kind between two paragraphs. -/
def barring : List Step :=
  [.node (.create { kind := .document }) (some "a"), .node (.create { kind := .paragraph }) (some "b"),
    .node (.create { kind := .any }) (some "c"), .node (.create { kind := .paragraph }) (some "d"),
    .change (.insert .last "a" "b"), .change (.insert .last "a" "c"), .change (.insert .last "a" "d")]

/-- The paragraph behind the node of the wildcard's kind is not reached with the wildcard as a bound. -/
theorem wildcard_stops_walk :
    let s := (after {} barring).store
    s.query 1 (.all .after) = [3] ∧ s.query 1 (.upTo .after .any) = [] ∧
      s.query 3 (.all .before) = [1] ∧ s.query 3 (.upTo .before .any) = [] := by
  intro s
  exact ⟨by decide +kernel, by decide +kernel, by decide +kernel, by decide +kernel⟩

end Session

end MarkTree
