import MarkTree.Proofs.Document.Parts
import MarkTree.Proofs.Store.Placeholders
import MarkTree.Proofs.Store.Refusals

/-!
# When a document is refused

Reading puts every new node but the top under the node of the part around it, and the store may refuse
that for a placeholder or for a cycle. Neither occurs. A node that is being filled was itself put under
nothing yet (`Store.Unplaced`), so that nothing stands above it, and it stays so until all the nodes below it
are there; and no part becomes a placeholder.

So embedded programs are the only reason to refuse a document: any of them, or only one at the top of it
if the reader is lenient.

* `exists_adopt_of_added`: a part that was added can be put under the node that is being filled.
* `build_error_iff`: when building the nodes of a part fails.
-/

namespace MarkTree

open Markup (Target)

namespace Store

variable {s s' : Store} {n p : NodeId}

/-- A node that was put under nothing yet, and is no placeholder. -/
structure Unplaced (s : Store) (p : NodeId) : Prop where
  lt : p < s.size
  under : s.under? p = none
  ordinary : s.isPlaceholder p = false

theorem unplaced_add (s : Store) {q : Payload} (hq : q.placeholder = false) :
    (s.add q).2.Unplaced s.size where
  lt := by
    rw [size_add]
    exact Nat.lt_succ_self _
  under := by rw [under?_add, under?_eq_none_of_not_alive s.not_alive_size]
  ordinary := by rw [isPlaceholder, payload_add, if_pos rfl, hq]

/-- A node stays unplaced while only its list changes. -/
theorem Unplaced.of_get? {f : Cell → List NodeId} (h : s.Unplaced p) (hsize : s.size ≤ s'.size)
    (hcell : s'.get? p = (s.get? p).map fun c => { c with children := f c }) : s'.Unplaced p := by
  refine ⟨Nat.lt_of_lt_of_le h.lt hsize, ?_, ?_⟩
  · rw [← h.under, under?, under?, hcell]
    cases s.get? p <;> rfl
  · rw [← h.ordinary, isPlaceholder, isPlaceholder, payload, payload, hcell]
    cases s.get? p <;> rfl

/-- Another node can be put under an unplaced one, unless it is a placeholder. -/
theorem Unplaced.append (h : s.Unplaced p) (hn : s.isPlaceholder n = false) (hne : n ≠ p) :
    s.append p n = .ok (s.link p n (· ++ [n])) := by
  have htop : s.parent? p = none := by rw [parent?_eq, h.under, Option.filter_none]
  have habove : s.ancestors p = [] := climb_of_parent?_eq_none htop s.size
  have hcheck : s.checkInsert p n = .ok () :=
    checkInsert_eq_ok_iff.mpr ⟨⟨h.ordinary, hn⟩, hne, by rw [habove]; exact List.not_mem_nil⟩
  rw [Store.append, hcheck]
  rfl

end Store

namespace Document

variable {defs : List (String × Target)} {m : Markup} {s s' s₁ : Store} {t : Rose Payload} {depth : Nat}

/-! ## Every part finds its place -/

theorem Added.unplaced {p : Nat} (h : Added t s s') (hp : s.Unplaced p) : s'.Unplaced p := by
  refine hp.of_get? (f := Cell.children) (h.size ▸ Nat.le_add_right _ _) ?_
  rw [h.kept p hp.lt]
  exact Option.map_id'.symm

theorem AddedBelow.unplaced {p : Nat} {ts : List (Rose Payload)} (h : AddedBelow p ts s s')
    (hp : s.Unplaced p) : s'.Unplaced p :=
  hp.of_get? (h.size ▸ Nat.le_add_right _ _) h.parent

theorem placeholder_of_sketch (h : sketch defs depth m = some t) : t.label.placeholder = false := by
  cases m with
  | leaf part =>
    obtain ⟨p, hp, rfl⟩ := Option.map_eq_some_iff.mp h
    exact (placeholder_of_leafPayload hp :)
  | node part inside =>
    obtain ⟨p, hp, rfl⟩ := Option.map_eq_some_iff.mp h
    exact (placeholder_of_containerPayload hp :)

/-- A part that was added can be put under an unplaced node. -/
theorem exists_adopt_of_added {p : Nat} (h : Added t s s₁) (ht : t.label.placeholder = false)
    (hp : s.Unplaced p) :
    ∃ s₂, adopt s₁ p s.size = .ok s₂ ∧ AddedBelow p [t] s s₂ ∧ s₂.Unplaced p := by
  have hordinary : s₁.isPlaceholder s.size = false := by rw [Store.isPlaceholder, h.holds.payload, ht]
  have hadopt : adopt s₁ p s.size = .ok (s₁.link p s.size (· ++ [s.size])) :=
    mapError_eq_ok_iff.mpr ((h.unplaced hp).append hordinary (Nat.ne_of_gt hp.lt))
  have hbelow := h.adopt hp.lt hadopt
  exact ⟨_, hadopt, hbelow, hbelow.unplaced hp⟩

/-! ## Embedded programs -/

theorem leafPayload_eq_none_iff {part : Leaf} :
    leafPayload defs part = none ↔ Part.Embedded (.inl part) := by
  cases part <;> simp [leafPayload, Part.Embedded]

theorem containerPayload_eq_none_iff {part : Container} :
    containerPayload defs part = none ↔ Part.Embedded (.inr part) := by
  cases part <;> simp [containerPayload, Part.Embedded]

theorem sketch_eq_none_iff : sketch defs depth m = none ↔ m.top.Embedded := by
  rw [← m.pruned_eq_none_iff, ← Option.map_eq_none_iff, sketch_face, Option.map_eq_none_iff]

mutual

/-- A part cannot be built if an embedded program stands anywhere in it, and only then. -/
theorem build_error_iff (m : Markup) (depth : Nat) (s : Store) {e : ReadError} :
    build defs false depth m s = .error e ↔
      (∃ part ∈ m.parts, part.Embedded) ∧ e = .unsupported "mdx" := by
  cases m with
  | leaf part =>
    rw [build, Markup.parts_leaf]
    cases hp : leafPayload defs part with
    | none =>
      have hpart := leafPayload_eq_none_iff.mp hp
      simp [embedded, hpart, eq_comm]
    | some p =>
      have hpart : ¬ Part.Embedded (.inl part) := fun hpart => by
        cases hp.symm.trans (leafPayload_eq_none_iff.mpr hpart)
      simp [hpart]
  | node part inside =>
    rw [build, Markup.parts_node, List.exists_mem_cons_iff]
    cases hp : containerPayload defs part with
    | none =>
      have hpart := containerPayload_eq_none_iff.mp hp
      simp [embedded, hpart, eq_comm]
    | some p =>
      have hpart : ¬ Part.Embedded (.inr part) := fun hpart => by
        cases hp.symm.trans (containerPayload_eq_none_iff.mpr hpart)
      have hnew := Store.unplaced_add s (q := { p with tabDepth := depth })
        (placeholder_of_containerPayload hp :)
      -- when the parts inside are built, only the text is left to write
      rw [or_iff_right hpart]
      refine bind_eq_error_iff.trans ((or_iff_left ?_).trans (buildAll_error_iff inside _ hnew))
      rintro ⟨_, -, hwritten⟩
      cases hwritten

theorem buildAll_error_iff (ms : List Markup) (depth : Nat) {parent : NodeId} {text : String} {s : Store}
    {e : ReadError} (hp : s.Unplaced parent) :
    buildAll defs false depth parent text ms s = .error e ↔
      (∃ part ∈ Markup.partsIn ms, part.Embedded) ∧ e = .unsupported "mdx" := by
  cases ms with
  | nil => simp [buildAll, Markup.partsIn_nil]
  | cons m rest =>
    have hparts : (∃ part ∈ Markup.partsIn (m :: rest), part.Embedded) ↔
        (∃ part ∈ m.parts, part.Embedded) ∨ ∃ part ∈ Markup.partsIn rest, part.Embedded := by
      simp only [Markup.partsIn_cons, List.mem_append, or_and_right, exists_or]
    rw [buildAll, hparts]
    cases hm : build defs false depth m s with
    | error e' =>
      obtain ⟨hpart, rfl⟩ := (build_error_iff m depth s).mp hm
      simp [bind, Except.bind, hpart, eq_comm]
    | ok r =>
      have hclean : ¬ ∃ part ∈ m.parts, part.Embedded := fun hpart => by
        rw [(build_error_iff m depth s).mpr ⟨hpart, rfl⟩] at hm
        cases hm
      have hbuilt := build_added m hm
      cases hsketch : sketch defs depth m with
      | none => exact absurd ⟨_, m.top_mem_parts, sketch_eq_none_iff.mp hsketch⟩ hclean
      | some t =>
        rw [hsketch] at hbuilt
        obtain ⟨hchild, hadded⟩ := hbuilt
        obtain ⟨child, s₁⟩ := r
        cases hchild
        obtain ⟨s₂, hadopt, -, hstill⟩ :=
          exists_adopt_of_added hadded (placeholder_of_sketch hsketch) hp
        rw [or_iff_right hclean]
        change (adopt s₁ parent s.size >>= _) = _ ↔ _
        rw [hadopt]
        exact buildAll_error_iff rest depth hstill

end

/-! ## Reading fails -/

/-- Reading fails with what building fails with, and where there is no node for the top. -/
theorem read_eq_error_iff {lenient : Bool} {e : ReadError} :
    read lenient m s = .error e ↔
      build m.definitions lenient 0 m s = .error e ∨
        (∃ s', build m.definitions lenient 0 m s = .ok (none, s')) ∧ e = .unsupported "document root" := by
  rw [read, bind_eq_error_iff]
  refine or_congr Iff.rfl ⟨?_, ?_⟩
  · rintro ⟨⟨top, s'⟩, hbuild, he⟩
    cases top with
    | none => exact ⟨⟨s', hbuild⟩, (Except.error.inj he).symm⟩
    | some n => cases he
  · rintro ⟨⟨s', hbuild⟩, rfl⟩
    exact ⟨_, hbuild, rfl⟩

/-- A strict reader leaves nothing out, so that the top never goes without a node. -/
theorem build_ne_ok_none : build defs false depth m s ≠ .ok (none, s') := by
  intro h
  have hbuilt := build_added m h
  cases hsketch : sketch defs depth m with
  | none =>
    have htop := sketch_eq_none_iff.mp hsketch
    rw [(build_error_iff m depth s).mpr ⟨⟨_, m.top_mem_parts, htop⟩, rfl⟩] at h
    cases h
  | some t =>
    rw [hsketch] at hbuilt
    cases hbuilt.1

theorem read_strict_error_iff {e : ReadError} :
    read false m s = .error e ↔ (∃ part ∈ m.parts, part.Embedded) ∧ e = .unsupported "mdx" := by
  rw [read_eq_error_iff, build_error_iff, or_iff_left]
  rintro ⟨⟨s', h⟩, -⟩
  exact build_ne_ok_none h

theorem read_lenient_error_iff {e : ReadError} :
    read true m s = .error e ↔ m.top.Embedded ∧ e = .unsupported "document root" := by
  rw [read_eq_error_iff, build_lenient, ← m.pruned_eq_none_iff]
  cases hkept : m.pruned with
  | none => simp
  | some kept =>
    -- nothing embedded is left, and what is left is read strictly
    have hclean : ¬ ∃ part ∈ kept.parts, part.Embedded := fun ⟨_, hpart, he⟩ =>
      Markup.not_embedded_of_pruned hkept hpart he
    simp [build_error_iff, hclean, build_ne_ok_none]

/-- A strict reader refuses a document if and only if an embedded program stands anywhere in it; a lenient one,
if and only if one stands at its top. Each has one reason to give. That a node cannot be put in its place, which
is the reason if an insertion is refused, is never given: every insertion is accepted. -/
theorem read_error_iff (m : Markup) (s : Store) :
    (∀ e, read false m s = .error e ↔
      (∃ part ∈ m.parts, part.Embedded) ∧ e = .unsupported "mdx") ∧
    (∀ e, read true m s = .error e ↔ m.top.Embedded ∧ e = .unsupported "document root") ∧
    ∀ lenient cause, read lenient m s ≠ .error (.tree cause) := by
  refine ⟨fun e => read_strict_error_iff, fun e => read_lenient_error_iff, fun lenient cause h => ?_⟩
  cases lenient with
  | false => cases (read_strict_error_iff.mp h).2
  | true => cases (read_lenient_error_iff.mp h).2

/-- A document with an embedded element around another one, and an expression in a list item. -/
def programMarkup : Markup :=
  .node .root [
    .node .embedded [.node .paragraph [.node .embedded [.leaf (.text "a")]]],
    .node (.list true none) [.node (.listItem none) [.node .paragraph [.leaf .embedded]]]]

theorem read_error_iff_program :
    read false programMarkup {} = .error (.unsupported "mdx") ∧
    (∀ e, read true programMarkup {} ≠ .error e) ∧
    read true (.node .embedded [programMarkup]) {} = .error (.unsupported "document root") := by
  have hinside : ∃ part ∈ programMarkup.parts, part.Embedded := by decide +kernel
  refine ⟨((read_error_iff _ _).1 _).mpr ⟨hinside, rfl⟩, fun e h => ?_,
    ((read_error_iff _ _).2.1 _).mpr ⟨.inr rfl, rfl⟩⟩
  exact absurd (((read_error_iff _ _).2.1 _).mp h).1 (by decide +kernel)

end Document

end MarkTree
