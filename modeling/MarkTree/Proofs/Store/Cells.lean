import MarkTree.Store.Change
import MarkTree.Store.Lifetime
import Mathlib.Data.List.Nodup

/-!
# Reading a changed store

What the readers of a store (`alive`, `payload`, `childList`, `under?`) answer after each of the five
ways in which a store is written: a new cell, a changed payload, a changed list of children, a changed
parent link, and a sweep. Everything else about changes is derived from these equations, so that no
later proof opens a cell.

* `link_eq`, `remove_eq`, `clear_eq`: the changes of shape in terms of `relist` and `relink`.
* `get?_sweep`: a sweep empties the cells that are neither held nor listed and touches no other.
-/

namespace MarkTree.Store

variable {s : Store} {n m p c : NodeId} {cell : Cell}

/-- The node that a node was last put under, be that one still there or not. -/
def under? (s : Store) (n : NodeId) : Option NodeId := (s.get? n).bind (·.parent)

theorem link_eq (s : Store) (target n : NodeId) (f : List NodeId → List NodeId) :
    s.link target n f = (s.relink n target).relist target f := rfl

theorem clear_eq (s : Store) (n : NodeId) : s.clear n = s.relist n fun _ => [] := rfl

/-! ## Cells that are there -/

theorem alive_iff : s.alive n ↔ ∃ cell, s.get? n = some cell := Option.isSome_iff_exists

theorem lt_size_of_alive (h : s.alive n) : n < s.size := by
  obtain ⟨cell, hc⟩ := alive_iff.mp h
  by_contra hlt
  have hnone : s.cells[n]? = none := Array.getElem?_eq_none (Nat.le_of_not_lt hlt)
  simp [get?, hnone] at hc

theorem not_alive_size (s : Store) : ¬ s.alive s.size := fun h => Nat.lt_irrefl _ (lt_size_of_alive h)

theorem not_alive_empty (n : NodeId) : ¬ alive {} n := fun h => Nat.not_lt_zero n (lt_size_of_alive h)

theorem get?_size (s : Store) : s.get? s.size = none := by
  cases h : s.get? s.size with
  | none => rfl
  | some cell => exact absurd (alive_iff.mpr ⟨cell, h⟩) s.not_alive_size

theorem get?_eq_none_of_not_alive (h : ¬ s.alive n) : s.get? n = none := by
  cases hc : s.get? n with
  | none => rfl
  | some cell => exact absurd (alive_iff.mpr ⟨cell, hc⟩) h

theorem childList_eq_nil_of_not_alive (h : ¬ s.alive n) : s.childList n = [] := by
  simp [childList, get?_eq_none_of_not_alive h]

theorem alive_of_mem_childList (h : c ∈ s.childList p) : s.alive p := by
  by_contra hp
  rw [childList_eq_nil_of_not_alive hp] at h
  exact List.not_mem_nil h

theorem parent?_eq (s : Store) (n : NodeId) : s.parent? n = (s.under? n).filter s.alive := rfl

theorem parent?_eq_some_iff : s.parent? n = some p ↔ s.under? n = some p ∧ s.alive p := by
  rw [parent?_eq, Option.filter_eq_some_iff]

/-- Parents are read off the links and the cells that are there. -/
theorem parent?_congr {s' : Store} (ha : s'.alive = s.alive) (hu : s'.under? n = s.under? n) :
    s'.parent? n = s.parent? n := by
  rw [parent?_eq, parent?_eq, ha, hu]

theorem alive_of_under? (h : s.under? n = some p) : s.alive n := by
  by_contra hn
  simp [under?, get?_eq_none_of_not_alive hn] at h

theorem under?_eq_none_of_not_alive (h : ¬ s.alive n) : s.under? n = none :=
  Option.eq_none_iff_forall_ne_some.mpr fun _ hu => h (alive_of_under? hu)

theorem alive_of_parent? (h : s.parent? n = some p) : s.alive n :=
  alive_of_under? (parent?_eq_some_iff.mp h).1

theorem parent?_alive (h : s.parent? n = some p) : s.alive p := (parent?_eq_some_iff.mp h).2

/-! ## A new cell -/

@[simp] theorem size_add (s : Store) (q : Payload) : (s.add q).2.size = s.size + 1 := by
  simp [add, size]

theorem get?_add (s : Store) (q : Payload) (n : NodeId) :
    (s.add q).2.get? n = if n = s.size then some { payload := q } else s.get? n := by
  change ((s.cells.push (some { payload := q }))[n]?).join = if n = s.cells.size then _ else (s.cells[n]?).join
  rw [Array.getElem?_push]
  split <;> rfl

theorem alive_add (q : Payload) : (s.add q).2.alive n ↔ s.alive n ∨ n = s.size := by
  rw [alive_iff, alive_iff, get?_add]
  by_cases h : n = s.size <;> simp [h]

@[simp] theorem childList_add (s : Store) (q : Payload) (n : NodeId) :
    (s.add q).2.childList n = s.childList n := by
  by_cases h : n = s.size
  · subst h
    simp [childList, get?_add, get?_size]
  · simp [childList, get?_add, h]

@[simp] theorem under?_add (s : Store) (q : Payload) (n : NodeId) :
    (s.add q).2.under? n = s.under? n := by
  by_cases h : n = s.size
  · subst h
    simp [under?, get?_add, get?_size]
  · simp [under?, get?_add, h]

/-! ## A changed cell -/

@[simp] theorem size_modify (s : Store) (m : NodeId) (f : Cell → Cell) :
    (s.modify m f).size = s.size := by
  simp [modify, size]

theorem get?_modify (s : Store) (m : NodeId) (f : Cell → Cell) (n : NodeId) :
    (s.modify m f).get? n = if m = n then (s.get? n).map f else s.get? n := by
  simp only [modify, get?, Array.getElem?_modify]
  split
  · cases s.cells[n]? with
    | none => rfl
    | some c => cases c <;> rfl
  · rfl

@[simp] theorem alive_modify (s : Store) (m : NodeId) (f : Cell → Cell) (n : NodeId) :
    (s.modify m f).alive n = s.alive n := by
  simp only [alive, get?_modify]
  split <;> simp

/-- A change that keeps what is read from a cell keeps what is read from the store. -/
theorem get?_bind_modify {α : Type} {g : Cell → Option α} {f : Cell → Cell} (hg : ∀ c, g (f c) = g c)
    (s : Store) (m n : NodeId) : ((s.modify m f).get? n).bind g = (s.get? n).bind g := by
  rw [get?_modify]
  split
  · cases s.get? n with
    | none => rfl
    | some c => exact hg c
  · rfl

/-- The same for a reader with an answer of its own for an absent cell. -/
theorem get?_elim_modify {α : Type} {a : α} {g : Cell → α} {f : Cell → Cell} (hg : ∀ c, g (f c) = g c)
    (s : Store) (m n : NodeId) : ((s.modify m f).get? n).elim a g = (s.get? n).elim a g := by
  rw [get?_modify]
  split
  · cases s.get? n with
    | none => rfl
    | some c => exact hg c
  · rfl

/-! ### Payloads -/

@[simp] theorem size_edit (s : Store) (m : NodeId) (f : Payload → Payload) :
    (s.edit m f).size = s.size := size_modify s m _

@[simp] theorem alive_edit (s : Store) (m : NodeId) (f : Payload → Payload) (n : NodeId) :
    (s.edit m f).alive n = s.alive n := alive_modify s m _ n

@[simp] theorem childList_edit (s : Store) (m : NodeId) (f : Payload → Payload) (n : NodeId) :
    (s.edit m f).childList n = s.childList n :=
  get?_elim_modify (fun c => by split <;> rfl) s m n

@[simp] theorem under?_edit (s : Store) (m : NodeId) (f : Payload → Payload) (n : NodeId) :
    (s.edit m f).under? n = s.under? n :=
  get?_bind_modify (fun c => by split <;> rfl) s m n

@[simp] theorem parent?_edit (s : Store) (m : NodeId) (f : Payload → Payload) (n : NodeId) :
    (s.edit m f).parent? n = s.parent? n :=
  parent?_congr (funext (s.alive_edit m f)) (s.under?_edit m f n)

/-! ### Lists of children -/

@[simp] theorem size_relist (s : Store) (p : NodeId) (f : List NodeId → List NodeId) :
    (s.relist p f).size = s.size := size_modify s p _

@[simp] theorem alive_relist (s : Store) (p : NodeId) (f : List NodeId → List NodeId) (n : NodeId) :
    (s.relist p f).alive n = s.alive n := alive_modify s p _ n

@[simp] theorem payload_relist (s : Store) (p : NodeId) (f : List NodeId → List NodeId) (n : NodeId) :
    (s.relist p f).payload n = s.payload n := get?_elim_modify (fun _ => by rfl) s p n

@[simp] theorem isPlaceholder_relist (s : Store) (p : NodeId) (f : List NodeId → List NodeId)
    (n : NodeId) : (s.relist p f).isPlaceholder n = s.isPlaceholder n := by
  rw [isPlaceholder, payload_relist, isPlaceholder]

@[simp] theorem under?_relist (s : Store) (p : NodeId) (f : List NodeId → List NodeId) (n : NodeId) :
    (s.relist p f).under? n = s.under? n := get?_bind_modify (fun _ => by rfl) s p n

@[simp] theorem parent?_relist (s : Store) (p : NodeId) (f : List NodeId → List NodeId)
    (n : NodeId) : (s.relist p f).parent? n = s.parent? n :=
  parent?_congr (funext (s.alive_relist p f)) (s.under?_relist p f n)

theorem childList_relist_self (h : s.alive p) (f : List NodeId → List NodeId) :
    (s.relist p f).childList p = f (s.childList p) := by
  obtain ⟨cell, hc⟩ := alive_iff.mp h
  simp [childList, relist, get?_modify, hc]

theorem childList_relist_of_ne (h : n ≠ p) (f : List NodeId → List NodeId) :
    (s.relist p f).childList n = s.childList n := by
  simp [childList, relist, get?_modify, h.symm]

/-! ### Parent links -/

@[simp] theorem size_relink (s : Store) (m t : NodeId) : (s.relink m t).size = s.size :=
  size_modify s m _

@[simp] theorem alive_relink (s : Store) (m t n : NodeId) : (s.relink m t).alive n = s.alive n :=
  alive_modify s m _ n

@[simp] theorem payload_relink (s : Store) (m t n : NodeId) :
    (s.relink m t).payload n = s.payload n := get?_elim_modify (fun _ => by rfl) s m n

@[simp] theorem childList_relink (s : Store) (m t n : NodeId) :
    (s.relink m t).childList n = s.childList n := get?_elim_modify (fun _ => by rfl) s m n

theorem under?_relink_self (h : s.alive n) (t : NodeId) : (s.relink n t).under? n = some t := by
  obtain ⟨cell, hc⟩ := alive_iff.mp h
  simp [under?, relink, get?_modify, hc]

theorem under?_relink_of_ne (h : m ≠ n) (t : NodeId) : (s.relink n t).under? m = s.under? m := by
  simp [under?, relink, get?_modify, h.symm]

/-! ### Both at once -/

@[simp] theorem size_link (s : Store) (t n : NodeId) (f : List NodeId → List NodeId) :
    (s.link t n f).size = s.size := by
  rw [link_eq, size_relist, size_relink]

@[simp] theorem alive_link (s : Store) (t n : NodeId) (f : List NodeId → List NodeId) (m : NodeId) :
    (s.link t n f).alive m = s.alive m := by
  rw [link_eq, alive_relist, alive_relink]

theorem childList_link_self {t : NodeId} (h : s.alive t) (n : NodeId)
    (f : List NodeId → List NodeId) : (s.link t n f).childList t = f (s.childList t) := by
  rw [link_eq, childList_relist_self (by simpa using h), childList_relink]

theorem childList_link_of_ne {t : NodeId} (h : m ≠ t) (n : NodeId) (f : List NodeId → List NodeId) :
    (s.link t n f).childList m = s.childList m := by
  rw [link_eq, childList_relist_of_ne h, childList_relink]

theorem under?_link_self (h : s.alive n) (t : NodeId) (f : List NodeId → List NodeId) :
    (s.link t n f).under? n = some t := by
  rw [link_eq, under?_relist, under?_relink_self h]

theorem under?_link_of_ne (h : m ≠ n) (t : NodeId) (f : List NodeId → List NodeId) :
    (s.link t n f).under? m = s.under? m := by
  rw [link_eq, under?_relist, under?_relink_of_ne h]

theorem parent?_link_self {t : NodeId} (hn : s.alive n) (ht : s.alive t)
    (f : List NodeId → List NodeId) : (s.link t n f).parent? n = some t :=
  parent?_eq_some_iff.mpr ⟨under?_link_self hn t f, by simpa using ht⟩

theorem parent?_link_of_ne (h : m ≠ n) (t : NodeId) (f : List NodeId → List NodeId) :
    (s.link t n f).parent? m = s.parent? m :=
  parent?_congr (funext (s.alive_link t n f)) (under?_link_of_ne h t f)

/-! ## A sweep -/

@[simp] theorem size_sweep (s : Store) (held : List NodeId) : (s.sweep held).size = s.size := by
  simp [sweep, size]

theorem get?_sweep (s : Store) (held : List NodeId) (n : NodeId) :
    (s.sweep held).get? n = if s.kept held n then s.get? n else none := by
  simp only [sweep, get?, Array.getElem?_mapIdx]
  cases s.cells[n]? with
  | none => simp
  | some c => by_cases h : s.kept held n <;> simp [h]

theorem alive_sweep (held : List NodeId) : (s.sweep held).alive n ↔ s.alive n ∧ s.kept held n := by
  rw [alive_iff, alive_iff, get?_sweep]
  by_cases h : s.kept held n <;> simp [h]

/-- What is left of a cell after a sweep is the whole of it. -/
theorem get?_sweep_of_alive {held : List NodeId} (h : (s.sweep held).alive n) :
    (s.sweep held).get? n = s.get? n := by
  rw [get?_sweep, if_pos (alive_sweep held |>.mp h).2]

theorem childList_sweep_of_alive {held : List NodeId} (h : (s.sweep held).alive n) :
    (s.sweep held).childList n = s.childList n := by
  rw [childList, childList, get?_sweep_of_alive h]

theorem under?_sweep_of_alive {held : List NodeId} (h : (s.sweep held).alive n) :
    (s.sweep held).under? n = s.under? n := by
  rw [under?, under?, get?_sweep_of_alive h]

theorem listed_iff : s.listed n ↔ ∃ p, n ∈ s.childList p := by
  simp only [listed, Array.any_eq_true]
  constructor
  · rintro ⟨p, hp, h⟩
    refine ⟨p, ?_⟩
    cases hc : s.cells[p] with
    | none => simp [hc] at h
    | some cell => simpa [childList, get?, hp, hc] using h
  · rintro ⟨p, h⟩
    have hp : p < s.cells.size := lt_size_of_alive (alive_of_mem_childList h)
    refine ⟨p, hp, ?_⟩
    cases hc : s.cells[p] with
    | none => simp [childList, get?, hp, hc] at h
    | some cell => simpa [childList, get?, hp, hc] using h

end MarkTree.Store
