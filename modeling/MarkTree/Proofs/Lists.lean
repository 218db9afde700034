import Mathlib.Data.List.Chain
import Mathlib.Data.List.Nodup
import Mathlib.Data.List.Perm.Subperm
import Mathlib.Logic.Function.Iterate

/-!
# Lists

What is used of lists here and there and speaks of nothing else.
-/

namespace MarkTree

/-! ## Places in a list -/

theorem insertIdx_length_append {α : Type} (front back : List α) (a : α) (k : Nat) :
    (front ++ back).insertIdx (front.length + k) a = front ++ back.insertIdx k a := by
  induction front with
  | nil => rw [List.nil_append, List.length_nil, Nat.zero_add, List.nil_append]
  | cons b rest ih =>
    rw [List.length_cons, Nat.succ_add, List.cons_append, List.insertIdx_succ_cons, ih,
      List.cons_append]

theorem eraseIdx_length_append {α : Type} (front back : List α) (a : α) :
    (front ++ a :: back).eraseIdx front.length = front ++ back := by
  rw [List.eraseIdx_append_of_length_le (Nat.le_refl _), Nat.sub_self, List.eraseIdx_cons_zero]

/-- A list without repetitions is split at an element in one way. -/
theorem split_unique {α : Type} {front back front' back' : List α} {a : α}
    (hnodup : (front ++ a :: back).Nodup) (h : front ++ a :: back = front' ++ a :: back') :
    front = front' ∧ back = back' := by
  obtain ⟨hfront, hback⟩ : a ∉ front ∧ a ∉ back := by
    rw [List.nodup_append, List.nodup_cons] at hnodup
    obtain ⟨-, ⟨hback, -⟩, hdisjoint⟩ := hnodup
    exact ⟨fun ha => hdisjoint a ha a List.mem_cons_self rfl, hback⟩
  obtain ⟨hf, -, hb⟩ := (List.append_cons_inj_of_notMem hfront hback).mp h
  exact ⟨hf, hb⟩

/-- Where a list of lists joined shows an element, one of the lists shows it, and goes on from there. -/
theorem exists_drop_flatMap {α β : Type} {f : α → List β} {l : List α} {i : Nat} {b : β}
    (h : (l.flatMap f)[i]? = some b) :
    ∃ a ∈ l, ∃ j, (f a)[j]? = some b ∧ (f a).drop j <+: (l.flatMap f).drop i := by
  induction l generalizing i with
  | nil => cases h
  | cons a rest ih =>
    rw [List.flatMap_cons] at h ⊢
    by_cases hi : i < (f a).length
    · rw [List.getElem?_append_left hi] at h
      refine ⟨a, List.mem_cons_self, i, h, ?_⟩
      rw [List.drop_append_of_le_length (Nat.le_of_lt hi)]
      exact List.prefix_append _ _
    · have hle : (f a).length ≤ i := Nat.not_lt.mp hi
      rw [List.getElem?_append_right hle] at h
      obtain ⟨a', ha', j, hj, hdrop⟩ := ih h
      refine ⟨a', List.mem_cons_of_mem a ha', j, hj, ?_⟩
      rwa [List.drop_append, List.drop_eq_nil_of_le hle, List.nil_append]

/-- The first element with a key is the only one, if no two have the same key. -/
theorem find?_eq_of_nodup_filterMap {α β : Type} [BEq β] [LawfulBEq β] {f : α → Option β} {l : List α}
    (h : (l.filterMap f).Nodup) {a : α} {b : β} (ha : a ∈ l) (hb : f a = some b) :
    l.find? (f · == some b) = some a := by
  induction l with
  | nil => exact absurd ha List.not_mem_nil
  | cons c rest ih =>
    rcases List.mem_cons.mp ha with rfl | ha
    · rw [List.find?_cons_of_pos (by simp [hb])]
    · have hmem : b ∈ rest.filterMap f := List.mem_filterMap.mpr ⟨a, ha, hb⟩
      cases hc : f c with
      | none =>
        rw [List.filterMap_cons_none hc] at h
        rw [List.find?_cons_of_neg (by simp [hc]), ih h ha]
      | some b' =>
        rw [List.filterMap_cons_some hc, List.nodup_cons] at h
        have hne : b' ≠ b := by
          rintro rfl
          exact h.1 hmem
        rw [List.find?_cons_of_neg (by simp [hc, hne]), ih h.2 ha]

/-- Different numbers below a bound are no more than the bound. -/
theorem length_le_of_nodup_lt {l : List Nat} {k : Nat} (hl : l.Nodup) (hk : ∀ n ∈ l, n < k) :
    l.length ≤ k := by
  have hsub : l ⊆ List.range k := fun n hn => List.mem_range.mpr (hk n hn)
  simpa using (List.subperm_of_subset hl hsub).length_le

/-- Step by step from the head of a chain one comes through the list, and not further. -/
theorem iterate_bind_head? {α : Type} {f : α → Option α} {l : List α}
    (hchain : l.IsChain fun a b => f a = some b) (hend : ∀ a, l.getLast? = some a → f a = none) (i : Nat) :
    (fun found => found.bind f)^[i] l.head? = l[i]? := by
  induction l generalizing i with
  | nil => exact Function.iterate_fixed (by rfl) i
  | cons a rest ih =>
    cases i with
    | zero => rfl
    | succ i =>
      have hnext : f a = rest.head? := by
        cases rest with
        | nil => exact hend a rfl
        | cons b _ => exact (List.isChain_cons_cons.mp hchain).1
      have hrest : ∀ c, rest.getLast? = some c → f c = none := fun c hc =>
        hend c (by rw [List.getLast?_cons, hc, Option.getD_some])
      rw [Function.iterate_succ_apply, List.getElem?_cons_succ, ← ih hchain.of_cons hrest, ← hnext]
      rfl

/-! ## Keeping first listings -/

section Duplicates

variable {α β : Type} [BEq α] [LawfulBEq α]

theorem nodup_eraseDups (l : List α) : l.eraseDups.Nodup := by
  suffices H : ∀ k, ∀ l : List α, l.length ≤ k → l.eraseDups.Nodup from H _ l (Nat.le_refl _)
  intro k
  induction k with
  | zero =>
    intro l hl
    rw [List.length_eq_zero_iff.mp (Nat.le_zero.mp hl), List.eraseDups_nil]
    exact .nil
  | succ k ih =>
    intro l hl
    cases l with
    | nil => exact .nil
    | cons a rest =>
      have hlen := List.length_filter_le (fun b => !b == a) rest
      rw [List.length_cons] at hl
      rw [List.eraseDups_cons]
      refine List.nodup_cons.mpr ⟨?_, ih _ (by omega)⟩
      simp [List.mem_eraseDups]

theorem eraseDups_of_nodup {l : List α} (h : l.Nodup) : l.eraseDups = l := by
  induction l with
  | nil => rfl
  | cons a rest ih =>
    obtain ⟨ha, hrest⟩ := List.nodup_cons.mp h
    have hfilter : rest.filter (fun b => !b == a) = rest := by
      refine List.filter_eq_self.mpr fun b hb => ?_
      have hne : b ≠ a := fun he => ha (he ▸ hb)
      simp [hne]
    rw [List.eraseDups_cons, hfilter, ih hrest]

/-- Listings of what was listed before add nothing. -/
theorem eraseDups_append_of_subset {l l' : List α} (h : l' ⊆ l) :
    (l ++ l').eraseDups = l.eraseDups := by
  have hnone : l'.removeAll l = [] := by
    rw [List.removeAll, List.filter_eq_nil_iff]
    intro a ha
    simpa using h ha
  rw [List.eraseDups_append, hnone, List.eraseDups_nil, List.append_nil]

theorem eraseDups_append_of_disjoint {l l' : List α} (h : l.Disjoint l') :
    (l ++ l').eraseDups = l.eraseDups ++ l'.eraseDups := by
  have hall : l'.removeAll l = l' := by
    rw [List.removeAll, List.filter_eq_self]
    intro a ha
    simpa using fun ha' => h ha' ha
  rw [List.eraseDups_append, hall]

theorem eraseDups_flatMap_of_disjoint {l : List β} {f : β → List α}
    (h : l.Pairwise (Function.onFun List.Disjoint f)) :
    (l.flatMap f).eraseDups = l.flatMap fun b => (f b).eraseDups := by
  induction l with
  | nil => rfl
  | cons b rest ih =>
    obtain ⟨hb, hrest⟩ := List.pairwise_cons.mp h
    have hdisjoint : (f b).Disjoint (rest.flatMap f) := by
      intro a ha ha'
      obtain ⟨b', hb', ha'⟩ := List.mem_flatMap.mp ha'
      exact hb b' hb' ha ha'
    rw [List.flatMap_cons, eraseDups_append_of_disjoint hdisjoint, ih hrest, List.flatMap_cons]

end Duplicates

end MarkTree
