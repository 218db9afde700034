import MarkTree.Proofs.Rose
import Mathlib.Data.List.TakeWhile

/-!
# Trees read off their levels

The labels of trees in the order of a document, each with its level, give the trees back. What stands below
a label are the rows behind it up to the first that is no deeper, and the trees next to it begin there
(`Rose.ofLeveled_leveledAll`). So several trees, too, are known from one list of rows.
-/

namespace MarkTree.Rose

variable {α : Type} {level : Nat} {q : Nat × α}

mutual

/-- The labels of a tree in the order of a document, each with its level. -/
def leveled (level : Nat) : Rose α → List (Nat × α)
  | .node a below => (level, a) :: leveledAll (level + 1) below

/-- The same for trees next to each other. -/
def leveledAll (level : Nat) : List (Rose α) → List (Nat × α)
  | [] => []
  | t :: rest => leveled level t ++ leveledAll level rest

end

/-- Reads trees off their labels and levels. -/
def ofLeveled : List (Nat × α) → List (Rose α)
  | [] => []
  | (level, a) :: rest =>
    .node a (ofLeveled (rest.takeWhile (level < ·.1))) :: ofLeveled (rest.dropWhile (level < ·.1))
termination_by rows => rows.length
decreasing_by
  · exact Nat.lt_succ_of_le (List.takeWhile_sublist _).length_le
  · exact Nat.lt_succ_of_le (List.dropWhile_sublist _).length_le

theorem leveledAll_eq_flatMap (ts : List (Rose α)) (level : Nat) :
    leveledAll level ts = ts.flatMap (leveled level) := by
  induction ts with
  | nil => rfl
  | cons t rest ih => rw [leveledAll, ih, List.flatMap_cons]

mutual

/-- No row of a tree is less deep than its top. -/
theorem le_level_of_mem_leveled (t : Rose α) {level : Nat} (h : q ∈ t.leveled level) :
    level ≤ q.1 := by
  cases t with
  | node a below =>
    rcases List.mem_cons.mp h with rfl | h
    · exact Nat.le_refl _
    · exact Nat.le_of_succ_le (le_level_of_mem_leveledAll below h)

theorem le_level_of_mem_leveledAll (ts : List (Rose α)) {level : Nat}
    (h : q ∈ leveledAll level ts) : level ≤ q.1 := by
  cases ts with
  | nil => exact absurd h List.not_mem_nil
  | cons t rest =>
    rcases List.mem_append.mp h with h | h
    · exact le_level_of_mem_leveled t h
    · exact le_level_of_mem_leveledAll rest h

end

/-- The rows of trees on a level begin on that level, so nothing of them is skipped as deeper. -/
theorem dropWhile_leveledAll (ts : List (Rose α)) (level : Nat) :
    (leveledAll level ts).dropWhile (level < ·.1) = leveledAll level ts := by
  cases ts with
  | nil => rfl
  | cons t rest =>
    cases t with
    | node a below =>
      rw [leveledAll, leveled, List.cons_append]
      exact List.dropWhile_cons_of_neg (by simp)

theorem takeWhile_leveledAll (ts : List (Rose α)) (level : Nat) :
    (leveledAll level ts).takeWhile (level < ·.1) = [] := by
  cases ts with
  | nil => rfl
  | cons t rest =>
    cases t with
    | node a below =>
      rw [leveledAll, leveled, List.cons_append]
      exact List.takeWhile_cons_of_neg (by simp)

/-- Trees are read off their rows. -/
theorem ofLeveled_leveledAll (ts : List (Rose α)) (level : Nat) :
    ofLeveled (leveledAll level ts) = ts := by
  match ts with
  | [] => rw [leveledAll, ofLeveled]
  | .node a below :: rest =>
    have hdeeper : ∀ q ∈ leveledAll (level + 1) below, decide (level < q.1) = true :=
      fun q hq => decide_eq_true (le_level_of_mem_leveledAll below hq)
    have htake : (leveledAll (level + 1) below ++ leveledAll level rest).takeWhile (level < ·.1) =
        leveledAll (level + 1) below := by
      rw [List.takeWhile_append_of_pos hdeeper, takeWhile_leveledAll, List.append_nil]
    have hdrop : (leveledAll (level + 1) below ++ leveledAll level rest).dropWhile (level < ·.1) =
        leveledAll level rest := by
      rw [List.dropWhile_append_of_pos hdeeper, dropWhile_leveledAll]
    rw [leveledAll, leveled, List.cons_append, ofLeveled, htake, hdrop,
      ofLeveled_leveledAll below, ofLeveled_leveledAll rest]

end MarkTree.Rose
