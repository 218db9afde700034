/-!
# Ordered trees of labels

A tree apart from where it is kept: a label and, in order, the trees below. Its rows are its labels in
the order of a document, each with its level and with the number of the row above, the rows being
numbered from a start.

* `Rose.rows_map`: relabelling a tree relabels its rows.
* `Rose.above_of_mem_rows`: the row above a row is a row of the tree, unless the row is the top.
-/

namespace MarkTree

/-- A label with the trees below it. -/
inductive Rose (α : Type)
  | node (label : α) (below : List (Rose α))

/-- A label with its level and the number of the row above. -/
structure Row (α : Type) where
  level : Nat
  above : Option Nat
  label : α
deriving DecidableEq, Repr

def Row.map {α β : Type} (f : α → β) (r : Row α) : Row β := ⟨r.level, r.above, f r.label⟩

namespace Rose

variable {α β : Type} {start : Nat} {r : Row α}

def label : Rose α → α
  | .node a _ => a

mutual

def size : Rose α → Nat
  | .node _ below => sizeAll below + 1

def sizeAll : List (Rose α) → Nat
  | [] => 0
  | t :: rest => size t + sizeAll rest

end

mutual

def map (f : α → β) : Rose α → Rose β
  | .node a below => .node (f a) (mapAll f below)

def mapAll (f : α → β) : List (Rose α) → List (Rose β)
  | [] => []
  | t :: rest => map f t :: mapAll f rest

end

mutual

/-- The rows of a tree, numbered from `start`; the row `above` stands above its top. -/
def rows (level : Nat) (above : Option Nat) (start : Nat) : Rose α → List (Row α)
  | .node a below => ⟨level, above, a⟩ :: rowsAll (level + 1) start (start + 1) below

/-- The rows of trees that stand below the row `above`. -/
def rowsAll (level above start : Nat) : List (Rose α) → List (Row α)
  | [] => []
  | t :: rest => rows level (some above) start t ++ rowsAll level above (start + size t) rest

end

mutual

/-- At every node of the tree, its label and the trees below it are related by `P`. -/
def Everywhere (P : α → List (Rose α) → Prop) : Rose α → Prop
  | .node a below => P a below ∧ EverywhereIn P below

def EverywhereIn (P : α → List (Rose α) → Prop) : List (Rose α) → Prop
  | [] => True
  | t :: rest => Everywhere P t ∧ EverywhereIn P rest

end

mutual

/-- The labels of a tree, in the order of a document. -/
def labels : Rose α → List α
  | .node a below => a :: labelsAll below

def labelsAll : List (Rose α) → List α
  | [] => []
  | t :: rest => labels t ++ labelsAll rest

end

/-- The numbers of the tops of trees whose rows are numbered from `start`. -/
def tops (start : Nat) : List (Rose α) → List Nat
  | [] => []
  | t :: rest => start :: tops (start + size t) rest

theorem size_pos (t : Rose α) : 0 < t.size := by
  cases t
  rw [size]
  omega

theorem sizeAll_singleton (t : Rose α) : sizeAll [t] = t.size := Nat.add_zero _

theorem le_of_mem_tops {ts : List (Rose α)} {n : Nat} (h : n ∈ tops start ts) : start ≤ n := by
  induction ts generalizing start with
  | nil => exact absurd h List.not_mem_nil
  | cons t rest ih =>
    rcases List.mem_cons.mp h with rfl | h
    · exact Nat.le_refl _
    · exact Nat.le_trans (Nat.le_add_right _ _) (ih h)

theorem nodup_tops (ts : List (Rose α)) (start : Nat) : (tops start ts).Nodup := by
  induction ts generalizing start with
  | nil => exact .nil
  | cons t rest ih =>
    refine List.nodup_cons.mpr ⟨fun hmem => ?_, ih _⟩
    have hle := le_of_mem_tops hmem
    have hpos := size_pos t
    omega

theorem everywhereIn_append {P : α → List (Rose α) → Prop} {ts ts' : List (Rose α)}
    (h : EverywhereIn P ts) (h' : EverywhereIn P ts') : EverywhereIn P (ts ++ ts') := by
  induction ts with
  | nil => exact h'
  | cons t rest ih => exact ⟨h.1, ih h.2⟩

theorem mapAll_append (f : α → β) (ts ts' : List (Rose α)) :
    mapAll f (ts ++ ts') = mapAll f ts ++ mapAll f ts' := by
  induction ts with
  | nil => rfl
  | cons t rest ih => rw [List.cons_append, mapAll, ih, mapAll, List.cons_append]

theorem mapAll_toList (f : α → β) (t : Option (Rose α)) :
    mapAll f t.toList = (t.map (map f)).toList := by
  cases t <;> rfl

mutual

theorem size_map (f : α → β) (t : Rose α) : (t.map f).size = t.size := by
  cases t with
  | node a below => rw [map, size, size, sizeAll_mapAll f below]

theorem sizeAll_mapAll (f : α → β) (ts : List (Rose α)) : sizeAll (mapAll f ts) = sizeAll ts := by
  cases ts with
  | nil => rfl
  | cons t rest => rw [mapAll, sizeAll, sizeAll, size_map f t, sizeAll_mapAll f rest]

end

mutual

theorem rows_map (f : α → β) (t : Rose α) (level : Nat) (above : Option Nat) (start : Nat) :
    (t.map f).rows level above start = (t.rows level above start).map (Row.map f) := by
  cases t with
  | node a below =>
    rw [map, rows, rows, rowsAll_mapAll f below]
    rfl

theorem rowsAll_mapAll (f : α → β) (ts : List (Rose α)) (level above start : Nat) :
    rowsAll level above start (mapAll f ts) = (rowsAll level above start ts).map (Row.map f) := by
  cases ts with
  | nil => rfl
  | cons t rest =>
    rw [mapAll, rowsAll, rowsAll, rows_map f t, size_map, rowsAll_mapAll f rest, List.map_append]

end

mutual

/-- The rows of a tree show its labels, whatever they are numbered from. -/
theorem map_label_rows (t : Rose α) (level : Nat) (above : Option Nat) (start : Nat) :
    (t.rows level above start).map Row.label = t.labels := by
  cases t with
  | node a below => rw [rows, List.map_cons, map_label_rowsAll below, labels]

theorem map_label_rowsAll (ts : List (Rose α)) (level above start : Nat) :
    (rowsAll level above start ts).map Row.label = labelsAll ts := by
  cases ts with
  | nil => rfl
  | cons t rest =>
    rw [rowsAll, List.map_append, map_label_rows t, map_label_rowsAll rest, labelsAll]

end

theorem labelsAll_append (ts ts' : List (Rose α)) :
    labelsAll (ts ++ ts') = labelsAll ts ++ labelsAll ts' := by
  induction ts with
  | nil => rfl
  | cons t rest ih => rw [List.cons_append, labelsAll, ih, labelsAll, List.append_assoc]

mutual

/-- The row above a row is the one above the top, or a row of the tree. -/
theorem above_of_mem_rows (t : Rose α) {level start : Nat} {above : Option Nat}
    (h : r ∈ t.rows level above start) :
    r.above = above ∨ ∃ i, r.above = some i ∧ start ≤ i ∧ i < start + t.size := by
  cases t with
  | node a below =>
    rw [rows] at h
    rw [size]
    rcases List.mem_cons.mp h with rfl | h
    · exact .inl rfl
    · obtain ⟨i, hi, hle⟩ := above_of_mem_rowsAll below h
      refine .inr ⟨i, hi, ?_⟩
      omega

theorem above_of_mem_rowsAll (ts : List (Rose α)) {level above start : Nat}
    (h : r ∈ rowsAll level above start ts) :
    ∃ i, r.above = some i ∧ (i = above ∨ start ≤ i ∧ i < start + sizeAll ts) := by
  cases ts with
  | nil => exact absurd h List.not_mem_nil
  | cons t rest =>
    rw [rowsAll] at h
    rw [sizeAll]
    rcases List.mem_append.mp h with h | h
    · rcases above_of_mem_rows t h with he | ⟨i, hi, hle⟩
      · exact ⟨_, he, .inl rfl⟩
      · exact ⟨i, hi, .inr (by omega)⟩
    · obtain ⟨i, hi, hle⟩ := above_of_mem_rowsAll rest h
      exact ⟨i, hi, by omega⟩

end

/-- The row above a row, counted in numbers that start elsewhere. -/
theorem bind_getElem?_range'_of_mem_rows {t : Rose α} {level root : Nat}
    (h : r ∈ t.rows level none 0) :
    r.above.bind ((List.range' root t.size)[·]?) = r.above.map (root + ·) := by
  rcases above_of_mem_rows t h with he | ⟨i, hi, -, hlt⟩
  · rw [he]
    rfl
  · rw [Nat.zero_add] at hlt
    rw [hi, Option.bind_some, List.getElem?_range' hlt, Nat.one_mul]
    rfl

end Rose

end MarkTree
