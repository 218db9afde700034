import MarkTree.Proofs.Document.Growth
import MarkTree.Proofs.Rose
import MarkTree.Proofs.Store.Trees

/-!
# The tree that a document becomes

What reading makes of a part of a document does not depend on the store that it is read into: a tree
of payloads (`sketch`), in which every text is the text of the node itself and of the nodes below, and
every tab depth counts the list items around. Reading adds this tree to the store, its nodes numbered in
the order of the document from the first free number on, and touches no other node (`build_added`).

* `Store.Holds`: a tree of payloads stands in a store at a node. It says all there is to say of the
  cells of that tree.
* `Store.Holds.levels`, `Store.Holds.search`: what is seen of such a tree from its top.
* `Store.Holds.everywhere`: what is so at every node of the tree, read off the store.
-/

namespace MarkTree

open Markup (Target)
open Relation (ReflTransGen)

namespace Document

/-- The texts of the tops of some trees, one after the other. -/
def topTexts : List (Rose Payload) → String
  | [] => ""
  | t :: rest => t.label.text ++ topTexts rest

mutual

/-- The payloads of the nodes that a part becomes, `depth` list items being around it; none if the
part is left out. -/
def sketch (defs : List (String × Target)) (depth : Nat) : Markup → Option (Rose Payload)
  | .leaf part => (leafPayload defs part).map fun p => .node { p with tabDepth := depth } []
  | .node part inside =>
    (containerPayload defs part).map fun p =>
      let below := sketchAll defs (if p.kind = .listItem then depth + 1 else depth) inside
      .node { p with tabDepth := depth, text := topTexts below } below

def sketchAll (defs : List (String × Target)) (depth : Nat) : List Markup → List (Rose Payload)
  | [] => []
  | m :: rest => (sketch defs depth m).toList ++ sketchAll defs depth rest

end

end Document

namespace Store

variable {s s' : Store} {n p : NodeId} {above : Option NodeId} {t : Rose Payload}

/-! ## Trees of payloads in a store -/

mutual

/-- The tree stands at `n`, which was put under `above`, its nodes numbered from `n` on. -/
def Holds (s : Store) (above : Option NodeId) (n : NodeId) : Rose Payload → Prop
  | .node own below =>
    s.get? n = some ⟨own, above, Rose.tops (n + 1) below⟩ ∧ HoldsAll s n (n + 1) below

/-- The trees stand next to each other below `p`, their nodes numbered from `start` on. -/
def HoldsAll (s : Store) (p start : NodeId) : List (Rose Payload) → Prop
  | [] => True
  | t :: rest => Holds s (some p) start t ∧ HoldsAll s p (start + t.size) rest

end

mutual

/-- A tree stays where it is as long as its cells do. -/
theorem Holds.congr (t : Rose Payload) {above : Option NodeId} {n : Nat}
    (hc : ∀ k : Nat, n ≤ k → k < n + t.size → s'.get? k = s.get? k) (h : s.Holds above n t) :
    s'.Holds above n t := by
  cases t with
  | node own below =>
    rw [Holds] at h ⊢
    rw [Rose.size] at hc
    refine ⟨by rw [hc n (Nat.le_refl n) (by omega), h.1], ?_⟩
    exact HoldsAll.congr below (fun k hle hlt => hc k (by omega) (by omega)) h.2

theorem HoldsAll.congr (ts : List (Rose Payload)) {p start : Nat}
    (hc : ∀ k : Nat, start ≤ k → k < start + Rose.sizeAll ts → s'.get? k = s.get? k)
    (h : s.HoldsAll p start ts) : s'.HoldsAll p start ts := by
  cases ts with
  | nil => trivial
  | cons t rest =>
    rw [HoldsAll] at h ⊢
    rw [Rose.sizeAll] at hc
    exact ⟨Holds.congr t (fun k hle hlt => hc k hle (by omega)) h.1,
      HoldsAll.congr rest (fun k hle hlt => hc k (by omega) (by omega)) h.2⟩

end

theorem Holds.get? (h : s.Holds above n t) :
    ∃ children, s.get? n = some ⟨t.label, above, children⟩ := by
  cases t with
  | node own below => exact ⟨_, h.1⟩

theorem Holds.payload (h : s.Holds above n t) : s.payload n = t.label := by
  obtain ⟨children, hc⟩ := h.get?
  simp [Store.payload, hc]

theorem Holds.alive (h : s.Holds above n t) : s.alive n := by
  obtain ⟨children, hc⟩ := h.get?
  exact alive_iff.mpr ⟨_, hc⟩

theorem Holds.under? (h : s.Holds above n t) : s.under? n = above := by
  obtain ⟨children, hc⟩ := h.get?
  simp [Store.under?, hc]

theorem Holds.childList {own : Payload} {below : List (Rose Payload)}
    (h : s.Holds above n (.node own below)) : s.childList n = Rose.tops (n + 1) below := by
  simp [Store.childList, h.1]

/-- A tree is put under a node by pointing the link of its top there. -/
theorem Holds.put {n : Nat} (h : s.Holds above n t)
    (hn : s'.get? n = (s.get? n).map ({ · with parent := some p }))
    (hc : ∀ k : Nat, n < k → s'.get? k = s.get? k) : s'.Holds (some p) n t := by
  cases t with
  | node own below =>
    rw [Holds] at h ⊢
    refine ⟨by rw [hn, h.1, Option.map_some], ?_⟩
    exact HoldsAll.congr below (fun k hle _ => hc k (by omega)) h.2

/-! ## What is seen from the top -/

theorem HoldsAll.under {ts : List (Rose Payload)} {p start : NodeId} (h : s.HoldsAll p start ts)
    (hp : s.alive p) : ∀ c ∈ Rose.tops start ts, s.Under c p := by
  induction ts generalizing start with
  | nil => exact fun c hc => absurd hc List.not_mem_nil
  | cons t rest ih =>
    intro c hc
    rcases List.mem_cons.mp hc with rfl | hc
    · exact parent?_eq_some_iff.mpr ⟨h.1.under?, hp⟩
    · exact ih h.2 c hc

mutual

theorem Holds.linked (t : Rose Payload) {above : Option NodeId} {n q : NodeId}
    (h : s.Holds above n t) (hq : ReflTransGen s.Owns n q) :
    (s.childList q).Nodup ∧ ∀ c ∈ s.childList q, s.Under c q := by
  cases t with
  | node own below =>
    rcases Relation.ReflTransGen.cases_head hq with rfl | ⟨c, hc, hq⟩
    · rw [h.childList]
      exact ⟨Rose.nodup_tops below _, h.2.under h.alive⟩
    · rw [Owns, h.childList] at hc
      exact HoldsAll.linked below h.2 hc hq

theorem HoldsAll.linked (ts : List (Rose Payload)) {p start c q : NodeId}
    (h : s.HoldsAll p start ts) (hc : c ∈ Rose.tops start ts) (hq : ReflTransGen s.Owns c q) :
    (s.childList q).Nodup ∧ ∀ c ∈ s.childList q, s.Under c q := by
  cases ts with
  | nil => exact absurd hc List.not_mem_nil
  | cons t rest =>
    rcases List.mem_cons.mp hc with rfl | hc
    · exact Holds.linked t h.1 hq
    · exact HoldsAll.linked rest h.2 hc hq

end

theorem Holds.isTree (h : s.Holds above n t) : s.IsTree n where
  alive := h.alive
  once hp := (Holds.linked t h hp).1
  linked hp ho := (Holds.linked t h hp).2 _ ho

mutual

theorem Holds.endsWithin (t : Rose Payload) {above : Option NodeId} {n : NodeId}
    (h : s.Holds above n t) : s.EndsWithin t.size n := by
  cases t with
  | node own below =>
    rw [Rose.size, EndsWithin, h.childList]
    exact HoldsAll.endsWithin below h.2

theorem HoldsAll.endsWithin (ts : List (Rose Payload)) {p start : NodeId}
    (h : s.HoldsAll p start ts) : ∀ c ∈ Rose.tops start ts, s.EndsWithin (Rose.sizeAll ts) c := by
  cases ts with
  | nil => exact fun c hc => absurd hc List.not_mem_nil
  | cons t rest =>
    intro c hc
    rw [Rose.sizeAll]
    rcases List.mem_cons.mp hc with rfl | hc
    · exact (Holds.endsWithin t h.1).mono (by omega)
    · exact (HoldsAll.endsWithin rest h.2 c hc).mono (by omega)

end

theorem Holds.ends (h : s.Holds above n t) (hsize : t.size ≤ s.size) : s.Ends n :=
  (Holds.endsWithin t h).mono hsize

/-- What a row of a tree shows: level, parent and payload. -/
def rowAt (s : Store) (level : Nat) (n : NodeId) : Row Payload :=
  ⟨level, s.parent? n, s.payload n⟩

mutual

/-- The nodes of a tree with their levels, parents and payloads are its rows; row `i` is the node
`root + i`. -/
theorem Holds.levels (t : Rose Payload) (level start : Nat) (up : Option Nat) {root : Nat}
    {above : Option NodeId} (h : s.Holds above (root + start) t)
    (hup : s.parent? (root + start) = up.map (root + ·)) (he : s.Ends (root + start)) :
    (s.levelsTo s.size level (root + start)).map (fun q => s.rowAt q.1 q.2) =
      (t.rows level up start).map fun r => ⟨r.level, r.above.map (root + ·), r.label⟩ := by
  cases t with
  | node own below =>
    have hbelow := HoldsAll.levels below (level + 1) (start + 1) h.2 h.alive
      fun c hc => he.child (by rwa [h.childList])
    rw [he.levelsTo_eq, List.map_cons, h.childList, Rose.rows, List.map_cons]
    exact congrArg₂ List.cons (by rw [rowAt, hup, h.payload]; rfl) hbelow

theorem HoldsAll.levels (ts : List (Rose Payload)) (level start : Nat) {root p : Nat}
    (h : s.HoldsAll (root + p) (root + start) ts) (hp : s.alive (root + p))
    (he : ∀ c ∈ Rose.tops (root + start) ts, s.Ends c) :
    ((Rose.tops (root + start) ts).flatMap (s.levelsTo s.size level)).map (fun q => s.rowAt q.1 q.2) =
      (Rose.rowsAll level p start ts).map fun r => ⟨r.level, r.above.map (root + ·), r.label⟩ := by
  cases ts with
  | nil => rfl
  | cons t rest =>
    have hup : s.parent? (root + start) = some (root + p) :=
      parent?_eq_some_iff.mpr ⟨h.1.under?, hp⟩
    have htop := Holds.levels t level start (some p) h.1 hup (he _ List.mem_cons_self)
    -- the numbers go on behind those of the first tree
    have hrest := HoldsAll.levels rest level (start + t.size)
      (by rw [← Nat.add_assoc]; exact h.2) hp
      (by rw [← Nat.add_assoc]; exact fun c hc => he c (List.mem_cons_of_mem _ hc))
    rw [Rose.tops, List.flatMap_cons, List.map_append, htop, Rose.rowsAll, List.map_append,
      Nat.add_assoc, hrest]

end

mutual

/-- The nodes of a tree are numbered in the order of the document. -/
theorem Holds.search (t : Rose Payload) {above : Option NodeId} {n : NodeId} (h : s.Holds above n t)
    (he : s.Ends n) : s.search .any n = List.range' n t.size := by
  cases t with
  | node own below =>
    have hbelow := HoldsAll.search below h.2 fun c hc => he.child (by rwa [h.childList])
    rw [he.search_eq, h.childList, hbelow, Rose.size, List.range'_succ]
    rfl

theorem HoldsAll.search (ts : List (Rose Payload)) {p start : NodeId} (h : s.HoldsAll p start ts)
    (he : ∀ c ∈ Rose.tops start ts, s.Ends c) :
    (Rose.tops start ts).flatMap (s.search .any) = List.range' start (Rose.sizeAll ts) := by
  cases ts with
  | nil => rfl
  | cons t rest =>
    have hrest := HoldsAll.search rest h.2 fun c hc => he c (List.mem_cons_of_mem _ hc)
    rw [Rose.tops, List.flatMap_cons, Holds.search t h.1 (he _ List.mem_cons_self), hrest, Rose.sizeAll,
      List.range'_append_1]

end

theorem HoldsAll.map_payload {ts : List (Rose Payload)} {p start : NodeId} (h : s.HoldsAll p start ts) :
    (Rose.tops start ts).map s.payload = ts.map Rose.label := by
  induction ts generalizing start with
  | nil => rfl
  | cons t rest ih => rw [Rose.tops, List.map_cons, List.map_cons, h.1.payload, ih h.2]

mutual

/-- What is so everywhere in a tree is so of each node below its top, with the payloads of the children
for the labels of the trees below. -/
theorem Holds.everywhere {P : Payload → List (Rose Payload) → Prop} (t : Rose Payload)
    {above : Option NodeId} {n q : NodeId} (h : s.Holds above n t) (ht : t.Everywhere P)
    (hq : ReflTransGen s.Owns n q) :
    ∃ below, P (s.payload q) below ∧ (s.childList q).map s.payload = below.map Rose.label := by
  cases t with
  | node own below =>
    rcases Relation.ReflTransGen.cases_head hq with rfl | ⟨c, hc, hq⟩
    · refine ⟨below, ?_, ?_⟩
      · rw [h.payload]
        exact ht.1
      · rw [h.childList]
        exact h.2.map_payload
    · rw [Owns, h.childList] at hc
      exact HoldsAll.everywhere below h.2 ht.2 hc hq

theorem HoldsAll.everywhere {P : Payload → List (Rose Payload) → Prop} (ts : List (Rose Payload))
    {p start c q : NodeId} (h : s.HoldsAll p start ts) (hts : Rose.EverywhereIn P ts)
    (hc : c ∈ Rose.tops start ts) (hq : ReflTransGen s.Owns c q) :
    ∃ below, P (s.payload q) below ∧ (s.childList q).map s.payload = below.map Rose.label := by
  cases ts with
  | nil => exact absurd hc List.not_mem_nil
  | cons t rest =>
    rcases List.mem_cons.mp hc with rfl | hc
    · exact Holds.everywhere t h.1 hts.1 hq
    · exact HoldsAll.everywhere rest h.2 hts.2 hc hq

end

end Store

namespace Document

open Store (Holds HoldsAll)

variable {defs : List (String × Target)} {lenient : Bool} {s s' : Store} {t : Rose Payload}

/-! ## What is so of every part -/

/-- `P` is so of the node that any part becomes, and of the trees right below it. -/
structure SoOfParts (defs : List (String × Target)) (P : Payload → List (Rose Payload) → Prop) : Prop where
  leaf : ∀ {part p} depth, leafPayload defs part = some p → P { p with tabDepth := depth } []
  node : ∀ {part p} depth inside, containerPayload defs part = some p →
    let below := sketchAll defs (if p.kind = .listItem then depth + 1 else depth) inside
    P { p with tabDepth := depth, text := topTexts below } below

mutual

theorem SoOfParts.everywhere {P : Payload → List (Rose Payload) → Prop} (hP : SoOfParts defs P)
    (m : Markup) {depth : Nat} {t : Rose Payload} (h : sketch defs depth m = some t) :
    t.Everywhere P := by
  cases m with
  | leaf part =>
    obtain ⟨p, hp, rfl⟩ := Option.map_eq_some_iff.mp h
    exact ⟨hP.leaf depth hp, trivial⟩
  | node part inside =>
    obtain ⟨p, hp, rfl⟩ := Option.map_eq_some_iff.mp h
    exact ⟨hP.node depth inside hp, SoOfParts.everywhereIn hP inside _⟩

theorem SoOfParts.everywhereIn {P : Payload → List (Rose Payload) → Prop} (hP : SoOfParts defs P)
    (ms : List Markup) (depth : Nat) : Rose.EverywhereIn P (sketchAll defs depth ms) := by
  cases ms with
  | nil => trivial
  | cons m rest =>
    rw [sketchAll]
    refine Rose.everywhereIn_append ?_ (SoOfParts.everywhereIn hP rest depth)
    cases hm : sketch defs depth m with
    | none => trivial
    | some t => exact ⟨SoOfParts.everywhere hP m hm, trivial⟩

end

/-! ## Reading adds the tree -/

/-- The tree was added to a store, from the first free number on, and nothing else was changed. -/
structure Added (t : Rose Payload) (s s' : Store) : Prop where
  size : s'.size = s.size + t.size
  holds : s'.Holds none s.size t
  kept : ∀ k : Nat, k < s.size → s'.get? k = s.get? k

/-- The trees were added below `p`, behind the children that it had, and nothing else was changed. -/
structure AddedBelow (p : NodeId) (ts : List (Rose Payload)) (s s' : Store) : Prop where
  size : s'.size = s.size + Rose.sizeAll ts
  holds : s'.HoldsAll p s.size ts
  parent : s'.get? p = (s.get? p).map fun c => { c with children := c.children ++ Rose.tops s.size ts }
  kept : ∀ k : Nat, k < s.size → k ≠ p → s'.get? k = s.get? k

theorem placeholder_of_containerPayload {part : Container} {p : Payload}
    (h : containerPayload defs part = some p) : p.placeholder = false := by
  cases part <;> simp [containerPayload] at h <;> rw [← h]

theorem embedded_eq_ok {r : Option NodeId × Store} (h : embedded lenient s = .ok r) : r = (none, s) := by
  unfold embedded at h
  split at h
  · exact (Except.ok.inj h).symm
  · cases h

theorem eq_link_of_adopt {p c : NodeId} (h : adopt s p c = .ok s') : s' = s.link p c (· ++ [c]) := by
  obtain ⟨-, -, he⟩ := bind_eq_ok_iff.mp (mapError_eq_ok_iff.mp h)
  exact (Except.ok.inj he).symm

/-- A part that was added becomes the last one below `p`. -/
theorem Added.adopt {p : Nat} {s₁ s₂ : Store} (h : Added t s s₁) (hp : p < s.size)
    (ha : adopt s₁ p s.size = .ok s₂) : AddedBelow p [t] s s₂ := by
  obtain rfl := eq_link_of_adopt ha
  have hcells : ∀ k : Nat, (s₁.link p s.size (· ++ [s.size])).get? k =
      if p = k then (if s.size = k then (s₁.get? k).map ({ · with parent := some p })
        else s₁.get? k).map fun c => { c with children := c.children ++ [s.size] }
      else if s.size = k then (s₁.get? k).map ({ · with parent := some p }) else s₁.get? k := by
    intro k
    rw [Store.link_eq, Store.relist, Store.get?_modify, Store.relink, Store.get?_modify]
  -- only two cells are written: the one of the part gets a parent, the one of `p` a child
  have hne : s.size ≠ p := by omega
  refine ⟨?_, ⟨h.holds.put ?_ ?_, trivial⟩, ?_, ?_⟩
  · rw [Store.size_link, h.size, Rose.sizeAll_singleton]
  · rw [hcells, if_neg (by omega), if_pos rfl]
  · intro k hk
    rw [hcells, if_neg (by omega), if_neg (by omega)]
  · rw [hcells, if_pos rfl, if_neg hne, h.kept p hp]
    rfl
  · intro k hk hkp
    rw [hcells, if_neg (by omega), if_neg (by omega), h.kept k hk]

theorem AddedBelow.payload_top {p : NodeId} (h : AddedBelow p [t] s s') :
    s'.payload s.size = t.label := h.holds.1.payload

theorem AddedBelow.cons {p : Nat} {ts : List (Rose Payload)} {s₁ s₂ : Store}
    (h : AddedBelow p [t] s s₁) (h' : AddedBelow p ts s₁ s₂) (hp : p < s.size) :
    AddedBelow p (t :: ts) s s₂ := by
  have hsize : s₁.size = s.size + t.size := by rw [h.size, Rose.sizeAll_singleton]
  refine ⟨?_, ⟨h.holds.1.congr t ?_, ?_⟩, ?_, ?_⟩
  · rw [h'.size, hsize, Rose.sizeAll, Nat.add_assoc]
  · intro k hle hlt
    exact h'.kept k (by omega) (by omega)
  · rw [← hsize]
    exact h'.holds
  · rw [h'.parent, h.parent, Option.map_map, hsize]
    refine congrArg (fun f => (s.get? p).map f) (funext fun c => ?_)
    simp [Rose.tops]
  · intro k hk hkp
    rw [h'.kept k (by omega) hkp, h.kept k hk hkp]

theorem AddedBelow.nil (p : NodeId) (s : Store) : AddedBelow p [] s s := by
  refine ⟨rfl, trivial, ?_, fun _ _ _ => rfl⟩
  simp [Rose.tops]

/-- A new node below which trees were added, and whose text was then written, makes up one tree. -/
theorem added_node {p : Payload} {ts : List (Rose Payload)} {s₁ : Store} (text : String)
    (hordinary : p.placeholder = false) (h : AddedBelow s.size ts (s.add p).2 s₁) :
    Added (.node { p with text := text } ts) s (s₁.edit s.size (Payload.setText text)) := by
  have hcells : ∀ k : Nat, k ≠ s.size →
      (s₁.edit s.size (Payload.setText text)).get? k = s₁.get? k := fun k hk => by
    rw [Store.edit, Store.get?_modify, if_neg (Ne.symm hk)]
  have hsize := h.size
  rw [Store.size_add] at hsize
  refine ⟨?_, ⟨?_, ?_⟩, ?_⟩
  · rw [Store.size_edit, hsize, Rose.size]
    omega
  · rw [Store.edit, Store.get?_modify, if_pos rfl, h.parent, Store.get?_add, if_pos rfl]
    simp [hordinary, Payload.setText]
  · have hbelow := h.holds
    rw [Store.size_add] at hbelow
    exact hbelow.congr ts fun k hle _ => hcells k (Nat.ne_of_gt hle)
  · intro k hk
    have hne : k ≠ s.size := by omega
    rw [hcells k hne, h.kept k (by rw [Store.size_add]; omega) hne, Store.get?_add, if_neg hne]

theorem added_leaf (p : Payload) (s : Store) : Added (.node p []) s (s.add p).2 := by
  refine ⟨by rw [Store.size_add]; rfl, ⟨?_, trivial⟩, fun k hk => ?_⟩
  · rw [Store.get?_add, if_pos rfl]
    rfl
  · rw [Store.get?_add, if_neg (Nat.ne_of_lt hk)]

/-- What building the nodes of a part does, if it becomes the tree `t`. -/
def Builds (t : Option (Rose Payload)) (s : Store) (r : Option NodeId × Store) : Prop :=
  match t with
  | none => r = (none, s)
  | some t => r.1 = some s.size ∧ Added t s r.2

mutual

theorem build_added (m : Markup) {depth : Nat} {s : Store} {r : Option NodeId × Store}
    (h : build defs lenient depth m s = .ok r) : Builds (sketch defs depth m) s r := by
  cases m with
  | leaf part =>
    rw [build] at h
    rw [sketch]
    cases hp : leafPayload defs part with
    | none =>
      rw [hp] at h
      exact embedded_eq_ok h
    | some p =>
      rw [hp] at h
      cases h
      exact ⟨rfl, added_leaf _ s⟩
  | node part inside =>
    rw [build] at h
    rw [sketch]
    cases hp : containerPayload defs part with
    | none =>
      rw [hp] at h
      exact embedded_eq_ok h
    | some p =>
      rw [hp] at h
      obtain ⟨⟨text, s₁⟩, hall, hr⟩ := bind_eq_ok_iff.mp h
      cases hr
      have hnew : s.size < (s.add { p with tabDepth := depth }).2.size := by
        rw [Store.size_add]
        exact Nat.lt_succ_self _
      -- the node was added first, without a text; its text is written when those below are known
      obtain ⟨rfl, hbelow⟩ := buildAll_added inside hnew hall
      rw [String.empty_append]
      have hordinary : { p with tabDepth := depth }.placeholder = false :=
        (placeholder_of_containerPayload hp :)
      exact ⟨rfl, added_node _ hordinary hbelow⟩

theorem buildAll_added (ms : List Markup) {depth : Nat} {parent : NodeId} {text : String} {s : Store}
    {r : String × Store} (hp : parent < s.size)
    (h : buildAll defs lenient depth parent text ms s = .ok r) :
    r.1 = text ++ topTexts (sketchAll defs depth ms) ∧
      AddedBelow parent (sketchAll defs depth ms) s r.2 := by
  cases ms with
  | nil =>
    rw [buildAll] at h
    cases h
    exact ⟨by rw [sketchAll, topTexts, String.append_empty], .nil parent s⟩
  | cons m rest =>
    rw [buildAll] at h
    obtain ⟨⟨child, s₁⟩, hm, h⟩ := bind_eq_ok_iff.mp h
    have hbuilt := build_added m hm
    rw [sketchAll]
    cases hsketch : sketch defs depth m with
    | none =>
      -- the part is left out, and the store is as it was
      rw [hsketch] at hbuilt
      cases hbuilt
      exact buildAll_added rest hp h
    | some t =>
      rw [hsketch] at hbuilt
      obtain ⟨hchild, hadded⟩ := hbuilt
      cases hchild
      obtain ⟨s₂, hadopt, h⟩ := bind_eq_ok_iff.mp h
      have htop := hadded.adopt hp hadopt
      have hp₂ : parent < s₂.size := htop.size ▸ Nat.lt_add_right _ hp
      obtain ⟨htext, hrest⟩ := buildAll_added rest hp₂ h
      refine ⟨?_, htop.cons hrest hp⟩
      rw [htext, htop.payload_top, String.append_assoc]
      rfl

end

/-- What is read from a document is one tree, which depends on nothing but the document. -/
theorem read_added {m : Markup} {root : NodeId} (h : read lenient m s = .ok (root, s')) :
    ∃ t, sketch m.definitions 0 m = some t ∧ root = s.size ∧ Added t s s' := by
  obtain ⟨⟨top, s₁⟩, hm, h⟩ := bind_eq_ok_iff.mp h
  have hbuilt := build_added m hm
  cases hsketch : sketch m.definitions 0 m with
  | none =>
    rw [hsketch] at hbuilt
    cases hbuilt
    cases h
  | some t =>
    rw [hsketch] at hbuilt
    obtain ⟨htop, hadded⟩ := hbuilt
    cases htop
    cases h
    exact ⟨t, rfl, rfl, hadded⟩

theorem Added.ends (h : Added t s s') : s'.Ends s.size :=
  h.holds.ends (h.size ▸ Nat.le_add_left _ _)

theorem ends_of_read {m : Markup} {root : NodeId} (h : read lenient m s = .ok (root, s')) :
    s'.Ends root := by
  obtain ⟨t, -, rfl, hadded⟩ := read_added h
  exact hadded.ends

theorem isTree_of_read {m : Markup} {root : NodeId} (h : read lenient m s = .ok (root, s')) :
    s'.IsTree root := by
  obtain ⟨t, -, rfl, hadded⟩ := read_added h
  exact hadded.holds.isTree

end Document

end MarkTree
