import MarkTree.Proofs.Document.Sketch

/-!
# A document and its tree

Reading a document gives a tree of the same shape. Embedded programs are left out with all that they
contain (`Markup.pruned`); every other part becomes one node, whose kind, value, raw HTML and attributes
come from the part alone and from the definitions of the whole document, those inside embedded programs
included.

* `sketch_face`: the tree of a document, as far as these four go, is the document itself.
* `build_lenient`: reading leniently is reading strictly what is left of the document.
* `read_image`: what is seen of a document that was read.
-/

namespace MarkTree

open Markup (Target)

/-- What is said by a part itself, rather than by its place or by what stands inside. -/
structure Face where
  kind : Kind
  value : String
  html : String
  attributes : List (String × String)
deriving DecidableEq, Repr

def Payload.face (p : Payload) : Face := ⟨p.kind, p.value, p.html, p.attributes⟩

/-- A part of a document without the parts inside. -/
abbrev Part := Leaf ⊕ Container

namespace Markup

mutual

/-- A part without the embedded programs in it, each left out with all that it contains. -/
def pruned : Markup → Option Markup
  | .leaf part => if part = .embedded then none else some (.leaf part)
  | .node part inside => if part = .embedded then none else some (.node part (prunedIn inside))

def prunedIn : List Markup → List Markup
  | [] => []
  | m :: rest => (pruned m).toList ++ prunedIn rest

end

mutual

/-- The definitions inside embedded programs. -/
def hidden : Markup → List (String × Target)
  | .leaf _ => []
  | .node part inside => if part = .embedded then definitionsIn inside else hiddenIn inside

def hiddenIn : List Markup → List (String × Target)
  | [] => []
  | m :: rest => hidden m ++ hiddenIn rest

end

mutual

/-- A document as a tree of its parts. -/
def tree : Markup → Rose Part
  | .leaf part => .node (.inl part) []
  | .node part inside => .node (.inr part) (treeAll inside)

def treeAll : List Markup → List (Rose Part)
  | [] => []
  | m :: rest => tree m :: treeAll rest

end

theorem treeAll_append (ms ms' : List Markup) : treeAll (ms ++ ms') = treeAll ms ++ treeAll ms' := by
  induction ms with
  | nil => rfl
  | cons m rest ih => rw [List.cons_append, treeAll, ih, treeAll, List.cons_append]

theorem treeAll_toList (m : Option Markup) : treeAll m.toList = (m.map tree).toList := by
  cases m <;> rfl

theorem definitionsIn_append (ms ms' : List Markup) :
    definitionsIn (ms ++ ms') = definitionsIn ms ++ definitionsIn ms' := by
  induction ms with
  | nil => rfl
  | cons m rest ih => rw [List.cons_append, definitionsIn, ih, definitionsIn, List.append_assoc]

mutual

/-- What embedded programs hide is all that is lost of the definitions. -/
theorem definitionsIn_pruned (m : Markup) (h : m.hidden = []) :
    definitionsIn m.pruned.toList = m.definitions := by
  cases m with
  | leaf part =>
    rw [pruned]
    split
    · rename_i he
      subst he
      rfl
    · rw [Option.toList_some, definitionsIn, definitionsIn, List.append_nil]
  | node part inside =>
    rw [hidden] at h
    rw [pruned, definitions]
    split
    · rename_i he
      rw [if_pos he] at h
      rw [h]
      rfl
    · rename_i he
      rw [if_neg he] at h
      rw [Option.toList_some, definitionsIn, definitionsIn, List.append_nil, definitions,
        definitionsIn_prunedIn inside h]

theorem definitionsIn_prunedIn (ms : List Markup) (h : hiddenIn ms = []) :
    definitionsIn (prunedIn ms) = definitionsIn ms := by
  cases ms with
  | nil => rfl
  | cons m rest =>
    rw [hiddenIn, List.append_eq_nil_iff] at h
    rw [prunedIn, definitionsIn_append, definitionsIn_pruned m h.1, definitionsIn_prunedIn rest h.2,
      definitionsIn]

end

theorem definitions_of_pruned {m kept : Markup} (hp : m.pruned = some kept) (h : m.hidden = []) :
    kept.definitions = m.definitions := by
  have hall := definitionsIn_pruned m h
  rw [hp, Option.toList_some, definitionsIn, definitionsIn, List.append_nil] at hall
  exact hall

end Markup

namespace Document

variable {defs : List (String × Target)} {s s' : Store}

/-- What the node of a part says of itself. -/
def partFace (defs : List (String × Target)) (part : Part) : Option Face :=
  (part.elim (leafPayload defs) (containerPayload defs)).map Payload.face

/-- What is left out is what no node stands for. -/
theorem pruned_leaf (defs : List (String × Target)) (part : Leaf) :
    (Markup.leaf part).pruned = (leafPayload defs part).map fun _ => .leaf part := by
  cases part <;> rfl

theorem pruned_node (defs : List (String × Target)) (part : Container) (inside : List Markup) :
    (Markup.node part inside).pruned =
      (containerPayload defs part).map fun _ => .node part (Markup.prunedIn inside) := by
  cases part <;> rfl

mutual

/-- The tree of a part has the shape of what is left of the part, and shows the same. -/
theorem sketch_face (defs : List (String × Target)) (m : Markup) (depth : Nat) :
    (sketch defs depth m).map (Rose.map fun p => some p.face) =
      m.pruned.map fun kept => kept.tree.map (partFace defs) := by
  cases m with
  | leaf part =>
    rw [sketch, pruned_leaf defs]
    cases hp : leafPayload defs part with
    | none => rfl
    | some p =>
      have hface : partFace defs (.inl part) = some p.face := by simp [partFace, hp]
      exact congrArg (fun face => some (Rose.node face [])) hface.symm
  | node part inside =>
    rw [sketch, pruned_node defs]
    cases hp : containerPayload defs part with
    | none => rfl
    | some p =>
      have hface : partFace defs (.inr part) = some p.face := by simp [partFace, hp]
      have hbelow := sketchAll_face defs inside (if p.kind = .listItem then depth + 1 else depth)
      exact congrArg some (congrArg₂ Rose.node hface.symm hbelow)

theorem sketchAll_face (defs : List (String × Target)) (ms : List Markup) (depth : Nat) :
    Rose.mapAll (fun p => some p.face) (sketchAll defs depth ms) =
      Rose.mapAll (partFace defs) (Markup.treeAll (Markup.prunedIn ms)) := by
  cases ms with
  | nil => rfl
  | cons m rest =>
    have hm := congrArg Option.toList (sketch_face defs m depth)
    rw [sketchAll, Rose.mapAll_append, sketchAll_face defs rest, Rose.mapAll_toList, hm, Markup.prunedIn,
      Markup.treeAll_append, Rose.mapAll_append, Markup.treeAll_toList, Rose.mapAll_toList,
      Option.map_map]
    rfl

end

/-! ## Reading leniently -/

mutual

/-- Reading leniently is reading strictly what is left. -/
theorem build_lenient (m : Markup) (depth : Nat) (s : Store) :
    build defs true depth m s =
      m.pruned.elim (.ok (none, s)) fun kept => build defs false depth kept s := by
  cases m with
  | leaf part =>
    rw [build, pruned_leaf defs]
    cases hp : leafPayload defs part with
    | none => rfl
    | some p => rw [Option.map_some, Option.elim_some, build, hp]
  | node part inside =>
    rw [build, pruned_node defs]
    cases hp : containerPayload defs part with
    | none => rfl
    | some p =>
      rw [Option.map_some, Option.elim_some, build, hp]
      simp only [buildAll_lenient inside]

theorem buildAll_lenient (ms : List Markup) (depth : Nat) (parent : NodeId) (text : String)
    (s : Store) :
    buildAll defs true depth parent text ms s =
      buildAll defs false depth parent text (Markup.prunedIn ms) s := by
  cases ms with
  | nil => rfl
  | cons m rest =>
    rw [buildAll, build_lenient m depth s, Markup.prunedIn]
    cases m.pruned with
    | none => exact buildAll_lenient rest depth parent text s
    | some kept =>
      rw [Option.toList_some, List.singleton_append, buildAll, Option.elim_some]
      simp only [buildAll_lenient rest]

end

theorem read_lenient {m kept : Markup} (hp : m.pruned = some kept) (hh : m.hidden = []) (s : Store) :
    read true m s = read false kept s := by
  rw [read, build_lenient, hp, Option.elim_some, ← Markup.definitions_of_pruned hp hh]
  rfl

/-! ## What is seen of a document that was read -/

/-- The tree at `root` is a document of which nothing is left out, the references being resolved in
`defs`: part `i` of the document is node `i` in the order of the tree. -/
structure IsImage (s : Store) (root : NodeId) (defs : List (String × Target)) (m : Markup) : Prop where
  nodes : (s.levels root).map Prod.snd = s.search .any root
  once : (s.search .any root).Nodup
  top : s.parent? root = none
  rows : (s.levels root).map (fun q => ⟨q.1, s.parent? q.2, some (s.payload q.2).face⟩) =
    (m.tree.rows 0 none 0).map fun r =>
      (⟨r.level, r.above.bind ((s.search .any root)[·]?), partFace defs r.label⟩ : Row (Option Face))

/-- Part `i` of a document is node `i` of its image. -/
theorem IsImage.exists_node {root : NodeId} {m : Markup} (h : IsImage s root defs m) {i : Nat}
    {r : Row Part} (hr : (m.tree.rows 0 none 0)[i]? = some r) :
    ∃ n, (s.search .any root)[i]? = some n ∧ (s.levels root)[i]? = some (r.level, n) ∧
      s.parent? n = r.above.bind ((s.search .any root)[·]?) ∧
      some (s.payload n).face = partFace defs r.label := by
  have hrow := congrArg (·[i]?) h.rows
  simp only [List.getElem?_map, hr, Option.map_some, Option.map_eq_some_iff, Row.mk.injEq] at hrow
  obtain ⟨⟨level, n⟩, hq, rfl, hparent, hface⟩ := hrow
  have hn : (s.search .any root)[i]? = some n := by rw [← h.nodes, List.getElem?_map, hq, Option.map_some]
  exact ⟨n, hn, hq, hparent, hface⟩

theorem isImage_of_holds {root : NodeId} {t : Rose Payload} {m : Markup}
    (h : s.Holds none root t) (he : s.Ends root)
    (hface : m.tree.map (partFace defs) = t.map fun p => some p.face) : IsImage s root defs m := by
  have hsearch := Store.Holds.search t h he
  have htop : s.parent? root = none := by
    rw [Store.parent?_eq, h.under?, Option.filter_none]
  have hrows := Store.Holds.levels t 0 0 none h htop he
  refine ⟨s.map_snd_levelsTo s.size 0 root, ?_, htop, ?_⟩
  · rw [hsearch]
    exact List.nodup_range'
  · calc (s.levels root).map (fun q => ⟨q.1, s.parent? q.2, some (s.payload q.2).face⟩)
      _ = ((s.levels root).map fun q => s.rowAt q.1 q.2).map (Row.map fun p => some p.face) := by
          rw [List.map_map]
          rfl
      _ = (t.rows 0 none 0).map fun r => ⟨r.level, r.above.map (root + ·), some r.label.face⟩ := by
          rw [Nat.add_zero] at hrows
          rw [Store.levels, hrows, List.map_map]
          rfl
      _ = ((t.map fun p => some p.face).rows 0 none 0).map fun r =>
            ⟨r.level, r.above.bind ((List.range' root t.size)[·]?), r.label⟩ := by
          rw [Rose.rows_map, List.map_map]
          refine List.map_congr_left fun r hr => ?_
          rw [← Rose.bind_getElem?_range'_of_mem_rows hr]
          rfl
      _ = _ := by
          rw [← hface, Rose.rows_map, List.map_map, hsearch]
          rfl

theorem isImage_of_read {lenient : Bool} {m : Markup} {root : NodeId}
    (h : read lenient m s = .ok (root, s')) :
    ∃ kept, m.pruned = some kept ∧ IsImage s' root m.definitions kept := by
  obtain ⟨t, hsketch, rfl, hadded⟩ := read_added h
  have hface := sketch_face m.definitions m 0
  rw [hsketch, Option.map_some, eq_comm, Option.map_eq_some_iff] at hface
  obtain ⟨kept, hp, hshape⟩ := hface
  exact ⟨kept, hp, isImage_of_holds hadded.holds hadded.ends hshape⟩

/-- A document that is read becomes the image of what is left of it; and what embedded programs
contain does not matter, except for the definitions. -/
theorem read_image (m : Markup) (s : Store) :
    (∀ lenient root s', read lenient m s = .ok (root, s') →
      ∃ kept, m.pruned = some kept ∧ IsImage s' root m.definitions kept) ∧
    (∀ kept, m.pruned = some kept → m.hidden = [] → read true m s = read false kept s) :=
  ⟨fun _ _ _ h => isImage_of_read h, fun _ hp hh => read_lenient hp hh s⟩

/-- A document with a reference, nested lists, and embedded programs between them. -/
def mixedMarkup : Markup :=
  .node .root [
    .node .paragraph [.node (.linkReference "x") [.leaf (.text "a")], .leaf .embedded],
    .node .embedded [.node .paragraph [.leaf (.text "b")]],
    .node (.list false none) [.node (.listItem none) [.node .paragraph [.leaf (.html "<br>")]]],
    .leaf (.definition "x" "u" none)]

theorem read_image_mixed :
    (∃ root s', read true mixedMarkup {} = .ok (root, s') ∧
      (∃ kept, mixedMarkup.pruned = some kept ∧ IsImage s' root mixedMarkup.definitions kept) ∧
      -- the reference stands in the paragraph, and has the target of its definition
      ∃ p n, (s'.search .any root)[1]? = some p ∧ (s'.search .any root)[2]? = some n ∧
        s'.parent? n = some p ∧ (s'.payload p).face = ⟨.paragraph, "", "", []⟩ ∧
        (s'.payload n).face = ⟨.link, "u", "", [("href", "u"), ("ref", "x")]⟩) ∧
    mixedMarkup.hidden = [] ∧
    ∃ kept, mixedMarkup.pruned = some kept ∧ read true mixedMarkup {} = read false kept {} := by
  have hread : ∃ r, read true mixedMarkup {} = .ok r := ⟨_, rfl⟩
  have hhidden : mixedMarkup.hidden = [] := by decide
  obtain ⟨himage, hlenient⟩ := read_image mixedMarkup {}
  obtain ⟨⟨root, s'⟩, hr⟩ := hread
  obtain ⟨kept, hp, hi⟩ := himage true root s' hr
  have hrows : ∃ rest, kept.tree.rows 0 none 0 = ⟨0, none, .inr .root⟩ :: ⟨1, some 0, .inr .paragraph⟩ ::
      ⟨2, some 1, .inr (.linkReference "x")⟩ :: rest := by
    cases hp
    exact ⟨_, rfl⟩
  obtain ⟨rest, hrows⟩ := hrows
  obtain ⟨p, hfirst, -, -, hparagraph⟩ := hi.exists_node (i := 1) (by rw [hrows]; rfl)
  obtain ⟨n, hsecond, -, hparent, hlink⟩ := hi.exists_node (i := 2) (by rw [hrows]; rfl)
  have htarget : partFace mixedMarkup.definitions (.inr (.linkReference "x")) =
      some ⟨.link, "u", "", [("href", "u"), ("ref", "x")]⟩ := by decide
  exact ⟨⟨root, s', hr, ⟨kept, hp, hi⟩, p, n, hfirst, hsecond, hparent.trans hfirst,
    Option.some.inj hparagraph, Option.some.inj (hlink.trans htarget)⟩, hhidden, kept, hp,
    hlenient kept hp hhidden⟩

end Document

end MarkTree
