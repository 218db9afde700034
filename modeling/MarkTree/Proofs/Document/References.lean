import MarkTree.Proofs.Document.Parts

/-!
# References

A reference to a definition is resolved in the definitions of the whole document, those that come after it
and those inside embedded programs included. The first definition of the label decides, and nothing else:
not the definitions behind it, nor where the reference stands. A label that nothing defines leads nowhere.

The address is kept twice, as the value of the node and under the key that a link or an image has for it
(`Payload.LeadsTo`). A definition without a title hides the title of a later one.

* `leadsTo_of_partFace`: what is said by the node of a reference, in terms of the definition looked up.
-/

namespace MarkTree

open Markup (Target)

/-- A reference: the kind of node that stands for it, the key of its address, and its label. -/
structure Reference where
  kind : Kind
  key : String
  label : String
deriving DecidableEq, Repr

/-- What a part refers to by a label. References to notes have no address, and are none of these. -/
def Part.reference? : Part → Option Reference
  | .inr (.linkReference label) => some ⟨.link, "href", label⟩
  | .inl (.imageReference label _) => some ⟨.image, "src", label⟩
  | _ => none

/-- A node that stands for a reference, leads to `target`, has its title, if there is one, and shows the
label. -/
structure Payload.LeadsTo (p : Payload) (ref : Reference) (target : Target) : Prop where
  kind : p.kind = ref.kind
  value : p.value = target.url
  address : p.attribute? ref.key = some target.url
  title : p.attribute? "title" = target.title
  label : p.attribute? "ref" = some ref.label

namespace Document

variable {defs : List (String × Target)} {part : Part} {ref : Reference} {p : Payload}
variable {lenient : Bool} {m : Markup} {s s' : Store} {root : NodeId}

/-! ## What the node of a reference says -/

/-- An attribute that is there only with a value is looked up as that value. -/
theorem lookup_attributeOf_append (key : String) (value : Option String)
    (rest : List (String × String)) :
    (attributeOf key value ++ rest).lookup key = value.or (rest.lookup key) := by
  cases value with
  | none => rfl
  | some v => exact List.lookup_cons_self

theorem lookup_attributeOf_append_of_ne {key key' : String} (hne : key' ≠ key) (value : Option String)
    (rest : List (String × String)) :
    (attributeOf key value ++ rest).lookup key' = rest.lookup key' := by
  cases value with
  | none => rfl
  | some v =>
    have hkey : (key' == key) = false := beq_false_of_ne hne
    simp [attributeOf, List.lookup_cons, hkey]

theorem leadsTo_of_partFace (href : part.reference? = some ref)
    (hface : some p.face = partFace defs part) : p.LeadsTo ref (targetOf defs ref.label) := by
  obtain ⟨kind, text, html, value, depth, attributes, placeholder⟩ := p
  unfold Part.reference? at href
  split at href
  · cases href
    cases hface
    constructor <;>
      simp [Payload.attribute?, List.lookup_cons, lookup_attributeOf_append,
        lookup_attributeOf_append_of_ne]
  · cases href
    cases hface
    constructor <;>
      simp [Payload.attribute?, List.lookup_cons, lookup_attributeOf_append,
        lookup_attributeOf_append_of_ne]
  · cases href

/-! ## Which definition is looked up -/

theorem targetOf_of_first {before later : List (String × Target)} {label : String} {target : Target}
    (hdefs : defs = before ++ (label, target) :: later) (hfirst : ∀ d ∈ before, d.1 ≠ label) :
    targetOf defs label = target := by
  have hlookup : defs.lookup label = some target :=
    List.lookup_eq_some_iff.mpr
      ⟨before, later, hdefs, fun d hd => bne_iff_ne.mpr (Ne.symm (hfirst d hd))⟩
  rw [targetOf, hlookup]
  rfl

theorem targetOf_of_undefined {label : String} (hnone : ∀ d ∈ defs, d.1 ≠ label) :
    targetOf defs label = ⟨"", none⟩ := by
  have hlookup : defs.lookup label = none :=
    List.lookup_eq_none_iff.mpr fun d hd => bne_iff_ne.mpr (Ne.symm (hnone d hd))
  rw [targetOf, hlookup]
  rfl

/-! ## References in a document that was read -/

/-- The node of a reference leads to what the label is looked up as in the whole document. -/
theorem leadsTo_of_read {kept : Markup} (h : IsImage s' root m.definitions kept) {n : NodeId}
    (hmem : (n, part) ∈ (s'.search .any root).zip kept.parts) (href : part.reference? = some ref) :
    (s'.payload n).LeadsTo ref (targetOf (m.parts.filterMap Part.definition?) ref.label) := by
  obtain ⟨i, hi⟩ := List.mem_iff_getElem?.mp hmem
  obtain ⟨hn, hpart⟩ := List.getElem?_zip_eq_some.mp hi
  have hface := congrArg (·[i]?) h.map_face
  simp only [List.getElem?_map, hn, hpart, Option.map_some, Option.some.injEq] at hface
  rw [← m.definitions_eq_filterMap]
  exact leadsTo_of_partFace href hface

/-- The nodes of a document that was read stand for what is left of it, part by part. A node that stands for a
reference leads to what the first definition of the label says, among the definitions of the whole document in
its order; or nowhere, if there is none. -/
theorem references_of_read (h : read lenient m s = .ok (root, s')) :
    ∃ kept, m.pruned = some kept ∧ (s'.search .any root).length = kept.parts.length ∧
      ∀ q ∈ (s'.search .any root).zip kept.parts, ∀ ref, q.2.reference? = some ref →
        (∀ before target later,
          m.parts.filterMap Part.definition? = before ++ (ref.label, target) :: later →
          (∀ d ∈ before, d.1 ≠ ref.label) → (s'.payload q.1).LeadsTo ref target) ∧
        ((∀ d ∈ m.parts.filterMap Part.definition?, d.1 ≠ ref.label) →
          (s'.payload q.1).LeadsTo ref ⟨"", none⟩) := by
  obtain ⟨kept, hkept, himage⟩ := isImage_of_read h
  have hlength := congrArg List.length himage.map_face
  rw [List.length_map, List.length_map] at hlength
  refine ⟨kept, hkept, hlength, fun q hq ref href => ?_⟩
  have hleads := leadsTo_of_read himage hq href
  constructor
  · intro before target later hdefs hfirst
    rwa [targetOf_of_first hdefs hfirst] at hleads
  · intro hnone
    rwa [targetOf_of_undefined hnone] at hleads

/-- A document with a reference to a label that is defined three times, first inside an embedded program and
without a title, and with a reference to a label that nothing defines. -/
def referringMarkup : Markup :=
  .node .root [
    .node .blockQuote [.node .paragraph [
      .node (.linkReference "x") [.leaf (.text "a")], .leaf (.imageReference "y" "b")]],
    .leaf (.definition "z" "u" none),
    .node .embedded [.leaf (.definition "x" "v" none), .node (.linkReference "x") []],
    .node (.list false none) [.node (.listItem none) [.leaf (.definition "x" "w" (some "t"))]],
    .leaf (.definition "x" "v" (some "t"))]

theorem references_of_read_referring :
    ∃ s', read true referringMarkup {} = .ok (0, s') ∧
      referringMarkup.parts.filterMap Part.definition? =
        [("z", ⟨"u", none⟩), ("x", ⟨"v", none⟩), ("x", ⟨"w", some "t"⟩), ("x", ⟨"v", some "t"⟩)] ∧
      (s'.payload 3).LeadsTo ⟨.link, "href", "x"⟩ ⟨"v", none⟩ ∧
      (s'.payload 5).LeadsTo ⟨.image, "src", "y"⟩ ⟨"", none⟩ := by
  have hvalue : (read true referringMarkup {}).map (fun r => (r.1, r.2.search .any r.1)) =
      .ok (0, List.range 11) := by decide +kernel
  have hdefs : referringMarkup.parts.filterMap Part.definition? =
      [("z", ⟨"u", none⟩), ("x", ⟨"v", none⟩), ("x", ⟨"w", some "t"⟩), ("x", ⟨"v", some "t"⟩)] := by
    decide +kernel
  have hleft : referringMarkup.pruned.map Markup.parts = some
      [.inr .root, .inr .blockQuote, .inr .paragraph, .inr (.linkReference "x"), .inl (.text "a"),
        .inl (.imageReference "y" "b"), .inl (.definition "z" "u" none), .inr (.list false none),
        .inr (.listItem none), .inl (.definition "x" "w" (some "t")),
        .inl (.definition "x" "v" (some "t"))] := by decide +kernel
  cases hread : read true referringMarkup {} with
  | error e =>
    rw [hread] at hvalue
    cases hvalue
  | ok r =>
    obtain ⟨root, s'⟩ := r
    rw [hread] at hvalue
    obtain ⟨rfl, hnodes⟩ := Prod.mk.inj (Except.ok.inj hvalue)
    obtain ⟨kept, hkept, -, hrefs⟩ := references_of_read hread
    rw [hkept] at hleft
    rw [hnodes, Option.some.inj hleft] at hrefs
    refine ⟨s', rfl, hdefs, ?_, ?_⟩
    · have hlink := hrefs (3, .inr (.linkReference "x")) (List.mem_of_getElem? (i := 3) rfl) _ rfl
      exact hlink.1 [("z", ⟨"u", none⟩)] ⟨"v", none⟩ _ hdefs (by decide)
    · have himage := hrefs (5, .inl (.imageReference "y" "b")) (List.mem_of_getElem? (i := 5) rfl) _ rfl
      refine himage.2 ?_
      rw [hdefs]
      decide

end Document

end MarkTree
