import MarkTree.Proofs.Document.Sketch
import MarkTree.Proofs.Text.Pieces

/-!
# Texts of a document that was read

The text of a node is kept with the node, and is put together while the tree is built. What a node adds to
it is its own text (`Payload.ownText`): the value of what stands for itself, and the description of an
image. Raw HTML, addresses and definitions add nothing, nor does what was left out.

At every node of the tree the text kept is the own text followed by the texts of the children
(`everywhere_speaks`). So it is made up of the own texts of the nodes below, in the order of the document
(`text_of_read`).
-/

namespace MarkTree

open Markup (Target)
open Relation (ReflTransGen)

/-- What a node says itself, apart from the nodes below it. -/
def Payload.ownText (p : Payload) : String :=
  match p.kind with
  | .text | .inlineCode | .inlineMath | .codeBlock | .frontMatter | .lineBreak => p.value
  | .image => (p.attribute? "alt").getD ""
  | _ => ""

namespace Document

variable {defs : List (String × Target)} {lenient : Bool} {s s' : Store} {own p : Payload}

/-- A node says what it says itself, and then what the trees below it say; an image says something. -/
def Speaks (own : Payload) (below : List (Rose Payload)) : Prop :=
  own.text = own.ownText ++ topTexts below ∧ (own.kind = .image → (own.attribute? "alt").isSome)

theorem topTexts_eq_join (ts : List (Rose Payload)) :
    topTexts ts = String.join ((ts.map Rose.label).map Payload.text) := by
  induction ts with
  | nil => rfl
  | cons t rest ih => rw [topTexts, ih, List.map_cons, List.map_cons, String.join_cons]

/-! ## Every node of the tree -/

theorem attribute?_alt {part : Leaf} (h : leafPayload defs part = some p) (hk : p.kind = .image) :
    p.attribute? "alt" = some p.text := by
  cases part with
  | image url alt title =>
    cases h
    rfl
  | imageReference label alt =>
    cases h
    rfl
  | embedded => cases h
  | _ =>
    cases h
    cases hk

theorem ownText_leaf {part : Leaf} (h : leafPayload defs part = some p) : p.ownText = p.text := by
  by_cases hk : p.kind = .image
  · rw [Payload.ownText, hk, attribute?_alt h hk]
    rfl
  · cases part with
    | image | imageReference =>
      cases h
      exact absurd rfl hk
    | embedded => cases h
    | _ =>
      cases h
      rfl

theorem speaks_leaf {part : Leaf} (h : leafPayload defs part = some p) (depth : Nat) :
    Speaks { p with tabDepth := depth } [] := by
  refine ⟨?_, fun hk => Option.isSome_of_eq_some (attribute?_alt (p := p) h hk)⟩
  rw [topTexts, String.append_empty]
  exact (ownText_leaf h).symm

/-- Containers are of kinds that say nothing themselves. -/
theorem ownText_container {part : Container} (h : containerPayload defs part = some p) :
    p.ownText = "" ∧ p.kind ≠ .image := by
  cases part with
  | list ordered start => cases ordered <;> cases h <;> exact ⟨rfl, Kind.noConfusion⟩
  | embedded => cases h
  | _ =>
    cases h
    exact ⟨rfl, Kind.noConfusion⟩

theorem speaks_container {part : Container} (h : containerPayload defs part = some p) (depth : Nat)
    (below : List (Rose Payload)) :
    Speaks { p with tabDepth := depth, text := topTexts below } below := by
  obtain ⟨hown, hkind⟩ := ownText_container h
  have hsilent : { p with tabDepth := depth, text := topTexts below }.ownText = "" := hown
  exact ⟨by rw [hsilent, String.empty_append], fun himage => absurd himage hkind⟩

theorem everywhere_speaks (m : Markup) {depth : Nat} {t : Rose Payload}
    (h : sketch defs depth m = some t) : t.Everywhere Speaks :=
  SoOfParts.everywhere ⟨fun depth hp => speaks_leaf hp depth, fun depth _ hp => speaks_container hp depth _⟩
    m h

/-! ## The nodes of a document that was read -/

/-- At every node the text kept is the node's own, followed by those of the children. -/
theorem text_of_children {root n : NodeId} {m : Markup} (h : read lenient m s = .ok (root, s'))
    (hn : ReflTransGen s'.Owns root n) :
    (s'.payload n).text = (s'.payload n).ownText ++
      String.join ((s'.childList n).map fun c => (s'.payload c).text) ∧
    (s'.kind n = .image → ((s'.payload n).attribute? "alt").isSome) := by
  obtain ⟨t, ht, rfl, hadded⟩ := read_added h
  obtain ⟨below, ⟨htext, himage⟩, hbelow⟩ := hadded.holds.everywhere t (everywhere_speaks m ht) hn
  refine ⟨?_, himage⟩
  rw [htext, topTexts_eq_join, ← hbelow, List.map_map]
  rfl

theorem text_of_below {root n : NodeId} {m : Markup} (h : read lenient m s = .ok (root, s'))
    (hn : ReflTransGen s'.Owns root n) : (s'.payload n).text =
      String.join ((s'.search .any n).map fun c => (s'.payload c).ownText) := by
  refine Store.Ends.induction (P := fun n => ReflTransGen s'.Owns root n → (s'.payload n).text =
    String.join ((s'.search .any n).map fun c => (s'.payload c).ownText))
    (fun n hends ih hn => ?_) ((ends_of_read h).below hn) hn
  have hbelow : (s'.childList n).map (fun c => (s'.payload c).text) =
      (s'.childList n).map fun c =>
        String.join ((s'.search .any c).map fun d => (s'.payload d).ownText) :=
    List.map_congr_left fun c hc => ih c hc (hn.tail hc)
  rw [(text_of_children h hn).1, hbelow, hends.search_any_eq, List.map_cons, String.join_cons,
    join_map_flatMap]

/-- The text of each node of a document that was read is what the nodes from there down say themselves, in
the order of the document. What an image says is its description, which every image has. -/
theorem text_of_read {lenient : Bool} {m : Markup} {s s' : Store} {root : NodeId}
    (h : read lenient m s = .ok (root, s')) :
    ∀ n ∈ s'.search .any root,
      (s'.payload n).text =
        String.join ((s'.search .any n).map fun c => (s'.payload c).ownText) ∧
      (s'.kind n = .image → ((s'.payload n).attribute? "alt").isSome) := by
  intro n hn
  obtain ⟨hpath, -⟩ := (ends_of_read h).mem_search_iff.mp hn
  exact ⟨text_of_below h hpath, (text_of_children h hpath).2⟩

/-- A document that speaks in three ways, and holds addresses, raw HTML and embedded programs besides. -/
def spokenMarkup : Markup :=
  .node .root [
    .node (.heading 1) [.leaf (.image "u" "one" none), .leaf .lineBreak, .leaf (.html "<br>")],
    .node .embedded [.node .paragraph [.leaf (.text "left out")]],
    .node .blockQuote [.node .paragraph [.node (.link "v" none) [.leaf (.inlineCode "two")], .leaf .embedded]],
    .leaf (.definition "x" "w" none)]

theorem text_of_read_spoken :
    ∃ s', read true spokenMarkup {} = .ok (0, s') ∧ s'.search .any 0 = List.range 10 ∧
      (s'.search .any 0).map (fun c => (s'.payload c).ownText) =
        ["", "", "one", "\n", "", "", "", "", "two", ""] ∧
      (s'.payload 0).text = "one\ntwo" ∧
      (s'.payload 5).text = String.join ((s'.search .any 5).map fun c => (s'.payload c).ownText) ∧
      ((s'.payload 2).attribute? "alt").isSome := by
  have hvalue : (read true spokenMarkup {}).map (fun r => (r.1, r.2.search .any r.1, r.2.kind 2,
      (r.2.search .any r.1).map fun c => (r.2.payload c).ownText)) =
      .ok (0, List.range 10, .image, ["", "", "one", "\n", "", "", "", "", "two", ""]) := by
    decide +kernel
  cases hread : read true spokenMarkup {} with
  | error e =>
    rw [hread] at hvalue
    cases hvalue
  | ok r =>
    obtain ⟨root, s'⟩ := r
    rw [hread] at hvalue
    obtain ⟨rfl, hvalue⟩ := Prod.mk.inj (Except.ok.inj hvalue)
    obtain ⟨hnodes, hvalue⟩ := Prod.mk.inj hvalue
    obtain ⟨himage, hown⟩ := Prod.mk.inj hvalue
    have hmem : ∀ n < 10, n ∈ s'.search .any 0 := fun n hn => hnodes ▸ List.mem_range.mpr hn
    have htext := text_of_read hread
    refine ⟨s', rfl, hnodes, hown, ?_, (htext 5 (hmem 5 (by decide))).1,
      (htext 2 (hmem 2 (by decide))).2 himage⟩
    rw [(htext 0 (hmem 0 (by decide))).1, hown]
    decide

end Document

end MarkTree
