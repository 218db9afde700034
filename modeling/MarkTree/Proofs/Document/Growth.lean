import MarkTree.Document
import MarkTree.Proofs.Results
import MarkTree.Proofs.Store.Moves

/-!
# Reading a document into a store

Reading a document is a sequence of moves: it adds nodes, writes their texts, and puts each new node
under the one that was added for the markup around it. Nothing that was there before is touched.

The node of a part is the first that is added for it, and is listed by nobody until its own parent
adopts it. So reading a document never puts a node under one while another one lists it
(`read_grown`), which is what callers have to see to themselves.
-/

namespace MarkTree

open Store (Moves Move)

variable {s s' s'' : Store} {may : Store → NodeId → NodeId → Prop} {b b' : Nat}

/-- A store that grew by moves: no node went away, and only identities from `b` on came to be listed
by a node that did not list them. -/
structure Grown (may : Store → NodeId → NodeId → Prop) (b : Nat) (s s' : Store) : Prop where
  moves : Moves may s s'
  alive : ∀ {n}, s.alive n → s'.alive n
  owns : ∀ {p n}, s'.Owns p n → s.Owns p n ∨ b ≤ n

theorem Grown.refl (s : Store) : Grown may b s s := ⟨.refl, id, .inl⟩

theorem Grown.trans (h : Grown may b s s') (h' : Grown may b' s' s'') (hb : b ≤ b') :
    Grown may b s s'' where
  moves := h.moves.trans h'.moves
  alive hn := h'.alive (h.alive hn)
  owns hn := by
    rcases h'.owns hn with hn | hn
    · exact h.owns hn
    · exact .inr (Nat.le_trans hb hn)

theorem grown_add (s : Store) (q : Payload) (b : Nat) : Grown may b s (s.add q).2 where
  moves := .single (.add q)
  alive hn := (Store.alive_add q).mpr (.inl hn)
  owns h := .inl (by rwa [Store.Owns, Store.childList_add] at h)

theorem grown_write (s : Store) (n : NodeId) (what : PayloadWrite) (b : Nat) :
    Grown may b s (s.edit n what.apply) where
  moves := .single (.write n what)
  alive hn := by rwa [Store.alive_edit]
  owns h := .inl (by rwa [Store.Owns, Store.childList_edit] at h)

namespace Document

open Markup (Target)

variable {defs : List (String × Target)} {lenient : Bool} {depth : Nat}

/-- What is asked of `may` for reading: a node that nobody lists may be put anywhere. -/
def AllowsUnlisted (may : Store → NodeId → NodeId → Prop) : Prop :=
  ∀ s t n, s.owners n = [] → may s t n

theorem grown_adopt {parent c : NodeId} (hmay : AllowsUnlisted may) (hp : s.alive parent)
    (hc : s.alive c) (hnew : s.owners c = []) (hb : b ≤ c) (h : adopt s parent c = .ok s') :
    Grown may b s s' := by
  have hins : s.insert .last parent c = .ok s' := mapError_eq_ok_iff.mp h
  obtain ⟨t, i, hslot, hcheck, rfl⟩ := Store.insert_eq_ok_iff.mp hins
  have ht := Store.alive_of_slot? hp hslot
  have hi := Store.slot?_le_length hslot
  refine ⟨.single (.put ht hc hi hcheck (hmay _ _ _ hnew)), ?_, ?_⟩
  · intro n hn
    rwa [Store.putAt, Store.alive_link]
  · intro p n hown
    rcases (Store.owns_putAt_iff ht hi).mp hown with hold | ⟨-, rfl⟩
    · exact .inl hold
    · exact .inr hb

/-- A node that is listed neither before nor anew is listed by nobody. -/
theorem owners_eq_nil_of_grown (hs : s.Sound) (h : Grown may (s.size + 1) s s') :
    s'.owners s.size = [] := by
  refine Store.owners_eq_nil_iff.mpr fun p hp => ?_
  rcases h.owns hp with hold | hge
  · exact s.not_alive_size (hs.alive_of_owns hold)
  · omega

/-- What building the nodes of one part does: it grows the store, and the part's own node is the
first of the new identities. -/
def BuildSpec (may : Store → NodeId → NodeId → Prop) (s : Store) (r : Option NodeId × Store) : Prop :=
  Grown may (s.size + 1) s r.2 ∧ ∀ n, r.1 = some n → n = s.size ∧ r.2.alive n

theorem buildSpec_embedded {r : Option NodeId × Store} (h : embedded lenient s = .ok r) :
    BuildSpec may s r := by
  unfold embedded at h
  split at h
  · cases h
    exact ⟨.refl s, fun n hn => by cases hn⟩
  · cases h

mutual

theorem build_spec (hmay : AllowsUnlisted may) (m : Markup) (depth : Nat) {s : Store}
    {r : Option NodeId × Store} (hs : s.Sound) (h : build defs lenient depth m s = .ok r) :
    BuildSpec may s r := by
  cases m with
  | leaf part =>
    rw [build] at h
    cases hp : leafPayload defs part with
    | none =>
      rw [hp] at h
      exact buildSpec_embedded h
    | some p =>
      rw [hp] at h
      cases h
      refine ⟨grown_add s _ _, ?_⟩
      intro n hn
      cases hn
      exact ⟨rfl, (Store.alive_add _).mpr (.inr rfl)⟩
  | node part inside =>
    rw [build] at h
    cases hp : containerPayload defs part with
    | none =>
      rw [hp] at h
      exact buildSpec_embedded h
    | some p =>
      rw [hp] at h
      obtain ⟨⟨text, s₁⟩, hall, hr⟩ := bind_eq_ok_iff.mp h
      cases hr
      have hroot : (s.add { p with tabDepth := depth }).2.alive s.size :=
        (Store.alive_add _).mpr (.inr rfl)
      have hbelow := buildAll_grown hmay inside (hs.add _) hroot hall
      rw [Store.size_add] at hbelow
      have hgrown : Grown may (s.size + 1) s s₁ :=
        (grown_add s { p with tabDepth := depth } _).trans hbelow (Nat.le_refl _)
      refine ⟨hgrown.trans (grown_write s₁ s.size (.text text) _) (Nat.le_refl _), ?_⟩
      intro n hn
      cases hn
      refine ⟨rfl, ?_⟩
      rw [Store.alive_edit]
      exact hbelow.alive hroot

theorem buildAll_grown (hmay : AllowsUnlisted may) (ms : List Markup) {depth : Nat}
    {parent : NodeId} {text : String} {s : Store} {r : String × Store} (hs : s.Sound)
    (hp : s.alive parent) (h : buildAll defs lenient depth parent text ms s = .ok r) :
    Grown may s.size s r.2 := by
  cases ms with
  | nil =>
    rw [buildAll] at h
    cases h
    exact .refl s
  | cons m rest =>
    rw [buildAll] at h
    obtain ⟨⟨child, s₁⟩, hm, h⟩ := bind_eq_ok_iff.mp h
    obtain ⟨hg, hroot⟩ := build_spec hmay m depth hs hm
    have hs₁ := hg.moves.sound hs
    have hg₁ : Grown may s.size s s₁ :=
      ⟨hg.moves, hg.alive, fun hn => (hg.owns hn).imp_right (by omega)⟩
    cases child with
    | none =>
      have hrest := buildAll_grown hmay rest hs₁ (hg₁.alive hp) h
      exact hg₁.trans hrest hg₁.moves.size_le
    | some c =>
      -- `c` is the first identity that building `m` gave out, so nobody listed it before; and
      -- building `m` listed later ones only
      obtain ⟨rfl, hc⟩ := hroot c rfl
      obtain ⟨s₂, had, h⟩ := bind_eq_ok_iff.mp h
      have hadopt := grown_adopt hmay (hg₁.alive hp) hc (owners_eq_nil_of_grown hs hg)
        (Nat.le_refl s.size) had
      have hg₂ := hg₁.trans hadopt (Nat.le_refl _)
      have hrest := buildAll_grown hmay rest (hg₂.moves.sound hs) (hg₂.alive hp) h
      exact hg₂.trans hrest hg₂.moves.size_le

end

/-- Reading a document moves the store, and the document's node is there afterwards. -/
theorem read_grown (hmay : AllowsUnlisted may) {m : Markup} {n : NodeId} (hs : s.Sound)
    (h : read lenient m s = .ok (n, s')) : Grown may s.size s s' ∧ s'.alive n := by
  obtain ⟨⟨root, s₁⟩, hm, h⟩ := bind_eq_ok_iff.mp h
  obtain ⟨hg, hroot⟩ := build_spec hmay m 0 hs hm
  cases root with
  | none => cases h
  | some c =>
    cases h
    exact ⟨⟨hg.moves, hg.alive, fun hn => (hg.owns hn).imp_right (by omega)⟩, (hroot n rfl).2⟩

end Document

end MarkTree
