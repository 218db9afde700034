import MarkTree.Proofs.Document.Sketch
import MarkTree.Proofs.Store.Forest
import MarkTree.Proofs.Store.Reclaim

/-!
# Placeholders

A placeholder stands for a node that was not found. What it says is never written, and a node does not
turn into a placeholder nor back (`Move.isPlaceholder_eq`, `Move.payload_eq`).

Two nodes are joined if one lists the other or the other was put under the one. Only an insertion joins
two nodes, and its check lets no placeholder through (`Move.joined`). So placeholders are joined to nothing,
in either direction and throughout (`Apart.move`), and no question about any other node leads to one.
Reading a document makes none (`read_isPlaceholder`).
-/

namespace MarkTree

namespace Store

variable {s s' : Store} {n m p t : NodeId} {i : Nat} {may : Store → NodeId → NodeId → Prop}

/-! ## Payloads of a changed store -/

theorem alive_of_isPlaceholder (h : s.isPlaceholder n = true) : s.alive n := by
  by_contra hn
  simp [isPlaceholder, payload, get?_eq_none_of_not_alive hn] at h

theorem payload_add (s : Store) (q : Payload) (n : NodeId) :
    (s.add q).2.payload n = if n = s.size then q else s.payload n := by
  rw [payload, get?_add]
  split <;> rfl

theorem payload_edit_of_placeholder (h : s.isPlaceholder n = true) (m : NodeId)
    (f : Payload → Payload) : (s.edit m f).payload n = s.payload n := by
  obtain ⟨cell, hc⟩ := alive_iff.mp (alive_of_isPlaceholder h)
  have hflag : cell.payload.placeholder = true := by simpa [isPlaceholder, payload, hc] using h
  rw [payload, payload, edit, get?_modify, hc]
  split
  · simp [hflag]
  · rfl

theorem placeholder_apply (what : PayloadWrite) (q : Payload) :
    (what.apply q).placeholder = q.placeholder := by
  cases what <;> rfl

/-- What is read from a payload and not written stays. -/
theorem read_edit {α : Type} {f : Payload → α} {g : Payload → Payload} (hf : ∀ q, f (g q) = f q)
    (s : Store) (m n : NodeId) : f ((s.edit m g).payload n) = f (s.payload n) := by
  have hread : ∀ s : Store, f (s.payload n) = (s.get? n).elim (f {}) fun c => f c.payload :=
    fun s => by
      rw [payload]
      cases s.get? n <;> rfl
  rw [hread, hread]
  refine get?_elim_modify (fun c => ?_) s m n
  split
  · rfl
  · exact hf c.payload

theorem isPlaceholder_edit (s : Store) (m : NodeId) (what : PayloadWrite) (n : NodeId) :
    (s.edit m what.apply).isPlaceholder n = s.isPlaceholder n :=
  s.read_edit (placeholder_apply what) m n

theorem payload_link (s : Store) (t n : NodeId) (f : List NodeId → List NodeId) (m : NodeId) :
    (s.link t n f).payload m = s.payload m := by
  rw [link_eq, payload_relist, payload_relink]

theorem payload_sweep_of_alive {held : List NodeId} (h : (s.sweep held).alive n) :
    (s.sweep held).payload n = s.payload n := by
  rw [payload, payload, get?_sweep_of_alive h]

theorem payload_reclaim_of_alive {held : List NodeId} (h : (s.reclaim held).alive n) :
    (s.reclaim held).payload n = s.payload n := by
  rw [payload, payload, get?_reclaim_of_alive h]

theorem isPlaceholder_congr (h : s'.payload n = s.payload n) :
    s'.isPlaceholder n = s.isPlaceholder n := congrArg Payload.placeholder h

/-! ## Placeholders stay as they are -/

/-- What no write changes stays for as long as the node does. -/
theorem Move.read_eq {α : Type} {f : Payload → α} (hf : ∀ (what : PayloadWrite) q, f (what.apply q) = f q)
    (h : Move may s s') (hn : n < s.size) (ha : s'.alive n) : f (s'.payload n) = f (s.payload n) := by
  cases h with
  | add q => rw [payload_add, if_neg (Nat.ne_of_lt hn)]
  | write m what => exact s.read_edit (hf what) m n
  | put ht hm hi hc _ => exact congrArg f (s.payload_link _ _ _ n)
  | cut p hf => exact congrArg f (s.payload_relist p _ n)
  | sweep held => exact congrArg f (payload_sweep_of_alive ha)

/-- A node that stays is a placeholder or not, as it was. -/
theorem Move.isPlaceholder_eq (h : Move may s s') (hn : n < s.size) (ha : s'.alive n) :
    s'.isPlaceholder n = s.isPlaceholder n := h.read_eq placeholder_apply hn ha

/-- A placeholder that stays says what it said. -/
theorem Move.payload_eq (h : Move may s s') (hp : s.isPlaceholder n = true) (ha : s'.alive n) :
    s'.payload n = s.payload n := by
  cases h with
  | add q =>
    have hn := lt_size_of_alive (alive_of_isPlaceholder hp)
    rw [payload_add, if_neg (Nat.ne_of_lt hn)]
  | write m what => exact payload_edit_of_placeholder hp m _
  | put ht hm hi hc _ => exact s.payload_link _ _ _ n
  | cut p hf => exact s.payload_relist p _ n
  | sweep held => exact payload_sweep_of_alive ha

/-- A node that is there before and after was there all the time. -/
theorem Moves.alive_of_alive {s'' : Store} (hfirst : Moves may s s') (hlast : Moves may s' s'')
    (hn : n < s.size) (ha : s''.alive n) : s'.alive n := by
  by_contra hgone
  exact (hlast.gone ⟨Nat.lt_of_lt_of_le hn hfirst.size_le, hgone⟩).2 ha

theorem Moves.read_eq {α : Type} {f : Payload → α} (hf : ∀ (what : PayloadWrite) q, f (what.apply q) = f q)
    (h : Moves may s s') (hn : n < s.size) (ha : s'.alive n) : f (s'.payload n) = f (s.payload n) := by
  induction h with
  | refl => rfl
  | tail hmoves hmove ih =>
    have hmid := Moves.alive_of_alive hmoves (.single hmove) hn ha
    rw [hmove.read_eq hf (Nat.lt_of_lt_of_le hn (Moves.size_le hmoves)) ha, ih hmid]

theorem Moves.isPlaceholder_eq (h : Moves may s s') (hn : n < s.size) (ha : s'.alive n) :
    s'.isPlaceholder n = s.isPlaceholder n := h.read_eq placeholder_apply hn ha

theorem Moves.payload_eq (h : Moves may s s') (hp : s.isPlaceholder n = true) (ha : s'.alive n) :
    s'.payload n = s.payload n := by
  have hn := lt_size_of_alive (alive_of_isPlaceholder hp)
  induction h with
  | refl => rfl
  | tail hmoves hmove ih =>
    have hmid := Moves.alive_of_alive hmoves (.single hmove) hn ha
    have hstill := (Moves.isPlaceholder_eq hmoves hn hmid).trans hp
    rw [hmove.payload_eq hstill ha, ih hmid]

/-- A placeholder among the nodes that were there before says what it said. -/
theorem Moves.payload_eq_of_isPlaceholder (h : Moves may s s') (hn : n < s.size)
    (hp : s'.isPlaceholder n = true) : s'.payload n = s.payload n := by
  have ha := alive_of_isPlaceholder hp
  exact h.payload_eq ((h.isPlaceholder_eq hn ha).symm.trans hp) ha

/-- Every placeholder is without contents. -/
def Blank (s : Store) : Prop := ∀ n, s.isPlaceholder n = true → s.payload n = { placeholder := true }

theorem blank_empty : Blank {} := fun n hn => absurd (alive_of_isPlaceholder hn) (not_alive_empty n)

theorem Blank.of_payload_eq (hb : s.Blank)
    (h : ∀ n, s'.isPlaceholder n = true → s'.payload n = s.payload n) : s'.Blank := fun n hn =>
  (h n hn).trans (hb n ((isPlaceholder_congr (h n hn)).symm.trans hn))

theorem Blank.add (hb : s.Blank) {q : Payload} (hq : q.placeholder = true → q = { placeholder := true }) :
    (s.add q).2.Blank := by
  intro n hn
  rw [isPlaceholder] at hn
  rw [payload_add] at hn ⊢
  split at hn
  · rename_i he
    rw [if_pos he]
    exact hq hn
  · rename_i hne
    rw [if_neg hne]
    exact hb n hn

theorem Blank.reclaim (hb : s.Blank) (held : List NodeId) : (s.reclaim held).Blank :=
  hb.of_payload_eq fun _ hn => payload_reclaim_of_alive (alive_of_isPlaceholder hn)

/-! ## Placeholders stand apart -/

/-- The first node lists the second, or the second was put under the first. -/
def Joined (s : Store) (p n : NodeId) : Prop := s.Owns p n ∨ s.under? n = some p

/-- What is joined is no placeholder, on either side. -/
def Apart (s : Store) : Prop :=
  ∀ {p n}, s.Joined p n → s.isPlaceholder p = false ∧ s.isPlaceholder n = false

theorem Sound.lt_size_of_joined (hs : s.Sound) (h : s.Joined p n) : p < s.size ∧ n < s.size := by
  rcases h with h | h
  · exact ⟨lt_size_of_owns h, lt_size_of_alive (hs.alive_of_owns h)⟩
  · exact ⟨hs.under_lt h, lt_size_of_alive (alive_of_under? h)⟩

/-- Two nodes come to be joined by a check that lets them through, and in no other way. -/
theorem Move.joined (h : Move may s s') (hj : s'.Joined p n) :
    s.Joined p n ∨ s.alive p ∧ s.alive n ∧ s.checkInsert p n = .ok () := by
  cases h with
  | add q => exact .inl (by rwa [Joined, Owns, childList_add, under?_add] at hj)
  | write m what => exact .inl (by rwa [Joined, Owns, childList_edit, under?_edit] at hj)
  | @put t m i ht hm hi hc _ =>
    rcases hj with hj | hj
    · rcases (owns_putAt_iff ht hi).mp hj with hj | ⟨rfl, rfl⟩
      · exact .inl (.inl hj)
      · exact .inr ⟨ht, hm, hc⟩
    · by_cases he : n = m
      · subst he
        rw [putAt, under?_link_self hm] at hj
        obtain rfl := Option.some.inj hj
        exact .inr ⟨ht, hm, hc⟩
      · rw [putAt, under?_link_of_ne he] at hj
        exact .inl (.inr hj)
  | cut p hf => exact .inl (hj.imp (owns_relist hf) fun hj => by rwa [under?_relist] at hj)
  | sweep held =>
    refine .inl (hj.imp owns_sweep fun hj => ?_)
    rwa [under?_sweep_of_alive (alive_of_under? hj)] at hj

theorem apart_empty : Apart {} := by
  rintro p n (h | h)
  · exact absurd (alive_of_mem_childList h) (not_alive_empty p)
  · exact absurd (alive_of_under? h) (not_alive_empty n)

theorem Apart.move (ha : s.Apart) (hs : s.Sound) (h : Move may s s') : s'.Apart := by
  intro p n hj
  have hstays : ∀ k, k < s.size → s.isPlaceholder k = false → s'.isPlaceholder k = false :=
    fun k hk hordinary => by
      by_contra hp
      rw [Bool.not_eq_false] at hp
      rw [h.isPlaceholder_eq hk (alive_of_isPlaceholder hp), hordinary] at hp
      cases hp
  rcases h.joined hj with hj | ⟨hp, hn, hcheck⟩
  · obtain ⟨hp, hn⟩ := hs.lt_size_of_joined hj
    exact ⟨hstays p hp (ha hj).1, hstays n hn (ha hj).2⟩
  · obtain ⟨⟨hpo, hno⟩, -⟩ := checkInsert_eq_ok_iff.mp hcheck
    exact ⟨hstays p (lt_size_of_alive hp) hpo, hstays n (lt_size_of_alive hn) hno⟩

namespace Apart

theorem ordinary_of_owns (ha : s.Apart) (h : s.Owns p n) :
    s.isPlaceholder p = false ∧ s.isPlaceholder n = false := ha (.inl h)

theorem ordinary_of_under (ha : s.Apart) (h : s.Under n p) :
    s.isPlaceholder p = false ∧ s.isPlaceholder n = false :=
  ha (.inr (parent?_eq_some_iff.mp h).1)

theorem not_owns (ha : s.Apart) (hp : s.isPlaceholder n = true) (m : NodeId) :
    ¬ s.Owns n m ∧ ¬ s.Owns m n := by
  refine ⟨fun h => ?_, fun h => ?_⟩
  · rw [(ha.ordinary_of_owns h).1] at hp
    cases hp
  · rw [(ha.ordinary_of_owns h).2] at hp
    cases hp

theorem childList_eq_nil (ha : s.Apart) (hp : s.isPlaceholder n = true) : s.childList n = [] :=
  List.eq_nil_iff_forall_not_mem.mpr fun m => (ha.not_owns hp m).1

theorem parent?_eq_none (ha : s.Apart) (hp : s.isPlaceholder n = true) : s.parent? n = none := by
  refine Option.eq_none_iff_forall_ne_some.mpr fun p h => ?_
  rw [(ha.ordinary_of_under h).2] at hp
  cases hp

/-- Whatever place is asked for, neither the node nor what it is put under is a placeholder, and nor is
the node that the place is seen from. -/
theorem ordinary_of_insert (ha : s.Apart) {place : Place} {on : NodeId}
    (h : s.insert place on n = .ok s') :
    s.isPlaceholder on = false ∧ s.isPlaceholder n = false ∧
      ∀ t, s.target? place on = some t → s.isPlaceholder t = false := by
  obtain ⟨t, i, hslot, hcheck, -⟩ := insert_eq_ok_iff.mp h
  obtain ⟨⟨ht, hn⟩, -⟩ := checkInsert_eq_ok_iff.mp hcheck
  refine ⟨?_, hn, fun t' ht' => ?_⟩
  · cases place with
    | last | first =>
      cases hslot
      exact ht
    | after =>
      obtain ⟨q, hq, -⟩ := Option.map_eq_some_iff.mp hslot
      exact (ha.ordinary_of_under (place?_eq_some_iff.mp hq).1).2
    | before => exact (ha.ordinary_of_under (place?_eq_some_iff.mp hslot).1).2
  · rw [target?_eq_some_iff.mpr ⟨i, hslot⟩] at ht'
    cases ht'
    exact ht

theorem ordinary_of_lookup? (ha : s.Apart) {q : Lookup} (h : s.lookup? n q = some m) :
    s.isPlaceholder m = false := by
  rcases path_of_lookup? h with hm | ⟨p, -, hm⟩
  · exact (ha.ordinary_of_owns hm).2
  · exact (ha.ordinary_of_owns hm).2

/-- A lookup that answers with a placeholder has made it. -/
theorem not_alive_of_orPlaceholder (ha : s.Apart) {q : Lookup} {r : NodeId × Store}
    (h : s.orPlaceholder (s.lookup? n q) = r) (hp : r.2.isPlaceholder r.1 = true) : ¬ s.alive r.1 := by
  subst h
  cases hq : s.lookup? n q with
  | none => exact s.not_alive_size
  | some m =>
    rw [hq, orPlaceholder, ha.ordinary_of_lookup? hq] at hp
    cases hp

end Apart

end Store

/-! ## Reading a document -/

namespace Document

open Markup (Target)

variable {defs : List (String × Target)} {lenient : Bool} {s s' : Store}

theorem placeholder_of_leafPayload {part : Leaf} {p : Payload} (h : leafPayload defs part = some p) :
    p.placeholder = false := by
  cases part <;> simp [leafPayload] at h <;> rw [← h]

/-- Adding the node of a part makes no placeholder. -/
theorem isPlaceholder_of_add {p : Payload} (hp : p.placeholder = false) {depth : Nat} {n : NodeId}
    (h : (s.add { p with tabDepth := depth }).2.isPlaceholder n = true) : s.isPlaceholder n = true := by
  rw [Store.isPlaceholder, Store.payload_add] at h
  split at h
  · rw [hp] at h
    cases h
  · exact h

mutual

theorem build_isPlaceholder (m : Markup) {depth : Nat} {s : Store} {r : Option NodeId × Store}
    (h : build defs lenient depth m s = .ok r) {n : NodeId} (hn : r.2.isPlaceholder n = true) :
    s.isPlaceholder n = true := by
  cases m with
  | leaf part =>
    rw [build] at h
    cases hp : leafPayload defs part with
    | none =>
      rw [hp] at h
      rwa [embedded_eq_ok h] at hn
    | some p =>
      rw [hp] at h
      cases h
      exact isPlaceholder_of_add (placeholder_of_leafPayload hp) hn
  | node part inside =>
    rw [build] at h
    cases hp : containerPayload defs part with
    | none =>
      rw [hp] at h
      rwa [embedded_eq_ok h] at hn
    | some p =>
      rw [hp] at h
      obtain ⟨⟨text, s₁⟩, hall, hr⟩ := bind_eq_ok_iff.mp h
      cases hr
      have hbelow := (s₁.isPlaceholder_edit s.size (.text text) n).symm.trans hn
      exact isPlaceholder_of_add (placeholder_of_containerPayload hp)
        (buildAll_isPlaceholder inside hall hbelow)

theorem buildAll_isPlaceholder (ms : List Markup) {depth : Nat} {parent : NodeId} {text : String}
    {s : Store} {r : String × Store} (h : buildAll defs lenient depth parent text ms s = .ok r)
    {n : NodeId} (hn : r.2.isPlaceholder n = true) : s.isPlaceholder n = true := by
  cases ms with
  | nil =>
    rw [buildAll] at h
    cases h
    exact hn
  | cons m rest =>
    rw [buildAll] at h
    obtain ⟨⟨child, s₁⟩, hm, h⟩ := bind_eq_ok_iff.mp h
    cases child with
    | none => exact build_isPlaceholder m hm (buildAll_isPlaceholder rest h hn)
    | some c =>
      obtain ⟨s₂, had, h⟩ := bind_eq_ok_iff.mp h
      have hrest := buildAll_isPlaceholder rest h hn
      rw [eq_link_of_adopt had, Store.isPlaceholder_congr (s₁.payload_link _ _ _ n)] at hrest
      exact build_isPlaceholder m hm hrest

end

/-- Reading a document makes no placeholder. -/
theorem read_isPlaceholder {m : Markup} {root n : NodeId} (h : read lenient m s = .ok (root, s'))
    (hn : s'.isPlaceholder n = true) : s.isPlaceholder n = true := by
  obtain ⟨⟨child, s₁⟩, hm, h⟩ := bind_eq_ok_iff.mp h
  cases child with
  | none => cases h
  | some c =>
    cases h
    exact build_isPlaceholder m hm hn

end Document

end MarkTree
