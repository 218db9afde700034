import MarkTree.Proofs.Session.Placeholders
import MarkTree.Proofs.Store.Misses

/-!
# Looking further after a miss

Whoever holds a placeholder can look further from it. What is found then is held under the same name here,
so that a chain of lookups is a run of steps on that name (`Further.step`). Nothing but placeholders comes of
it: the name goes on standing for a placeholder or for an empty sequence, unless a search takes the
placeholder itself in, and then for a sequence of one placeholder (`Missed`). Every step of a chain keeps
this (`Sound.step_further`), and so does the chain (`misses_after`).
-/

namespace MarkTree.Session

/-- A lookup from what a name stands for. -/
inductive Further
  | query (question : Query)
  | parent
  | lookup (question : Lookup)
  | pick (index : Nat)
  | filter (kind : Kind)
  | exclude (kind : Kind)
deriving DecidableEq, Repr

/-- What the lookup finds takes over the name. -/
def Further.step (name : String) : Further → Step
  | .query question => .nodes (.query name question) (some name)
  | .parent => .node (.parent name) (some name)
  | .lookup question => .node (.lookup name question) (some name)
  | .pick index => .node (.pick name index) (some name)
  | .filter kind => .nodes (.filter name kind) (some name)
  | .exclude kind => .nodes (.exclude name kind) (some name)

/-- A search that takes a node of no kind in, and with it a placeholder from which it starts. -/
def Further.TakesIn (f : Further) : Prop := f = .query (.search .any) ∨ f = .query (.search .unset)

variable {ses ses' : Session} {s s' : Store} {h : Holding} {name : String} {n : NodeId}
variable {included included' : Prop}

/-- What a name can stand for after a miss; `included` tells whether a search took a placeholder in. -/
inductive Missed (s : Store) (included : Prop) : Holding → Prop
  | one {n : NodeId} (hp : s.isPlaceholder n = true) : Missed s included (.one n)
  | none : Missed s included (.many [])
  | itself {n : NodeId} (hp : s.isPlaceholder n = true) (hi : included) : Missed s included (.many [n])

namespace Missed

theorem isPlaceholder (hm : Missed s included h) (hn : n ∈ h.nodes) : s.isPlaceholder n = true := by
  cases hm with
  | one hp => rwa [List.mem_singleton.mp hn]
  | none => exact absurd hn List.not_mem_nil
  | itself hp hi => rwa [List.mem_singleton.mp hn]

/-- It is enough that the nodes stay placeholders, whatever else changes. -/
theorem mono (hm : Missed s included h) (hi : included → included')
    (hp : ∀ n ∈ h.nodes, s.isPlaceholder n = true → s'.isPlaceholder n = true) :
    Missed s' included' h := by
  cases hm with
  | one hn => exact .one (hp _ List.mem_cons_self hn)
  | none => exact .none
  | itself hn hincluded => exact .itself (hp _ List.mem_cons_self hn) (hi hincluded)

theorem weaken (hm : Missed s included h) (hi : included → included') : Missed s included' h :=
  hm.mono hi fun _ _ => id

theorem sublist {ns ns' : List NodeId} (hm : Missed s included (.many ns)) (hsub : ns'.Sublist ns) :
    Missed s included (.many ns') := by
  cases hm with
  | none =>
    rw [List.eq_nil_of_sublist_nil hsub]
    exact .none
  | itself hp hi =>
    rcases List.sublist_singleton.mp hsub with rfl | rfl
    · exact .none
    · exact .itself hp hi

/-! ## What is found from there -/

theorem orPlaceholder {found : Option NodeId} (h : ∀ m, found = some m → s.isPlaceholder m = true) :
    Missed (s.orPlaceholder found).2 included (.one (s.orPlaceholder found).1) := by
  cases found with
  | none =>
    have hnew : (s.add { placeholder := true }).2.payload s.size = { placeholder := true } := by
      rw [Store.payload_add, if_pos rfl]
    exact .one (congrArg Payload.placeholder hnew)
  | some m => exact .one (h m rfl)

theorem lookup (ha : s.Apart) (hm : Missed s included (.one n)) (q : Lookup) :
    let r := s.orPlaceholder (s.lookup? n q)
    Missed r.2 included (.one r.1) := by
  intro r
  refine orPlaceholder fun m hfound => ?_
  rw [ha.lookup?_of_placeholder (hm.isPlaceholder List.mem_cons_self)] at hfound
  cases hfound

theorem pick {ns : List NodeId} (hm : Missed s included (.many ns)) (i : Nat) :
    let r := s.orPlaceholder ns[i]?
    Missed r.2 included (.one r.1) := by
  intro r
  exact orPlaceholder fun m hfound => hm.isPlaceholder (List.mem_of_getElem? hfound)

theorem query (ha : s.Apart) (hb : s.Blank) (hm : Missed s included (.one n)) (q : Query) :
    Missed s (included ∨ q = .search .any ∨ q = .search .unset) (.many (s.query n q)) := by
  have hp := hm.isPlaceholder List.mem_cons_self
  rw [ha.query_of_placeholder hb hp]
  split
  · exact .itself hp (.inr ‹_›)
  · exact .none

theorem filter {ns : List NodeId} (hm : Missed s included (.many ns)) (k : Kind) :
    Missed s included (.many (s.filter k ns)) := hm.sublist List.filter_sublist

theorem exclude {ns : List NodeId} (hm : Missed s included (.many ns)) (k : Kind) :
    Missed s included (.many (s.exclude k ns)) := by
  rw [Store.exclude]
  split
  · exact hm.sublist (List.nil_sublist ns)
  · exact hm.sublist List.filter_sublist

end Missed

/-! ## Names -/

theorem holding_of_node (h : ses.node name = .ok n) : ses.holding name = .ok (.one n) := by
  obtain ⟨_ | _, hh, h⟩ := bind_eq_ok_iff.mp h
  · cases h
    exact hh
  · cases h

theorem holding_of_nodes {ns : List NodeId} (h : ses.nodes name = .ok ns) :
    ses.holding name = .ok (.many ns) := by
  obtain ⟨_ | _, hh, h⟩ := bind_eq_ok_iff.mp h
  · cases h
  · cases h
    exact hh

theorem node_of_holding (h : ses.holding name = .ok (.one n)) : ses.node name = .ok n := by
  rw [node, h]
  rfl

theorem nodes_of_holding {ns : List NodeId} (h : ses.holding name = .ok (.many ns)) :
    ses.nodes name = .ok ns := by
  rw [nodes, h]
  rfl

theorem holding_hold (ses : Session) (name : String) (h : Holding) :
    (ses.hold (some name) h).holding name = .ok h := by
  simp [holding, hold]

/-! ## One step -/

namespace Missed

/-- A step that finds none leaves the name to what it stood for. -/
theorem of_oneNode {q : NodeStep} {a : Answer} (hh : ses.holding name = .ok h)
    (hq : ∀ found s, ses.oneNode q = .ok (found, s) → Missed s included (found.elim h .one))
    (hperform : ses.perform (.node q (some name)) = .ok (ses', a)) :
    ∃ h', ses'.holding name = .ok h' ∧ Missed ses'.store included h' := by
  obtain ⟨⟨found, s⟩, hone, hrest⟩ := bind_eq_ok_iff.mp hperform
  have hmissed := hq found s hone
  cases found with
  | none =>
    cases hrest
    exact ⟨h, hh, hmissed⟩
  | some m =>
    cases hrest
    exact ⟨_, holding_hold _ _ _, hmissed⟩

theorem of_manyNodes {q : NodesStep} {a : Answer}
    (hq : ∀ ns, ses.manyNodes q = .ok ns → Missed ses.store included (.many ns))
    (hperform : ses.perform (.nodes q (some name)) = .ok (ses', a)) :
    ∃ h', ses'.holding name = .ok h' ∧ Missed ses'.store included h' := by
  obtain ⟨ns, hns, hrest⟩ := bind_eq_ok_iff.mp hperform
  cases hrest
  refine ⟨_, holding_hold _ _ _, ?_⟩
  rw [store_hold]
  exact hq ns hns

theorem perform (ha : ses.store.Apart) (hb : ses.store.Blank) (hh : ses.holding name = .ok h)
    (hm : Missed ses.store included h) (f : Further) {a : Answer}
    (hperform : ses.perform (f.step name) = .ok (ses', a)) :
    ∃ h', ses'.holding name = .ok h' ∧ Missed ses'.store (included ∨ f.TakesIn) h' := by
  have hone : ∀ {n}, ses.nodeFor name = .ok n → h = .one n := fun hn =>
    Except.ok.inj (hh.symm.trans (holding_of_node (nodeFor_eq_ok_iff.mp hn)))
  have hmany : ∀ {ns}, ses.nodesFor name = .ok ns → h = .many ns := fun hns =>
    Except.ok.inj (hh.symm.trans (holding_of_nodes (nodesFor_eq_ok_iff.mp hns)))
  cases f with
  | query q =>
    refine of_manyNodes (fun ns hns => ?_) hperform
    obtain ⟨n, hn, he⟩ := bind_eq_ok_iff.mp hns
    cases he
    obtain rfl := hone hn
    exact (hm.query ha hb q).weaken (Or.imp_right (Or.imp (congrArg _) (congrArg _)))
  | filter k =>
    refine of_manyNodes (fun ns hns => ?_) hperform
    obtain ⟨ns', hns', he⟩ := bind_eq_ok_iff.mp hns
    cases he
    obtain rfl := hmany hns'
    exact (hm.filter k).weaken .inl
  | exclude k =>
    refine of_manyNodes (fun ns hns => ?_) hperform
    obtain ⟨ns', hns', he⟩ := bind_eq_ok_iff.mp hns
    cases he
    obtain rfl := hmany hns'
    exact (hm.exclude k).weaken .inl
  | parent =>
    refine of_oneNode hh (fun found s hfound => ?_) hperform
    obtain ⟨n, hn, he⟩ := bind_eq_ok_iff.mp hfound
    cases he
    obtain rfl := hone hn
    rw [ha.parent?_eq_none (hm.isPlaceholder List.mem_cons_self)]
    exact hm.weaken .inl
  | lookup q =>
    refine of_oneNode hh (fun found s hfound => ?_) hperform
    obtain ⟨n, hn, he⟩ := bind_eq_ok_iff.mp hfound
    cases he
    obtain rfl := hone hn
    exact (hm.lookup ha q).weaken .inl
  | pick i =>
    refine of_oneNode hh (fun found s hfound => ?_) hperform
    obtain ⟨ns, hns, he⟩ := bind_eq_ok_iff.mp hfound
    cases he
    obtain rfl := hmany hns
    exact (hm.pick i).weaken .inl

end Missed

/-- A placeholder that a name keeps outlasts the step. -/
theorem Missed.settle (hm : Missed ses.store included h) (hh : ses.holding name = .ok h)
    (hheld : ∀ n ∈ ses.held, ses.store.alive n) : Missed ses.settle.store included h := by
  refine hm.mono id fun n hn hp => ?_
  have hkept : n ∈ ses.held := mem_held_of_holding hh hn
  have hthere : ses.settle.store.alive n := alive_settle hkept (hheld n hkept)
  have hsame : ses.settle.store.isPlaceholder n = ses.store.isPlaceholder n :=
    Store.isPlaceholder_congr (Store.payload_reclaim_of_alive hthere)
  exact hsame.trans hp

theorem Sound.step_further (hs : ses.Sound) (ha : ses.store.Apart) (hb : ses.store.Blank)
    (hh : ses.holding name = .ok h) (hm : Missed ses.store included h) (f : Further) :
    ∃ h', (ses.step (f.step name)).1.holding name = .ok h' ∧
      Missed (ses.step (f.step name)).1.store (included ∨ f.TakesIn) h' := by
  unfold step
  cases hperform : ses.perform (f.step name) with
  | error e => exact ⟨h, hh, (hm.settle hh fun _ => hs.alive_of_held).weaken .inl⟩
  | ok r =>
    obtain ⟨ses', a⟩ := r
    obtain ⟨h', hh', hm'⟩ := hm.perform ha hb hh f hperform
    obtain ⟨-, hheld⟩ : Store.Moves (fun _ _ _ => True) ses.store ses'.store ∧ _ :=
      hs.perform_moves (fun _ _ _ _ => trivial) (fun _ _ => trivial) hperform
    exact ⟨h', hh', hm'.settle hh' hheld⟩

/-! ## Chains of lookups -/

theorem Further.makesBlank (f : Further) (name : String) : (f.step name).MakesBlank := by
  cases f <;> exact fun p hp => absurd hp (by simp [Further.step, Step.made?])

theorem Sound.after_further (hs : ses.Sound) (ha : ses.store.Apart) (hb : ses.store.Blank)
    (hh : ses.holding name = .ok h) (hm : Missed ses.store included h) (chain : List Further) :
    ∃ h', (ses.after (chain.map (Further.step name))).holding name = .ok h' ∧
      Missed (ses.after (chain.map (Further.step name))).store (included ∨ ∃ f ∈ chain, f.TakesIn) h' := by
  induction chain generalizing ses h included with
  | nil => exact ⟨h, hh, hm.weaken .inl⟩
  | cons f rest ih =>
    obtain ⟨h', hh', hm'⟩ := hs.step_further ha hb hh hm f
    obtain ⟨h'', hh'', hm''⟩ := ih (hs.moves_after [f.step name]).2 (hs.apart_after ha [f.step name])
      (hs.blank_step hb (f.makesBlank name)) hh' hm'
    refine ⟨h'', hh'', hm''.weaken ?_⟩
    rintro ((hi | hf) | ⟨g, hg, htakes⟩)
    · exact .inl hi
    · exact .inr ⟨f, List.mem_cons_self, hf⟩
    · exact .inr ⟨g, List.mem_cons_of_mem f hg, htakes⟩

/-- If no step makes a placeholder with contents, a placeholder has no parent after the run, a lookup of one
node from it finds none, and every question about it is answered by nothing, but for a search that takes it
in: such a search gives the placeholder alone. Nor does anything else lead to a placeholder. So whatever is
looked up from a placeholder, and from what was found there, the name stands for a placeholder, for nothing,
or, if a search took a placeholder in, for one placeholder alone. -/
theorem misses_after (sts : List Step) (h : ∀ st ∈ sts, st.MakesBlank) :
    let ses := after {} sts
    let s := ses.store
    (∀ n, s.isPlaceholder n = true →
      s.parent? n = none ∧ (∀ q, s.lookup? n q = none) ∧
        ∀ q, s.query n q = if q = .search .any ∨ q = .search .unset then [n] else []) ∧
    (∀ n m, s.isPlaceholder m = true →
      s.parent? n ≠ some m ∧ (∀ q, s.lookup? n q ≠ some m) ∧
        ∀ q, m ∈ s.query n q → m = n ∧ (q = .search .any ∨ q = .search .unset)) ∧
    ∀ (name : String) (n : NodeId) (chain : List Further), ses.node name = .ok n → s.isPlaceholder n = true →
      let ses' := ses.after (chain.map (Further.step name))
      (∃ m, ses'.node name = .ok m ∧ ses'.store.isPlaceholder m = true) ∨
      ses'.nodes name = .ok [] ∨
      ∃ m, ses'.nodes name = .ok [m] ∧ ses'.store.isPlaceholder m = true ∧
        (.query (.search .any) ∈ chain ∨ .query (.search .unset) ∈ chain) := by
  intro ses s
  have hs : ses.Sound := sound_after sts
  have ha : s.Apart := apart_after sts
  have hb : s.Blank := sound_empty.blank_after Store.blank_empty h
  refine ⟨fun n hp => ?_, fun n m hp => ⟨fun hm => ?_, fun q hm => ?_, fun q hm => ?_⟩,
    fun name n chain hn hp => ?_⟩
  · exact ⟨ha.parent?_eq_none hp, ha.lookup?_of_placeholder hp, ha.query_of_placeholder hb hp⟩
  · rw [(ha.ordinary_of_under hm).1] at hp
    cases hp
  · rw [ha.ordinary_of_lookup? hm] at hp
    cases hp
  · exact ha.search_of_mem_query hb hm hp
  · intro ses'
    have hmissed : Missed s False (.one n) := .one hp
    obtain ⟨h', hh', hm'⟩ := hs.after_further ha hb (holding_of_node hn) hmissed chain
    cases hm' with
    | one hm => exact .inl ⟨_, node_of_holding hh', hm⟩
    | none => exact .inr (.inl (nodes_of_holding hh'))
    | itself hm hi =>
      refine .inr (.inr ⟨_, nodes_of_holding hh', hm, ?_⟩)
      obtain ⟨f, hf, rfl | rfl⟩ := hi.resolve_left id
      · exact .inl hf
      · exact .inr hf

/-- A run whose lookup finds nothing. -/
def lost : List Step :=
  [.node (.create { kind := .document }) (some "a"), .node (.lookup "a" (.firstChild .any)) (some "p")]

theorem misses_after_lost :
    let ses := after {} lost
    let s := ses.store
    let chain : List Further := [.lookup (.nearest .after), .parent, .query (.siblings .any), .pick 3]
    let ses' := ses.after (chain.map (Further.step "p"))
    (∀ st ∈ lost, st.MakesBlank) ∧ s.isPlaceholder 1 = true ∧ ses.node "p" = .ok 1 ∧
      s.parent? 1 = none ∧ s.query 1 (.search .document) = [] ∧ 1 ∉ s.query 0 (.search .any) ∧
      ses'.node "p" = .ok 3 ∧ ses'.store.isPlaceholder 3 = true := by
  intro ses s chain ses'
  have hmade : ∀ st ∈ lost, st.MakesBlank := by decide +kernel
  have hp : s.isPlaceholder 1 = true := by decide +kernel
  have hname : ses.node "p" = .ok 1 := by decide +kernel
  have hend : ses'.node "p" = .ok 3 := by decide +kernel
  obtain ⟨hnothing, honly, hchain⟩ := misses_after lost hmade
  obtain ⟨hparent, -, hquery⟩ := hnothing 1 hp
  obtain ⟨-, -, hself⟩ := honly 0 1 hp
  refine ⟨hmade, hp, hname, hparent, hquery _, fun hm => ?_, hend, ?_⟩
  · exact absurd (hself _ hm).1 (by decide)
  · rcases hchain "p" 1 chain hname hp with ⟨m, hm, hpm⟩ | hm | ⟨m, -, -, hsearch⟩
    · obtain rfl := Except.ok.inj (hend.symm.trans hm)
      exact hpm
    · exact absurd hm (by decide +kernel)
    · exact absurd hsearch (by decide)

/-- A search that starts from a placeholder is not without a result. -/
theorem search_finds_placeholder :
    let s := (after {} lost).store
    s.isPlaceholder 1 = true ∧ s.query 1 (.search .any) = [1] ∧ s.query 1 (.search .unset) = [1] := by
  decide +kernel

end MarkTree.Session
