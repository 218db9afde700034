import MarkTree.Proofs.Document.Growth
import MarkTree.Proofs.Store.Answers
import MarkTree.Session.Step

/-!
# Runs of a session

A run is any list of steps from the empty session. Each step moves the store, whatever it does and
whether or not it succeeds, and afterwards every node that a name keeps is there. So whatever moves
keep holds after every run.

Some properties hold only of runs that keep a promise about what they insert. `Session.insertion?`
tells which node a step puts under which other one, and `Session.Heeds` asks of every insertion of a
run that a condition `may` allows it; an insertion that is refused inserts nothing and need not be
allowed.

* `Store.move_of_apply`: a change of a store that is carried out is a move.
* `Session.Sound.step_moves`, `Session.Sound.after_moves`: a step, and a run, in terms of moves.
-/

namespace MarkTree

open Store (Moves Move)

namespace Store

variable {s s' : Store} {n : NodeId} {may : Store → NodeId → NodeId → Prop}

/-- A change of a store that is carried out is a move. -/
theorem move_of_apply {c : Change NodeId}
    (hput : ∀ place on n, c = .insert place on n → s.alive on ∧ s.alive n ∧
      ∀ t i, s.slot? place on = some (t, i) → may s t n)
    (h : s.apply c = .ok s') : Move may s s' := by
  cases c with
  | write on what =>
    cases h
    exact .write on what
  | insert place on n =>
    obtain ⟨hon, hn, hmay⟩ := hput place on n rfl
    obtain ⟨t, i, hslot, hcheck, rfl⟩ := insert_eq_ok_iff.mp h
    exact .put (alive_of_slot? hon hslot) hn (slot?_le_length hslot) hcheck (hmay t i hslot)
  | remove on =>
    obtain ⟨p, i, -, rfl⟩ := remove_eq_ok_iff.mp h
    exact .cut p (List.eraseIdx_sublist _ _)
  | clear on =>
    cases h
    exact .cut on (f := fun _ => []) (List.nil_sublist _)

theorem alive_of_apply {c : Change NodeId} (h : s.apply c = .ok s') (hn : s.alive n) :
    s'.alive n := by
  cases c with
  | write on what =>
    cases h
    rwa [alive_edit]
  | insert place on m =>
    obtain ⟨t, i, -, -, rfl⟩ := insert_eq_ok_iff.mp h
    rwa [putAt, alive_link]
  | remove on =>
    obtain ⟨p, i, -, rfl⟩ := remove_eq_ok_iff.mp h
    rwa [alive_relist]
  | clear on =>
    cases h
    rwa [clear_eq, alive_relist]

theorem moves_sweepTimes (held : List NodeId) (rounds : Nat) (s : Store) :
    Moves may s (sweepTimes held rounds s) := by
  induction rounds generalizing s with
  | zero => exact .refl
  | succ rounds ih =>
    rw [sweepTimes]
    split
    · exact .head (.sweep held) (ih _)
    · exact .refl

theorem alive_sweepTimes {held : List NodeId} (hheld : n ∈ held) (rounds : Nat) (hn : s.alive n) :
    (sweepTimes held rounds s).alive n := by
  induction rounds generalizing s with
  | zero => exact hn
  | succ rounds ih =>
    rw [sweepTimes]
    split
    · exact ih (alive_sweep held |>.mpr ⟨hn, by simp [kept, hheld]⟩)
    · exact hn

end Store

namespace Session

variable {ses ses' : Session} {st : Step} {n : NodeId} {name : String}
variable {may : Store → NodeId → NodeId → Prop}

/-! ## Steps in a row -/

/-- The answers to the later steps of a run are those of the session that the earlier ones left. -/
theorem steps_append (ses : Session) (sts sts' : List Step) :
    ses.steps (sts ++ sts') = ses.steps sts ++ (ses.after sts).steps sts' := by
  induction sts generalizing ses with
  | nil => rfl
  | cons st rest ih =>
    rw [List.cons_append, steps, steps, after]
    simp only [ih, List.cons_append]

/-- A weaker condition is heeded as well. -/
theorem Heeds.mono {may' : Store → NodeId → NodeId → Prop} (hmay : ∀ s t n, may s t n → may' s t n)
    {sts : List Step} (h : ses.Heeds may sts) : ses.Heeds may' sts := by
  induction sts generalizing ses with
  | nil => trivial
  | cons st rest ih => exact ⟨fun q hq => hmay _ _ _ (h.1 q hq), ih h.2⟩

/-- A session whose store can be followed and whose names stand for nodes that are there. -/
structure Sound (ses : Session) : Prop where
  store : ses.store.Sound
  alive_of_held : ∀ {n}, n ∈ ses.held → ses.store.alive n

/-! ## Names -/

theorem mem_held_of_holding {h : Holding} (hh : ses.holding name = .ok h) (hn : n ∈ h.nodes) :
    n ∈ ses.held := by
  unfold holding at hh
  split at hh
  · rename_i h' hl
    cases hh
    obtain ⟨l₁, l₂, hsplit, -⟩ := List.lookup_eq_some_iff.mp hl
    exact List.mem_flatMap.mpr ⟨(name, h), by simp [hsplit], hn⟩
  · cases hh

theorem mem_held_of_node (h : ses.node name = .ok n) : n ∈ ses.held := by
  obtain ⟨holding, hh, h⟩ := bind_eq_ok_iff.mp h
  cases holding with
  | one m =>
    cases h
    exact mem_held_of_holding hh List.mem_cons_self
  | many ms => cases h

theorem mem_held_of_nodes {ns : List NodeId} (h : ses.nodes name = .ok ns) (hn : n ∈ ns) :
    n ∈ ses.held := by
  obtain ⟨holding, hh, h⟩ := bind_eq_ok_iff.mp h
  cases holding with
  | one m => cases h
  | many ms =>
    cases h
    exact mem_held_of_holding hh hn

theorem mem_held_of_forget (h : n ∈ (ses.forget name).held) : n ∈ ses.held := by
  obtain ⟨e, he, hn⟩ := List.mem_flatMap.mp h
  exact List.mem_flatMap.mpr ⟨e, (List.mem_filter.mp he).1, hn⟩

theorem mem_held_of_hold {as : Option String} {h : Holding} (hn : n ∈ (ses.hold as h).held) :
    n ∈ h.nodes ∨ n ∈ ses.held := by
  cases as with
  | none => exact .inr hn
  | some name =>
    obtain ⟨e, he, hn⟩ := List.mem_flatMap.mp hn
    rcases List.mem_cons.mp he with rfl | he
    · exact .inl hn
    · exact .inr (mem_held_of_forget (List.mem_flatMap.mpr ⟨e, he, hn⟩))

theorem store_hold (as : Option String) (h : Holding) : (ses.hold as h).store = ses.store := by
  cases as <;> rfl

/-! ## One step -/

/-- What making or finding a node does: the store grows, and the node, if there is one, is there. -/
def Yields (may : Store → NodeId → NodeId → Prop) (s : Store) (r : Option NodeId × Store) : Prop :=
  Grown may s.size s r.2 ∧ ∀ n, r.1 = some n → r.2.alive n

theorem yields_some {s s' : Store} (hg : Grown may s.size s s') (hn : s'.alive n) :
    Yields may s (some n, s') := by
  refine ⟨hg, ?_⟩
  intro m hm
  cases hm
  exact hn

theorem nodeFor_eq_ok_iff : ses.nodeFor name = .ok n ↔ ses.node name = .ok n := mapError_eq_ok_iff

theorem nodesFor_eq_ok_iff {ns : List NodeId} :
    ses.nodesFor name = .ok ns ↔ ses.nodes name = .ok ns := mapError_eq_ok_iff

theorem Sound.alive_of_nodeFor (hs : ses.Sound) (h : ses.nodeFor name = .ok n) :
    ses.store.alive n :=
  hs.alive_of_held (mem_held_of_node (nodeFor_eq_ok_iff.mp h))

theorem Sound.alive_of_nodesFor (hs : ses.Sound) {ns : List NodeId}
    (h : ses.nodesFor name = .ok ns) (hn : n ∈ ns) : ses.store.alive n :=
  hs.alive_of_held (mem_held_of_nodes (nodesFor_eq_ok_iff.mp h) hn)

theorem Sound.yields_readInto (hs : ses.Sound) (hmay : Document.AllowsUnlisted may) {lenient : Bool}
    {m : Markup} {n : NodeId} {s : Store} (h : ses.readInto lenient m = .ok (n, s)) :
    Yields may ses.store (some n, s) := by
  obtain ⟨hg, hn⟩ := Document.read_grown hmay hs.store (mapError_eq_ok_iff.mp h)
  exact yields_some hg hn

/-- A lookup of one node finds one that is there, or adds a placeholder. -/
theorem orPlaceholder_cases {s : Store} {found : Option NodeId}
    (hfound : ∀ n, found = some n → s.alive n) :
    ((s.orPlaceholder found).2 = s ∧ ∀ n, some (s.orPlaceholder found).1 = some n → s.alive n) ∨
      (some (s.orPlaceholder found).1, (s.orPlaceholder found).2) =
        (some s.size, (s.add { placeholder := true }).2) := by
  cases found with
  | none => exact .inr rfl
  | some n => exact .inl ⟨rfl, hfound⟩

/-- Reading a text is reading its markup, with nothing left out. -/
theorem oneNode_parse (ses : Session) (text : String) :
    ses.oneNode (.parse text) = ses.oneNode (.read false (Markdown.parse .github text)) := rfl

theorem readInto_of_oneNode {lenient : Bool} {m : Markup} {r : Option NodeId × Store}
    (h : ses.oneNode (.read lenient m) = .ok r) :
    ∃ n s, ses.readInto lenient m = .ok (n, s) ∧ r = (some n, s) := by
  obtain ⟨⟨n, s⟩, hr, h⟩ := bind_eq_ok_iff.mp h
  cases h
  exact ⟨n, s, hr, rfl⟩

/-- What making or finding one node does: it changes nothing and finds a node that is there, or none; or
it adds a node, the one that is to be made or a placeholder; or it reads a document. -/
theorem Sound.oneNode_cases (hs : ses.Sound) {q : NodeStep} {r : Option NodeId × Store}
    (h : ses.oneNode q = .ok r) :
    (r.2 = ses.store ∧ ∀ n, r.1 = some n → ses.store.alive n) ∨
    (∃ p, (q = .create p ∨ p = { placeholder := true }) ∧
      r = (some ses.store.size, (ses.store.add p).2)) ∨
    ∃ lenient m n s, ses.readInto lenient m = .ok (n, s) ∧ r = (some n, s) := by
  cases q with
  | create p =>
    cases h
    exact .inr (.inl ⟨p, .inl rfl, rfl⟩)
  | again on =>
    obtain ⟨n, hn, h⟩ := bind_eq_ok_iff.mp h
    cases h
    refine .inl ⟨rfl, fun m hm => ?_⟩
    cases hm
    exact hs.alive_of_nodeFor hn
  | parse text =>
    rw [oneNode_parse] at h
    exact .inr (.inr ⟨_, _, readInto_of_oneNode h⟩)
  | read lenient markup => exact .inr (.inr ⟨_, _, readInto_of_oneNode h⟩)
  | found on =>
    obtain ⟨n, hn, h⟩ := bind_eq_ok_iff.mp h
    cases h
    refine .inl ⟨rfl, fun m hm => ?_⟩
    rw [Store.found?] at hm
    split at hm
    · cases hm
    · cases hm
      exact hs.alive_of_nodeFor hn
  | parent on =>
    obtain ⟨n, hn, h⟩ := bind_eq_ok_iff.mp h
    cases h
    exact .inl ⟨rfl, fun m hm => Store.parent?_alive hm⟩
  | lookup on question =>
    obtain ⟨n, hn, h⟩ := bind_eq_ok_iff.mp h
    cases h
    have hthere : ∀ n', ses.store.lookup? n question = some n' → ses.store.alive n' :=
      fun _ => hs.store.alive_of_lookup?
    exact (orPlaceholder_cases hthere).imp_right fun h => .inl ⟨_, .inr rfl, h⟩
  | pick on index =>
    obtain ⟨ns, hns, h⟩ := bind_eq_ok_iff.mp h
    cases h
    have hthere : ∀ n, ns[index]? = some n → ses.store.alive n := fun n hn =>
      hs.alive_of_nodesFor hns (List.mem_of_getElem? hn)
    exact (orPlaceholder_cases hthere).imp_right fun h => .inl ⟨_, .inr rfl, h⟩

/-- Making or finding one node grows the store, and the node is there. -/
theorem Sound.yields_oneNode (hs : ses.Sound) (hmay : Document.AllowsUnlisted may) {q : NodeStep}
    {r : Option NodeId × Store} (h : ses.oneNode q = .ok r) : Yields may ses.store r := by
  rcases hs.oneNode_cases h with ⟨hstore, hn⟩ | ⟨p, -, rfl⟩ | ⟨lenient, m, n, s, hr, rfl⟩
  · rw [Yields, hstore]
    exact ⟨.refl _, hn⟩
  · exact yields_some (grown_add _ _ _) ((Store.alive_add _).mpr (.inr rfl))
  · exact hs.yields_readInto hmay hr

theorem Sound.alive_of_gather (hs : ses.Sound) {names : List String} {ns : List NodeId}
    (h : names.mapM ses.nodeFor = .ok ns) (hn : n ∈ ns) : ses.store.alive n := by
  induction names generalizing ns with
  | nil =>
    cases h
    exact absurd hn List.not_mem_nil
  | cons name rest ih =>
    rw [List.mapM_cons] at h
    obtain ⟨m, hm, h⟩ := bind_eq_ok_iff.mp h
    obtain ⟨ms, hms, h⟩ := bind_eq_ok_iff.mp h
    cases h
    rcases List.mem_cons.mp hn with rfl | hn
    · exact hs.alive_of_nodeFor hm
    · exact ih hms hn

/-- Found nodes are there. -/
theorem Sound.alive_of_manyNodes (hs : ses.Sound) {q : NodesStep} {ns : List NodeId}
    (h : ses.manyNodes q = .ok ns) (hn : n ∈ ns) : ses.store.alive n := by
  cases q with
  | query on question =>
    obtain ⟨m, hm, h⟩ := bind_eq_ok_iff.mp h
    cases h
    exact hs.store.alive_of_mem_query (hs.alive_of_nodeFor hm) hn
  | filter on kind =>
    obtain ⟨ms, hms, h⟩ := bind_eq_ok_iff.mp h
    cases h
    exact hs.alive_of_nodesFor hms (List.mem_filter.mp hn).1
  | exclude on kind =>
    obtain ⟨ms, hms, h⟩ := bind_eq_ok_iff.mp h
    cases h
    rw [Store.exclude] at hn
    split at hn
    · exact absurd hn List.not_mem_nil
    · exact hs.alive_of_nodesFor hms (List.mem_filter.mp hn).1
  | gather names => exact hs.alive_of_gather h hn
  | join on more =>
    obtain ⟨ms, hms, h⟩ := bind_eq_ok_iff.mp h
    obtain ⟨ms', hms', h⟩ := bind_eq_ok_iff.mp h
    cases h
    rcases List.mem_append.mp hn with hn | hn
    · exact hs.alive_of_nodesFor hms hn
    · exact hs.alive_of_nodesFor hms' hn

/-- An insertion of nodes comes from an insertion that names them. -/
theorem insert_of_resolve {c : Change String} {place : Place} {o n : NodeId}
    (h : c.resolve ses.nodeFor = .ok (.insert place o n)) :
    ∃ on node, c = .insert place on node ∧ ses.node on = .ok o ∧ ses.node node = .ok n := by
  cases c with
  | write on what =>
    obtain ⟨m, -, h⟩ := bind_eq_ok_iff.mp h
    cases h
  | insert place' on node =>
    obtain ⟨o', ho, h⟩ := bind_eq_ok_iff.mp h
    obtain ⟨n', hn, h⟩ := bind_eq_ok_iff.mp h
    cases h
    exact ⟨on, node, rfl, nodeFor_eq_ok_iff.mp ho, nodeFor_eq_ok_iff.mp hn⟩
  | remove on =>
    obtain ⟨m, -, h⟩ := bind_eq_ok_iff.mp h
    cases h
  | clear on =>
    obtain ⟨m, -, h⟩ := bind_eq_ok_iff.mp h
    cases h

theorem makeChange_eq_ok_iff {c : Change String} {s : Store} :
    ses.makeChange c = .ok s ↔
      ∃ c', c.resolve ses.nodeFor = .ok c' ∧ ses.store.apply c' = .ok s := by
  rw [makeChange, bind_eq_ok_iff]
  simp only [mapError_eq_ok_iff]

/-- A change that is carried out is a move, and takes no node away. -/
theorem Sound.makeChange_move (hs : ses.Sound) {c : Change String}
    (hh : ∀ q ∈ ses.insertion? (.change c), may ses.store q.1 q.2) {s : Store}
    (h : ses.makeChange c = .ok s) :
    Move may ses.store s ∧ ∀ n, ses.store.alive n → s.alive n := by
  obtain ⟨c', hres, happly⟩ := makeChange_eq_ok_iff.mp h
  refine ⟨Store.move_of_apply ?_ happly, fun n hn => Store.alive_of_apply happly hn⟩
  rintro place o n rfl
  obtain ⟨on, node, rfl, ho, hn⟩ := insert_of_resolve hres
  refine ⟨hs.alive_of_held (mem_held_of_node ho), hs.alive_of_held (mem_held_of_node hn), ?_⟩
  intro t i hslot
  have hins : ses.store.insert place o n = .ok s := happly
  exact hh (t, n) (by simp [insertion?, ho, hn, hins, hslot])

/-- What a step does to the session before nodes that no name keeps are let go of. -/
theorem Sound.perform_moves (hs : ses.Sound) (hmay : Document.AllowsUnlisted may)
    (hh : ∀ q ∈ ses.insertion? st, may ses.store q.1 q.2) {a : Answer}
    (h : ses.perform st = .ok (ses', a)) :
    Moves may ses.store ses'.store ∧ ∀ n ∈ ses'.held, ses'.store.alive n := by
  cases st with
  | node step name =>
    obtain ⟨⟨found, s⟩, hone, h⟩ := bind_eq_ok_iff.mp h
    obtain ⟨hg, hfound⟩ := hs.yields_oneNode hmay hone
    cases found with
    | none =>
      cases h
      exact ⟨hg.moves, fun n hn => hg.alive (hs.alive_of_held hn)⟩
    | some m =>
      cases h
      rw [store_hold]
      refine ⟨hg.moves, fun n hn => ?_⟩
      rcases mem_held_of_hold hn with hn | hn
      · rw [List.mem_singleton.mp hn]
        exact hfound m rfl
      · exact hg.alive (hs.alive_of_held hn)
  | nodes step name =>
    obtain ⟨ns, hns, h⟩ := bind_eq_ok_iff.mp h
    cases h
    rw [store_hold]
    refine ⟨.refl, fun n hn => ?_⟩
    rcases mem_held_of_hold hn with hn | hn
    · exact hs.alive_of_manyNodes hns hn
    · exact hs.alive_of_held hn
  | ask question =>
    obtain ⟨a', ha, h⟩ := bind_eq_ok_iff.mp h
    cases h
    exact ⟨.refl, fun n hn => hs.alive_of_held hn⟩
  | change c =>
    obtain ⟨s, hc, h⟩ := bind_eq_ok_iff.mp h
    cases h
    obtain ⟨hmove, halive⟩ := hs.makeChange_move hh hc
    exact ⟨.single hmove, fun n hn => halive n (hs.alive_of_held hn)⟩
  | forget name =>
    obtain ⟨h', hh', h⟩ := bind_eq_ok_iff.mp h
    cases h
    exact ⟨.refl, fun n hn => hs.alive_of_held (mem_held_of_forget hn)⟩

theorem settle_moves (ses : Session) : Moves may ses.store ses.settle.store :=
  Store.moves_sweepTimes ses.held ses.store.size ses.store

theorem alive_settle (hn : n ∈ ses.held) (ha : ses.store.alive n) : ses.settle.store.alive n :=
  Store.alive_sweepTimes hn ses.store.size ha

/-- A step moves the store, and leaves a session that is sound. -/
theorem Sound.step_moves (hs : ses.Sound) (hmay : Document.AllowsUnlisted may)
    (hh : ∀ q ∈ ses.insertion? st, may ses.store q.1 q.2) :
    Moves may ses.store (ses.step st).1.store ∧ (ses.step st).1.Sound := by
  unfold step
  cases h : ses.perform st with
  | error e =>
    -- a step that fails still lets go of what no name keeps
    have hmoves : Moves may ses.store ses.settle.store := ses.settle_moves
    exact ⟨hmoves, hmoves.sound hs.store, fun hn => alive_settle hn (hs.alive_of_held hn)⟩
  | ok r =>
    obtain ⟨ses', a⟩ := r
    obtain ⟨hperform, hheld⟩ := hs.perform_moves hmay hh h
    have hmoves : Moves may ses.store ses'.settle.store := hperform.trans ses'.settle_moves
    exact ⟨hmoves, hmoves.sound hs.store, fun hn => alive_settle hn (hheld _ hn)⟩

/-! ## Runs -/

theorem sound_empty : Session.Sound {} where
  store := Store.sound_empty
  alive_of_held hn := absurd hn List.not_mem_nil

theorem Sound.after_moves (hs : ses.Sound) (hmay : Document.AllowsUnlisted may) {sts : List Step}
    (h : ses.Heeds may sts) :
    Moves may ses.store (ses.after sts).store ∧ (ses.after sts).Sound := by
  induction sts generalizing ses with
  | nil => exact ⟨.refl, hs⟩
  | cons st rest ih =>
    obtain ⟨hstep, hs'⟩ := hs.step_moves hmay h.1
    obtain ⟨hrest, hs''⟩ := ih hs' h.2
    exact ⟨hstep.trans hrest, hs''⟩

/-- Every run heeds the condition that allows everything. -/
theorem heeds_true (ses : Session) (sts : List Step) : ses.Heeds (fun _ _ _ => True) sts := by
  induction sts generalizing ses with
  | nil => trivial
  | cons st rest ih => exact ⟨fun _ _ => trivial, ih _⟩

/-- Whatever its steps, a run from a sound session moves the store and leaves a sound session. -/
theorem Sound.moves_after (hs : ses.Sound) (sts : List Step) :
    Moves (fun _ _ _ => True) ses.store (ses.after sts).store ∧ (ses.after sts).Sound :=
  hs.after_moves (fun _ _ _ _ => trivial) (ses.heeds_true sts)

theorem sound_after (sts : List Step) : (after {} sts).Sound := (sound_empty.moves_after sts).2

/-- What every allowed move from a sound store keeps, holds after every run that heeds `may`. -/
theorem keep_after {I : Store → Prop} (hmay : Document.AllowsUnlisted may)
    (hI : ∀ {s s'}, s.Sound → Move may s s' → I s → I s') (h0 : I {}) {sts : List Step}
    (h : Heeds may {} sts) : I (after {} sts).store :=
  ((sound_empty.after_moves hmay h).1.keep hI Store.sound_empty h0).2

end Session

end MarkTree
