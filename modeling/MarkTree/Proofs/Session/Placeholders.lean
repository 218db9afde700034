import MarkTree.Proofs.Session.Runs
import MarkTree.Proofs.Store.Placeholders

/-!
# Placeholders after a run

A placeholder comes from a lookup that found nothing, from a sequence that is too short, or is made as
such; there is no other way to come by one but to hold it already (`Sound.held_or_new`). A run in which no
placeholder is made with contents leaves placeholders that are empty and stand alone, whatever was tried to
be done to them (`placeholders_after`).
-/

namespace MarkTree

/-- What a step is told to make. -/
def Step.made? : Step → Option Payload
  | .node (.create p) _ => some p
  | _ => none

/-- If the step is told to make a placeholder, then an empty one; there is no way to ask for another. -/
def Step.MakesBlank (st : Step) : Prop :=
  ∀ p ∈ st.made?, p.placeholder = true → p = { placeholder := true }

instance (st : Step) : Decidable st.MakesBlank :=
  inferInstanceAs (Decidable (∀ p ∈ st.made?, p.placeholder = true → p = { placeholder := true }))

namespace Store

theorem size_of_apply {s s' : Store} {c : Change NodeId} (h : s.apply c = .ok s') : s'.size = s.size := by
  cases c with
  | write on what =>
    cases h
    exact s.size_edit on what.apply
  | insert place on n =>
    obtain ⟨t, i, -, -, rfl⟩ := insert_eq_ok_iff.mp h
    exact s.size_link t n _
  | remove on =>
    obtain ⟨p, i, -, rfl⟩ := remove_eq_ok_iff.mp h
    exact s.size_relist p _
  | clear on =>
    cases h
    rw [clear_eq, size_relist]

end Store

namespace Session

variable {ses ses' : Session} {st : Step} {n : NodeId}

/-! ## Placeholders without contents -/

theorem Sound.blank_oneNode (hs : ses.Sound) (hb : ses.store.Blank) {q : NodeStep} {name : Option String}
    (hq : (Step.node q name).MakesBlank) {r : Option NodeId × Store} (h : ses.oneNode q = .ok r) :
    r.2.Blank := by
  rcases hs.oneNode_cases h with ⟨hstore, -⟩ | ⟨p, rfl | rfl, rfl⟩ | ⟨lenient, m, n, s, hr, rfl⟩
  · rwa [hstore]
  · exact hb.add (hq p rfl)
  · exact hb.add fun _ => rfl
  · have hread := mapError_eq_ok_iff.mp hr
    obtain ⟨hgrown, -⟩ := Document.read_grown (fun _ _ _ _ => trivial) hs.store hread
    refine hb.of_payload_eq fun k hk => ?_
    have hold := Store.alive_of_isPlaceholder (Document.read_isPlaceholder hread hk)
    exact hgrown.moves.payload_eq_of_isPlaceholder (Store.lt_size_of_alive hold) hk

theorem Sound.blank_makeChange (hs : ses.Sound) (hb : ses.store.Blank) {c : Change String} {s : Store}
    (h : ses.makeChange c = .ok s) : s.Blank := by
  obtain ⟨c', -, happly⟩ := makeChange_eq_ok_iff.mp h
  have hmove : Store.Move (fun _ _ _ => True) ses.store s :=
    (hs.makeChange_move (fun _ _ => trivial) h).1
  refine hb.of_payload_eq fun k hk => ?_
  have hlt : k < ses.store.size := by
    rw [← Store.size_of_apply happly]
    exact Store.lt_size_of_alive (Store.alive_of_isPlaceholder hk)
  exact Store.Moves.payload_eq_of_isPlaceholder (.single hmove) hlt hk

theorem Sound.blank_perform (hs : ses.Sound) (hb : ses.store.Blank) (hst : st.MakesBlank) {a : Answer}
    (h : ses.perform st = .ok (ses', a)) : ses'.store.Blank := by
  cases st with
  | node step name =>
    obtain ⟨⟨found, s⟩, hone, h⟩ := bind_eq_ok_iff.mp h
    have hblank := hs.blank_oneNode hb hst hone
    cases found with
    | none =>
      cases h
      exact hblank
    | some m =>
      cases h
      rwa [store_hold]
  | nodes step name =>
    obtain ⟨ns, -, h⟩ := bind_eq_ok_iff.mp h
    cases h
    rwa [store_hold]
  | ask question =>
    obtain ⟨a', -, h⟩ := bind_eq_ok_iff.mp h
    cases h
    exact hb
  | change c =>
    obtain ⟨s, hc, h⟩ := bind_eq_ok_iff.mp h
    cases h
    exact hs.blank_makeChange hb hc
  | forget name =>
    obtain ⟨h', -, h⟩ := bind_eq_ok_iff.mp h
    cases h
    exact hb

theorem Sound.blank_step (hs : ses.Sound) (hb : ses.store.Blank) (hst : st.MakesBlank) :
    (ses.step st).1.store.Blank := by
  unfold step
  cases h : ses.perform st with
  | error e => exact hb.reclaim _
  | ok r => exact (hs.blank_perform hb hst h).reclaim _

theorem Sound.blank_after (hs : ses.Sound) (hb : ses.store.Blank) {sts : List Step}
    (h : ∀ st ∈ sts, st.MakesBlank) : (ses.after sts).store.Blank := by
  induction sts generalizing ses with
  | nil => exact hb
  | cons st rest ih =>
    obtain ⟨hst, hrest⟩ := List.forall_mem_cons.mp h
    exact ih (hs.moves_after [st]).2 (hs.blank_step hb hst) hrest

/-! ## Placeholders that stand apart -/

theorem Sound.apart_after (hs : ses.Sound) (ha : ses.store.Apart) (sts : List Step) :
    (ses.after sts).store.Apart :=
  have hkeep : ∀ {s s'}, s.Sound → Store.Move (fun _ _ _ => True) s s' → s.Apart → s'.Apart :=
    fun hs hmove ha => ha.move hs hmove
  ((hs.moves_after sts).1.keep (I := Store.Apart) hkeep hs.store ha).2

/-- In no run is a placeholder joined to anything. -/
theorem apart_after (sts : List Step) : (after {} sts).store.Apart :=
  sound_empty.apart_after Store.apart_empty sts

/-! ## Where placeholders come from -/

/-- A placeholder that a step gives is one that is held, or a new one. -/
theorem held_or_new (ha : ses.store.Apart) {q : NodeStep} {s : Store}
    (h : ses.oneNode q = .ok (some n, s)) (hp : s.isPlaceholder n = true) :
    n ∈ ses.held ∨ ¬ ses.store.alive n := by
  have hread : ∀ {lenient m}, ses.oneNode (.read lenient m) = .ok (some n, s) → ¬ ses.store.alive n := by
    intro lenient m h
    obtain ⟨_, _, hr, he⟩ := readInto_of_oneNode h
    cases he
    obtain ⟨-, -, rfl, -⟩ := Document.read_added (mapError_eq_ok_iff.mp hr)
    exact ses.store.not_alive_size
  cases q with
  | create p =>
    cases h
    exact .inr ses.store.not_alive_size
  | again on =>
    obtain ⟨m, hm, h⟩ := bind_eq_ok_iff.mp h
    cases h
    exact .inl (mem_held_of_node (nodeFor_eq_ok_iff.mp hm))
  | parse text =>
    rw [oneNode_parse] at h
    exact .inr (hread h)
  | read lenient markup => exact .inr (hread h)
  | found on =>
    obtain ⟨m, hm, h⟩ := bind_eq_ok_iff.mp h
    have hfound : ses.store.found? m = some n := congrArg Prod.fst (Except.ok.inj h)
    rw [Store.found?] at hfound
    split at hfound
    · cases hfound
    · cases hfound
      exact .inl (mem_held_of_node (nodeFor_eq_ok_iff.mp hm))
  | parent on =>
    obtain ⟨m, hm, h⟩ := bind_eq_ok_iff.mp h
    obtain ⟨hparent, rfl⟩ := Prod.mk.inj (Except.ok.inj h)
    rw [(ha.ordinary_of_under hparent).1] at hp
    cases hp
  | lookup on question =>
    obtain ⟨m, hm, h⟩ := bind_eq_ok_iff.mp h
    cases h
    exact .inr (ha.not_alive_of_orPlaceholder rfl hp)
  | pick on index =>
    obtain ⟨ns, hns, h⟩ := bind_eq_ok_iff.mp h
    cases hn : ns[index]? with
    | none =>
      rw [hn] at h
      cases h
      exact .inr ses.store.not_alive_size
    | some m =>
      rw [hn] at h
      cases h
      exact .inl (mem_held_of_nodes (nodesFor_eq_ok_iff.mp hns) (List.mem_of_getElem? hn))

/-- Two names that are said to stand for the same node do. -/
theorem node_eq_of_same {a b : String} (ha : ses.node a = .ok n)
    (h : ses.answer (.same a b) = .ok (.truth true)) : ses.node b = .ok n := by
  obtain ⟨m, hm, h⟩ := bind_eq_ok_iff.mp h
  obtain ⟨k, hk, h⟩ := bind_eq_ok_iff.mp h
  have heq : (m == k) = true := Answer.truth.inj (Except.ok.inj h)
  rw [nodeFor_eq_ok_iff, ha] at hm
  cases hm
  rw [eq_of_beq heq]
  exact nodeFor_eq_ok_iff.mp hk

/-- If no step makes a placeholder with contents, every placeholder is empty after the run, lists nothing,
has no parent and is listed by nobody. A step that gives a placeholder gives one that is held or one that
is none of the nodes there are; a lookup gives no other than a new one. Whether a node is a placeholder
does not change in any steps that follow, and an insertion that is carried out concerns no placeholder. -/
theorem placeholders_after (sts : List Step) (h : ∀ st ∈ sts, st.MakesBlank) :
    let ses := after {} sts
    let s := ses.store
    (∀ n, s.isPlaceholder n = true →
      s.payload n = { placeholder := true } ∧ s.childList n = [] ∧ s.parent? n = none ∧
        ∀ p, n ∉ s.childList p) ∧
    (∀ q n s', ses.oneNode q = .ok (some n, s') → s'.isPlaceholder n = true →
      n ∈ ses.held ∨ ∀ m, s.alive m → m ≠ n) ∧
    (∀ on question n s', ses.oneNode (.lookup on question) = .ok (some n, s') →
      s'.isPlaceholder n = true → ∀ m, s.alive m → m ≠ n) ∧
    (∀ a b n, ses.node a = .ok n → s.isPlaceholder n = true →
      ses.answer (.same a b) = .ok (.truth true) → ses.node b = .ok n) ∧
    (∀ sts' n, s.alive n → (ses.after sts').store.alive n →
      (ses.after sts').store.isPlaceholder n = s.isPlaceholder n) ∧
    ∀ place on n s', s.insert place on n = .ok s' →
      s.isPlaceholder on = false ∧ s.isPlaceholder n = false ∧
        ∀ t, s.target? place on = some t → s.isPlaceholder t = false := by
  intro ses s
  have hblank : s.Blank := sound_empty.blank_after Store.blank_empty h
  have hapart : s.Apart := apart_after sts
  refine ⟨fun n hp => ?_, fun q n s' hq hp => ?_, fun on question n s' hq hp => ?_,
    fun a b n ha _ => node_eq_of_same ha, fun sts' n hn hn' => ?_, fun place on n s' => ?_⟩
  · exact ⟨hblank n hp, hapart.childList_eq_nil hp, hapart.parent?_eq_none hp,
      fun p => (hapart.not_owns hp p).2⟩
  · refine (held_or_new hapart hq hp).imp_right fun hnew m hm he => ?_
    rw [he] at hm
    exact hnew hm
  · rintro m hm rfl
    obtain ⟨k, -, hq⟩ := bind_eq_ok_iff.mp hq
    cases hq
    exact hapart.not_alive_of_orPlaceholder rfl hp hm
  · exact ((sound_after sts).moves_after sts').1.isPlaceholder_eq (Store.lt_size_of_alive hn) hn'
  · exact hapart.ordinary_of_insert

/-- A run that comes by placeholders in three ways and tries to change them. -/
def missing : List Step :=
  [.node (.create { kind := .document }) (some "a"), .node (.create { kind := .paragraph }) (some "b"),
    .node (.create { placeholder := true }) (some "p"), .node (.lookup "b" (.firstChild .any)) (some "q"),
    .change (.insert .last "a" "b"), .change (.write "q" (.text "found")),
    .change (.insert .last "a" "p"), .change (.insert .first "q" "b"), .change (.insert .after "q" "b"),
    .nodes (.query "a" (.search .any)) (some "l"), .node (.pick "l" 2) (some "r"),
    .change (.clear "p"), .change (.remove "q")]

theorem placeholders_after_missing :
    let ses := after {} missing
    let s := ses.store
    (∀ st ∈ missing, st.MakesBlank) ∧
      s.isPlaceholder 2 = true ∧ s.isPlaceholder 3 = true ∧ s.isPlaceholder 4 = true ∧
      s.payload 3 = { placeholder := true } ∧ s.parent? 3 = none ∧ (∀ p, 3 ∉ s.childList p) ∧
      (∀ m, s.alive m → m ≠ 5) ∧
      (∀ b, ses.answer (.same "q" b) = .ok (.truth true) → ses.node b = .ok 3) ∧
      (∀ sts', (ses.after sts').store.alive 3 → (ses.after sts').store.isPlaceholder 3 = true) ∧
      ∀ place s', s.insert place 0 3 ≠ .ok s' := by
  intro ses s
  have hmade : ∀ st ∈ missing, st.MakesBlank := by decide +kernel
  have hq : s.isPlaceholder 3 = true := by decide +kernel
  have hname : ses.node "q" = .ok 3 := by decide +kernel
  obtain ⟨hempty, -, hnew, hsame, hstays, hrefused⟩ := placeholders_after missing hmade
  obtain ⟨hblank, -, htop, hunlisted⟩ := hempty 3 hq
  have hfive : ses.oneNode (.lookup "q" (.lastChild .any)) =
      .ok (some 5, (s.add { placeholder := true }).2) := by decide +kernel
  refine ⟨hmade, by decide +kernel, hq, by decide +kernel, hblank, htop, hunlisted,
    hnew _ _ _ _ hfive (by decide +kernel), fun b => hsame "q" b 3 hname hq, fun sts' hthere => ?_,
    fun place s' hinsert => ?_⟩
  · rw [hstays sts' 3 (by decide +kernel) hthere]
    exact hq
  · rw [(hrefused place 0 3 s' hinsert).2.1] at hq
    cases hq

end Session

end MarkTree
