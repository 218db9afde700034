import MarkTree.Proofs.Run.Calls

/-!
# How a run ends

A run goes through three stages that can fail: its inputs are read, a document is made of them, and the
listing is printed. It ends in one of five ways (`Ending`), and only then reports a failure, if there was
one. What is seen of a run from outside follows from the way in which it ended (`run_outcome`).
-/

namespace MarkTree

variable {σ : Type} {parse : String → Except String Markup} {con : Console (StateM σ)} {o : Options}
  {w : σ}

/-! ## Calls on one channel -/

theorem outputs_eq_nil {ch : Channel} {calls : List Call} (h : OnChannel ch calls)
    (hch : ch ≠ .output) : outputs calls = [] := by
  refine List.filter_eq_nil_iff.mpr fun c hc => ?_
  rw [h c hc]
  simpa using hch

theorem outputs_eq_self {calls : List Call} (h : OnChannel .output calls) : outputs calls = calls :=
  List.filter_eq_self.mpr fun c hc => by simp [h c hc]

theorem reports_eq_nil {ch : Channel} {calls : List Call} (h : OnChannel ch calls)
    (hch : ch ≠ .errors) : reports calls = [] := by
  refine List.filterMap_eq_nil_iff.mpr fun c hc => ?_
  cases c with
  | report e => exact absurd (h _ hc).symm hch
  | _ => rfl

/-! ## The ways to end -/

theorem documentOf_of_error {lenient : Bool} {text why : String} (h : parse text = .error why) :
    documentOf parse lenient text = .error (.unparsable why) := by
  rw [documentOf, h]

theorem documentOf_of_ok {lenient : Bool} {text : String} {markup : Markup}
    (h : parse text = .ok markup) :
    documentOf parse lenient text = Document.read lenient markup {} := by
  rw [documentOf, h]

/-- How a run ends: with what result, and after which calls, given what reading its inputs gave. -/
inductive Ending (parse : String → Except String Markup) (o : Options) :
    Except RunError String → Except RunError Bool → List Call → Prop
  | unread {e : RunError} {reading : List Call} (hr : Reads (.error e) reading) :
    Ending parse o (.error e) (.error e) reading
  | unparsed {text : String} {cause : ReadError} {reading : List Call} (hr : OnChannel .inputs reading)
    (hd : documentOf parse o.lenient text = .error cause) :
    Ending parse o (.ok text) (.error (.document cause)) reading
  /-- Nothing is to be printed. -/
  | silent {text : String} {root : NodeId} {s : Store} {reading : List Call}
    (hr : OnChannel .inputs reading) (hd : documentOf parse o.lenient text = .ok (root, s))
    (hq : o.quiet = true) :
    Ending parse o (.ok text) (.ok !(s.select o.kind o.scope root).isEmpty) reading
  /-- Everything was printed. -/
  | printed {text : String} {root : NodeId} {s : Store} {reading : List Call}
    (hr : OnChannel .inputs reading) (hd : documentOf parse o.lenient text = .ok (root, s))
    (hq : o.quiet = false) :
    Ending parse o (.ok text) (.ok !(s.select o.kind o.scope root).isEmpty)
      (reading ++ prints (Listing.lines o.format s (s.select o.kind o.scope root)))
  /-- The last call on the output failed. -/
  | unprinted {text : String} {root : NodeId} {s : Store} {reading printing : List Call} {c : Call}
    {why : String} (hr : OnChannel .inputs reading)
    (hd : documentOf parse o.lenient text = .ok (root, s)) (hq : o.quiet = false)
    (hp : OnChannel .output printing) (hlast : printing.getLast? = some c)
    (hwhy : c.outputFailure? = some why) :
    Ending parse o (.ok text) (.error (.output why)) (reading ++ printing)

theorem notes_attempt (parse : String → Except String Markup) (con : Console (StateM σ)) (o : Options)
    (w : σ) :
    Notes w (Ending parse o (con.readAll o.paths w).1) (attempt parse con o)
      (attempt parse con.noted o) := by
  refine (notes_readAll o.paths w).bind fun reading hreading => ?_
  revert hreading
  cases (con.readAll o.paths w).1 with
  | error e =>
    intro hreading
    exact notes_stop (.unread hreading)
  | ok text =>
    rintro ⟨hr, -⟩
    simp only
    cases hd : documentOf parse o.lenient text with
    | error cause =>
      exact notes_stop (.unparsed hr hd)
    | ok source =>
      obtain ⟨root, s⟩ := source
      cases hq : o.quiet with
      | true =>
        exact notes_stop (.silent hr hd hq)
      | false =>
        refine (notes_print _ _).bind fun printing hprinting => ?_
        revert hprinting
        cases (con.print _ _).1 with
        | error why =>
          rintro ⟨hp, c, hlast, hwhy⟩
          exact notes_stop (.unprinted hr hd hq hp hlast hwhy)
        | ok u =>
          rintro rfl
          exact notes_stop (.printed hr hd hq)

/-! ## A run from outside -/

/-- A run as it is seen from outside: what it found and which calls it made. -/
structure Observed where
  found : Bool
  calls : List Call

/-- A run started in `w`, with its calls noted. -/
def observe (parse : String → Except String Markup) (con : Console (StateM σ)) (o : Options) (w : σ) :
    Observed :=
  let r := runWith parse con.noted o (w, [])
  ⟨r.1, r.2.2⟩

/-- A run that ended with a result after some calls, the failure being reported. -/
def Observed.ofResult (calls : List Call) : Except RunError Bool → Observed
  | .ok found => ⟨found, calls⟩
  | .error e => ⟨false, calls ++ [.report e]⟩

theorem notes_runWith (parse : String → Except String Markup) (con : Console (StateM σ)) (o : Options)
    (w : σ) :
    Notes w (fun found calls => ∃ r before, Ending parse o (con.readAll o.paths w).1 r before ∧
      ⟨found, calls⟩ = Observed.ofResult before r) (runWith parse con o) (runWith parse con.noted o) := by
  refine (notes_attempt parse con o w).bind fun before hends => ?_
  revert hends
  cases (attempt parse con o w).1 with
  | error e =>
    intro hends
    refine (notes_note (fun _ => .report e) (con.report e)).bind fun last hlast => ?_
    subst hlast
    exact notes_stop ⟨_, _, hends, rfl⟩
  | ok found =>
    intro hends
    exact notes_stop ⟨_, _, hends, rfl⟩

/-- Noting the calls of a run does not change what it finds, and the run ends in one of the five ways. -/
theorem observe_ends (parse : String → Except String Markup) (con : Console (StateM σ)) (o : Options)
    (w : σ) :
    (observe parse con o w).found = (runWith parse con o w).1 ∧
      ∃ r before, Ending parse o (con.readAll o.paths w).1 r before ∧
        observe parse con o w = Observed.ofResult before r := by
  obtain ⟨calls, ⟨r, before, hends, hr⟩, hrun⟩ := notes_runWith parse con o w
  have hobserve : observe parse con o w = ⟨(runWith parse con o w).1, calls⟩ := by
    rw [observe, hrun []]
    rfl
  exact ⟨by rw [hobserve], r, before, hends, by rw [hobserve, hr]⟩

/-! ## What is seen -/

theorem reports_append (calls calls' : List Call) :
    reports (calls ++ calls') = reports calls ++ reports calls' := List.filterMap_append

theorem outputs_append (calls calls' : List Call) :
    outputs (calls ++ calls') = outputs calls ++ outputs calls' := List.filter_append ..

section Ending

variable {read : Except RunError String} {r : Except RunError Bool} {before : List Call}

theorem outputs_ofResult (before : List Call) (r : Except RunError Bool) :
    outputs (Observed.ofResult before r).calls = outputs before := by
  cases r with
  | ok found => rfl
  | error e =>
    rw [Observed.ofResult, outputs_append]
    exact List.append_nil _

/-- A run reports nothing before it has ended. -/
theorem Ending.reports_before (h : Ending parse o read r before) : reports before = [] := by
  cases h with
  | unread hr => exact reports_eq_nil hr.1 (by decide)
  | unparsed hr => exact reports_eq_nil hr (by decide)
  | silent hr => exact reports_eq_nil hr (by decide)
  | printed hr =>
    rw [reports_append, reports_eq_nil hr (by decide),
      reports_eq_nil (onChannel_prints _) (by decide)]
    rfl
  | unprinted hr _ _ hp =>
    rw [reports_append, reports_eq_nil hr (by decide), reports_eq_nil hp (by decide)]
    rfl

/-- The failure of a run is the one thing that it reports. -/
theorem Ending.reports_ofResult (h : Ending parse o read r before) :
    reports (Observed.ofResult before r).calls = match r with | .ok _ => [] | .error e => [e] := by
  cases r with
  | ok found => exact h.reports_before
  | error e =>
    rw [Observed.ofResult, reports_append, h.reports_before]
    rfl

end Ending

theorem observe_of_unread (parse : String → Except String Markup) (o : Options) {e : RunError}
    (h : (con.readAll o.paths w).1 = .error e) :
    reports (observe parse con o w).calls = [e] ∧ outputs (observe parse con o w).calls = [] ∧
      ∃ c ∈ (observe parse con o w).calls, c.inputFailure? = some e := by
  obtain ⟨-, r, before, hends, hrun⟩ := observe_ends parse con o w
  rw [h] at hends
  rw [hrun, hends.reports_ofResult, outputs_ofResult]
  cases hends with
  | unread hr =>
    obtain ⟨c, hlast, hc⟩ := hr.2 e rfl
    exact ⟨rfl, outputs_eq_nil hr.1 (by decide), c,
      List.mem_append_left _ (List.mem_of_getLast? hlast), hc⟩

theorem observe_of_unparsed (o : Options) {text : String} {cause : ReadError}
    (h : (con.readAll o.paths w).1 = .ok text) (hd : documentOf parse o.lenient text = .error cause) :
    reports (observe parse con o w).calls = [.document cause] ∧
      outputs (observe parse con o w).calls = [] := by
  obtain ⟨-, r, before, hends, hrun⟩ := observe_ends parse con o w
  rw [h] at hends
  rw [hrun, hends.reports_ofResult, outputs_ofResult]
  cases hends with
  | unparsed hr hd' =>
    rw [hd] at hd'
    cases hd'
    exact ⟨rfl, outputs_eq_nil hr (by decide)⟩
  | silent _ hd' | printed _ hd' | unprinted _ hd' =>
    rw [hd] at hd'
    cases hd'

theorem observe_of_document (o : Options) {text : String} {root : NodeId} {s : Store}
    (h : (con.readAll o.paths w).1 = .ok text)
    (hd : documentOf parse o.lenient text = .ok (root, s)) :
    (reports (observe parse con o w).calls = [] ∧
      ((observe parse con o w).found = true ↔ s.select o.kind o.scope root ≠ []) ∧
      outputs (observe parse con o w).calls = if o.quiet then [] else
        prints (Listing.lines o.format s (s.select o.kind o.scope root))) ∨
    (o.quiet = false ∧ ∃ why c, reports (observe parse con o w).calls = [.output why] ∧
      (outputs (observe parse con o w).calls).getLast? = some c ∧ c.outputFailure? = some why) := by
  obtain ⟨-, r, before, hends, hrun⟩ := observe_ends parse con o w
  rw [h] at hends
  rw [hrun, hends.reports_ofResult, outputs_ofResult]
  cases hends with
  | unparsed hr hd' =>
    rw [hd] at hd'
    cases hd'
  | silent hr hd' hq =>
    rw [hd] at hd'
    cases hd'
    refine .inl ⟨rfl, by simp [Observed.ofResult], ?_⟩
    rw [if_pos hq]
    exact outputs_eq_nil hr (by decide)
  | printed hr hd' hq =>
    rw [hd] at hd'
    cases hd'
    refine .inl ⟨rfl, by simp [Observed.ofResult], ?_⟩
    rw [if_neg (by simp [hq]), outputs_append, outputs_eq_nil hr (by decide),
      outputs_eq_self (onChannel_prints _)]
    rfl
  | unprinted hr hd' hq hp hlast hwhy =>
    refine .inr ⟨hq, _, _, rfl, ?_, hwhy⟩
    rw [outputs_append, outputs_eq_nil hr (by decide), outputs_eq_self hp]
    exact hlast

theorem found_of_reports (h : reports (observe parse con o w).calls ≠ []) :
    (observe parse con o w).found = false := by
  obtain ⟨-, r, before, hends, hrun⟩ := observe_ends parse con o w
  rw [hrun, hends.reports_ofResult] at h
  rw [hrun]
  cases r with
  | ok found => exact absurd rfl h
  | error e => rfl

theorem length_reports_le (parse : String → Except String Markup) (con : Console (StateM σ))
    (o : Options) (w : σ) : (reports (observe parse con o w).calls).length ≤ 1 := by
  obtain ⟨-, r, before, hends, hrun⟩ := observe_ends parse con o w
  rw [hrun, hends.reports_ofResult]
  cases r <;> simp

/-! ### Quiet runs -/

/-- Only a run that is not quiet reports that it could not print. -/
theorem quiet_of_reports_output {why : String}
    (h : .output why ∈ reports (observe parse con o w).calls) : o.quiet = false := by
  cases hread : (con.readAll o.paths w).1 with
  | error e =>
    obtain ⟨hreports, -, c, -, hc⟩ := observe_of_unread parse o hread
    rw [hreports] at h
    obtain rfl := List.mem_singleton.mp h
    -- what is reported is said of an input
    cases c with
    | readInput answer | readFile path answer => cases answer <;> cases hc
    | _ => cases hc
  | ok text =>
    cases hd : documentOf parse o.lenient text with
    | error cause =>
      rw [(observe_of_unparsed o hread hd).1] at h
      cases List.mem_singleton.mp h
    | ok source =>
      rcases observe_of_document o hread hd with ⟨hreports, -⟩ | ⟨hq, -⟩
      · rw [hreports] at h
        exact absurd h List.not_mem_nil
      · exact hq

/-- A quiet run finds what a run that is not quiet finds, unless that one could not print. -/
theorem found_of_quiet (parse : String → Except String Markup) (con : Console (StateM σ)) (o : Options)
    (w : σ) :
    (observe parse con { o with quiet := true } w).found =
        (observe parse con { o with quiet := false } w).found ∨
      ∃ why, reports (observe parse con { o with quiet := false } w).calls = [.output why] := by
  have hfailed : ∀ (o : Options) {e : RunError}, reports (observe parse con o w).calls = [e] →
      (observe parse con o w).found = false := fun o e h => found_of_reports (by simp [h])
  cases hread : (con.readAll o.paths w).1 with
  | error e =>
    have hquiet := observe_of_unread parse { o with quiet := true } hread
    have hloud := observe_of_unread parse { o with quiet := false } hread
    exact .inl (by rw [hfailed _ hquiet.1, hfailed _ hloud.1])
  | ok text =>
    cases hd : documentOf parse o.lenient text with
    | error cause =>
      have hquiet := observe_of_unparsed { o with quiet := true } hread hd
      have hloud := observe_of_unparsed { o with quiet := false } hread hd
      exact .inl (by rw [hfailed _ hquiet.1, hfailed _ hloud.1])
    | ok source =>
      obtain ⟨root, s⟩ := source
      rcases observe_of_document { o with quiet := true } hread hd with
        ⟨-, hquiet, -⟩ | ⟨hq, -⟩
      · rcases observe_of_document { o with quiet := false } hread hd with
          ⟨-, hloud, -⟩ | ⟨-, why, -, hloud, -⟩
        · exact .inl (Bool.eq_iff_iff.mpr (hquiet.trans hloud.symm))
        · exact .inr ⟨why, hloud⟩
      · cases hq

/-- What is seen of a run, whatever its console answers. -/
theorem run_outcome (parse : String → Except String Markup) (con : Console (StateM σ)) (o : Options)
    (w : σ) :
    let run := observe parse con o w
    let quiet := observe parse con { o with quiet := true } w
    let loud := observe parse con { o with quiet := false } w
    run.found = (runWith parse con o w).1 ∧
    (reports run.calls).length ≤ 1 ∧
    (reports run.calls ≠ [] → run.found = false) ∧
    (∀ e, (con.readAll o.paths w).1 = .error e →
      reports run.calls = [e] ∧ outputs run.calls = [] ∧ ∃ c ∈ run.calls, c.inputFailure? = some e) ∧
    (∀ text why, (con.readAll o.paths w).1 = .ok text → parse text = .error why →
      reports run.calls = [.document (.unparsable why)] ∧ outputs run.calls = []) ∧
    (∀ text markup cause, (con.readAll o.paths w).1 = .ok text → parse text = .ok markup →
      Document.read o.lenient markup {} = .error cause →
      reports run.calls = [.document cause] ∧ outputs run.calls = []) ∧
    (∀ text markup root s, (con.readAll o.paths w).1 = .ok text → parse text = .ok markup →
      Document.read o.lenient markup {} = .ok (root, s) →
      (reports run.calls = [] ∧ (run.found = true ↔ s.select o.kind o.scope root ≠ []) ∧
        outputs run.calls = if o.quiet then [] else
          prints (Listing.lines o.format s (s.select o.kind o.scope root))) ∨
      (o.quiet = false ∧ ∃ why c, reports run.calls = [.output why] ∧
        (outputs run.calls).getLast? = some c ∧ c.outputFailure? = some why)) ∧
    (quiet.found = loud.found ∨ ∃ why, reports loud.calls = [.output why]) ∧
    (∀ why, .output why ∉ reports quiet.calls) := by
  intro run quiet loud
  refine ⟨(observe_ends parse con o w).1, length_reports_le parse con o w, found_of_reports,
    fun e => observe_of_unread parse o, fun text why hread hparse => ?unparsable,
    fun text markup cause hread hparse hdoc => ?refused,
    fun text markup root s hread hparse hdoc => ?document, found_of_quiet parse con o w, fun why h => ?quiet⟩
  case unparsable => exact observe_of_unparsed o hread (documentOf_of_error hparse)
  case refused => exact observe_of_unparsed o hread ((documentOf_of_ok hparse).trans hdoc)
  case document => exact observe_of_document o hread ((documentOf_of_ok hparse).trans hdoc)
  case quiet => cases quiet_of_reports_output h

/-- A console whose output cannot be flushed. -/
def unflushed : Console (StateM Unit) where
  readInput := pure (.ok "a")
  readFile := fun _ => pure (.error "no files")
  write := fun _ => pure (.ok ())
  flush := pure (.error "full")
  report := fun _ => pure ()

theorem run_outcome_unflushed :
    let parse := fun t => .ok (.node .root [.leaf (.text t)])
    let run := observe parse unflushed {} ()
    reports run.calls = [.output "full"] ∧ run.found = false ∧
      (observe parse unflushed { quiet := true } ()).found = true := by
  intro parse run
  have hreports : reports run.calls = [.output "full"] := rfl
  obtain ⟨-, -, hfailed, -⟩ := run_outcome parse unflushed {} ()
  exact ⟨hreports, hfailed (by simp [run, hreports]), rfl⟩

end MarkTree
