import MarkTree.Proofs.Results
import MarkTree.Run.Execution

/-!
# What a run does to the world

A run is seen from outside by the calls that it makes on its console. `Console.noted` is a console that
does what another one does and notes every call with its answer; the notes change nothing (`Notes`).
What is noted of a run is put together from what is noted of its parts (`Notes.bind`).

* `notes_readAll`: reading the inputs makes no call but on them.
* `notes_print`: printing texts writes them in order and flushes, up to the first call that fails.
-/

namespace MarkTree

/-- A call on a console with its answer. -/
inductive Call
  | readInput (answer : Except String String)
  | readFile (path : String) (answer : Except String String)
  | write (text : String) (answer : Except String Unit)
  | flush (answer : Except String Unit)
  | report (e : RunError)

/-- What a call works on. -/
inductive Channel
  | inputs
  | output
  | errors
deriving DecidableEq, Repr

namespace Call

def channel : Call → Channel
  | readInput _ | readFile _ _ => .inputs
  | write _ _ | flush _ => .output
  | report _ => .errors

def report? : Call → Option RunError
  | report e => some e
  | _ => none

/-- What is wrong with an input that could not be read. -/
def inputFailure? : Call → Option RunError
  | readInput (.error why) => some (.input .standard why)
  | readFile path (.error why) => some (.input (.file path) why)
  | _ => none

/-- Why a write or a flush did not succeed. -/
def outputFailure? : Call → Option String
  | write _ (.error why) | flush (.error why) => some why
  | _ => none

end Call

/-- The calls on the output. -/
def outputs (calls : List Call) : List Call := calls.filter (·.channel = .output)

/-- The failures that were reported. -/
def reports (calls : List Call) : List RunError := calls.filterMap Call.report?

section Notes

variable {σ α β : Type} {w : σ}

/-- Does an action and notes it. -/
def note (call : α → Call) (act : StateM σ α) : StateM (σ × List Call) α := fun q =>
  ((act q.1).1, (act q.1).2, q.2 ++ [call (act q.1).1])

/-- A console that does the same and notes it. -/
def Console.noted (con : Console (StateM σ)) : Console (StateM (σ × List Call)) where
  readInput := note .readInput con.readInput
  readFile := fun path => note (.readFile path) (con.readFile path)
  write := fun t => note (.write t) (con.write t)
  flush := note .flush con.flush
  report := fun e => note (fun _ => .report e) (con.report e)

/-- Started in `w`, the two actions do the same, and the second notes calls of which `P` holds. -/
def Notes (w : σ) (P : α → List Call → Prop) (act : StateM σ α) (act' : StateM (σ × List Call) α) :
    Prop :=
  ∃ new, P (act w).1 new ∧ ∀ calls, act' (w, calls) = ((act w).1, (act w).2, calls ++ new)

/-- What holds of the calls to come if `P` is to hold of all calls, those before included. -/
def After (before : List Call) (P : α → List Call → Prop) : α → List Call → Prop :=
  fun a new => P a (before ++ new)

theorem notes_pure {P : α → List Call → Prop} {a : α} (h : P a []) :
    Notes w P (pure a) (pure a) := by
  refine ⟨[], h, fun calls => ?_⟩
  rw [List.append_nil]
  rfl

theorem notes_note (call : α → Call) (act : StateM σ α) :
    Notes w (fun a new => new = [call a]) act (note call act) :=
  ⟨_, rfl, fun _ => rfl⟩

theorem Notes.mono {P Q : α → List Call → Prop} {act : StateM σ α} {act' : StateM (σ × List Call) α}
    (h : Notes w P act act') (hpq : ∀ new, P (act w).1 new → Q (act w).1 new) : Notes w Q act act' := by
  obtain ⟨new, hp, hact⟩ := h
  exact ⟨new, hpq new hp, hact⟩

/-- One action after the other. -/
theorem Notes.bind {P : α → List Call → Prop} {R : β → List Call → Prop} {act : StateM σ α}
    {act' : StateM (σ × List Call) α} {f : α → StateM σ β} {f' : α → StateM (σ × List Call) β}
    (h : Notes w P act act')
    (hf : ∀ new, P (act w).1 new →
      Notes (act w).2 (After new R) (f (act w).1) (f' (act w).1)) :
    Notes w R (act >>= f) (act' >>= f') := by
  obtain ⟨new, hp, hact⟩ := h
  obtain ⟨new', hr, hrest⟩ := hf new hp
  refine ⟨new ++ new', hr, fun calls => ?_⟩
  rw [bind_apply, hact, hrest, List.append_assoc]
  rfl

/-- An action after which nothing follows. -/
theorem notes_stop {R : α → List Call → Prop} {a : α} {before : List Call} (h : R a before) :
    Notes w (After before R) (pure a) (pure a) :=
  notes_pure (by rwa [After, List.append_nil])

end Notes

/-! ## Reading -/

/-- Calls that are all on one channel. -/
def OnChannel (ch : Channel) (calls : List Call) : Prop := ∀ c ∈ calls, c.channel = ch

theorem onChannel_nil (ch : Channel) : OnChannel ch [] := fun _ h => absurd h List.not_mem_nil

theorem onChannel_append {ch : Channel} {calls calls' : List Call} (h : OnChannel ch calls)
    (h' : OnChannel ch calls') : OnChannel ch (calls ++ calls') :=
  List.forall_mem_append.mpr ⟨h, h'⟩

theorem onChannel_singleton {ch : Channel} {c : Call} (h : c.channel = ch) : OnChannel ch [c] :=
  List.forall_mem_singleton.mpr h

variable {σ : Type} {con : Console (StateM σ)}

/-- Some calls on the inputs, of which the last fails if the reading does. -/
def Reads (r : Except RunError String) (calls : List Call) : Prop :=
  OnChannel .inputs calls ∧
    ∀ e, r = .error e → ∃ c, calls.getLast? = some c ∧ c.inputFailure? = some e

theorem reads_ok {text : String} {calls : List Call} (h : OnChannel .inputs calls) :
    Reads (.ok text) calls := ⟨h, fun e he => by cases he⟩

theorem reads_failure {c : Call} {e : RunError} (hc : c.channel = .inputs)
    (he : c.inputFailure? = some e) : Reads (.error e) [c] := by
  refine ⟨onChannel_singleton hc, fun e' he' => ?_⟩
  cases he'
  exact ⟨c, rfl, he⟩

theorem Reads.append {before calls : List Call} {r : Except RunError String}
    (hb : OnChannel .inputs before) (h : Reads r calls) : Reads r (before ++ calls) := by
  refine ⟨onChannel_append hb h.1, fun e he => ?_⟩
  obtain ⟨c, hlast, hc⟩ := h.2 e he
  exact ⟨c, by rw [List.getLast?_append, hlast]; rfl, hc⟩

theorem notes_readListed (taken : Bool) (text : String) (paths : List String) (w : σ) :
    Notes w Reads (con.readListed taken text paths) (con.noted.readListed taken text paths) := by
  induction paths generalizing taken text w with
  | nil => exact notes_pure (reads_ok (onChannel_nil _))
  | cons path rest ih =>
    rw [Console.readListed, Console.readListed]
    split
    · split
      · exact ih _ _ w
      · refine (notes_note .readInput con.readInput).bind fun new hnew => ?_
        subst hnew
        cases (con.readInput w).1 with
        | error why => exact notes_pure (reads_failure rfl rfl)
        | ok t => exact (ih _ _ _).mono fun _ => Reads.append (onChannel_singleton rfl)
    · refine (notes_note (.readFile path) (con.readFile path)).bind fun new hnew => ?_
      subst hnew
      cases (con.readFile path w).1 with
      | error why => exact notes_pure (reads_failure rfl rfl)
      | ok t => exact (ih _ _ _).mono fun _ => Reads.append (onChannel_singleton rfl)

theorem notes_readAll (paths : List String) (w : σ) :
    Notes w Reads (con.readAll paths) (con.noted.readAll paths) := by
  cases paths with
  | nil =>
    refine (notes_note .readInput con.readInput).bind fun new hnew => ?_
    subst hnew
    cases (con.readInput w).1 with
    | error why => exact notes_pure (reads_failure rfl rfl)
    | ok t => exact notes_pure (reads_ok (onChannel_singleton rfl))
  | cons path rest => exact notes_readListed false "" (path :: rest) w

/-! ## Printing -/

/-- The calls on the output that are meant to be made, or some calls on it of which the last fails. -/
def Delivers (meant : List Call) : Except String Unit → List Call → Prop
  | .ok (), calls => calls = meant
  | .error why, calls =>
    OnChannel .output calls ∧ ∃ c, calls.getLast? = some c ∧ c.outputFailure? = some why

/-- What follows a call that succeeded fails where the whole fails. -/
theorem Delivers.append {before meant calls : List Call}
    {r : Except String Unit} (hb : OnChannel .output before) (h : Delivers meant r calls) :
    Delivers (before ++ meant) r (before ++ calls) := by
  cases r with
  | ok u => exact congrArg (before ++ ·) h
  | error why =>
    obtain ⟨hout, c, hlast, hwhy⟩ := h
    exact ⟨onChannel_append hb hout, c, by rw [List.getLast?_append, hlast]; rfl, hwhy⟩

/-- The writing of some texts. -/
def writes (texts : List String) : List Call := texts.map (.write · (.ok ()))

theorem onChannel_writes (texts : List String) : OnChannel .output (writes texts) := by
  intro c hc
  obtain ⟨t, -, rfl⟩ := List.mem_map.mp hc
  rfl

/-- The calls of printing some texts. -/
def prints (texts : List String) : List Call := writes texts ++ [.flush (.ok ())]

theorem onChannel_prints (texts : List String) : OnChannel .output (prints texts) :=
  onChannel_append (onChannel_writes texts) (onChannel_singleton rfl)

theorem delivers_failure {meant before : List Call} {c : Call} {why : String}
    (hb : OnChannel .output before) (hc : c.channel = .output) (hwhy : c.outputFailure? = some why) :
    Delivers meant (.error why) (before ++ [c]) :=
  ⟨onChannel_append hb (onChannel_singleton hc), c, List.getLast?_concat, hwhy⟩

theorem notes_writeAll (texts : List String) (w : σ) :
    Notes w (Delivers (writes texts)) (con.writeAll texts) (con.noted.writeAll texts) := by
  induction texts generalizing w with
  | nil => exact notes_pure rfl
  | cons t rest ih =>
    refine (notes_note (.write t) (con.write t)).bind fun new hnew => ?_
    subst hnew
    cases (con.write t w).1 with
    | error why => exact notes_pure (delivers_failure (onChannel_nil _) rfl rfl)
    | ok u => exact (ih _).mono fun _ => Delivers.append (onChannel_writes [t])

theorem notes_print (texts : List String) (w : σ) :
    Notes w (Delivers (prints texts)) (con.print texts) (con.noted.print texts) := by
  refine (notes_writeAll texts w).bind fun new hnew => ?_
  cases hr : (con.writeAll texts w).1 with
  | error why =>
    rw [hr] at hnew
    exact notes_stop hnew
  | ok u =>
    rw [hr] at hnew
    obtain rfl := hnew
    refine (notes_note .flush con.flush).mono fun last hlast => ?_
    subst hlast
    cases (con.flush (con.writeAll texts w).2).1 with
    | error why => exact delivers_failure (onChannel_writes texts) rfl rfl
    | ok u => rfl

end MarkTree
