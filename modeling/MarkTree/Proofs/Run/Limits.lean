import MarkTree.Proofs.Run.Calls
import MarkTree.Proofs.Text.Pieces
import MarkTree.Run.Memory

/-!
# Output that is cut short

An output in memory keeps bytes up to its limit and no more. Writing texts one after the other keeps what
writing them as one text keeps (`writeAll_eq_keep`), so that it does not matter how a listing is cut into
pieces before it is written (`inPieces_eq`). What is left of a listing is the start of it that fits, and the
run reports the write or the flush that failed (`output_of_limit`).
-/

namespace MarkTree

namespace Memory

variable {mem : Memory} {trace : Trace} {t u : String} {most : Nat} {why : String}

/-! ## Writing -/

theorem keep_of_unlimited (h : mem.limit = none) :
    mem.keep t trace = (.ok (), { trace with kept := trace.kept ++ t.toUTF8 }) := by
  simp only [keep, h]

theorem keep_of_fits (h : mem.limit = some (most, why))
    (hfits : t.toUTF8.size ≤ most - trace.kept.size) :
    mem.keep t trace = (.ok (), { trace with kept := trace.kept ++ t.toUTF8 }) := by
  simp only [keep, h, if_pos hfits]

theorem keep_of_exceeds (h : mem.limit = some (most, why))
    (hexceeds : most - trace.kept.size < t.toUTF8.size) :
    mem.keep t trace = (.error why,
      { trace with kept := trace.kept ++ t.toUTF8.extract 0 (most - trace.kept.size) }) := by
  simp only [keep, h, if_neg (Nat.not_le.mpr hexceeds)]

theorem keep_empty (mem : Memory) (trace : Trace) : mem.keep "" trace = (.ok (), trace) := by
  have hsame : trace.kept ++ "".toUTF8 = trace.kept := ByteArray.append_empty
  cases h : mem.limit with
  | none => rw [keep_of_unlimited h, hsame]
  | some limit => rw [keep_of_fits h (Nat.zero_le _), hsame]

/-- A text that is put together from two is kept like the one and then, if that one was kept whole, like
the other. -/
theorem keep_append (mem : Memory) (t u : String) (trace : Trace) :
    mem.keep (t ++ u) trace = match mem.keep t trace with
      | (.error why, left) => (.error why, left)
      | (.ok (), left) => mem.keep u left := by
  cases h : mem.limit with
  | none => simp only [keep_of_unlimited h, toUTF8_append, ByteArray.append_assoc]
  | some limit =>
    obtain ⟨most, why⟩ := limit
    have hsize : (t ++ u).toUTF8.size = t.toUTF8.size + u.toUTF8.size := by
      rw [toUTF8_append, ByteArray.size_append]
    by_cases hfits : t.toUTF8.size ≤ most - trace.kept.size
    · let left : Trace := { trace with kept := trace.kept ++ t.toUTF8 }
      have hfree : most - left.kept.size = most - trace.kept.size - t.toUTF8.size := by
        rw [ByteArray.size_append, Nat.sub_sub]
      rw [keep_of_fits h hfits]
      by_cases hrest : u.toUTF8.size ≤ most - left.kept.size
      · have hu : mem.keep u left = _ := keep_of_fits h hrest
        rw [keep_of_fits h (by omega), toUTF8_append, ← ByteArray.append_assoc]
        exact hu.symm
      · have hu : mem.keep u left = _ := keep_of_exceeds h (Nat.lt_of_not_le hrest)
        rw [keep_of_exceeds h (by omega), toUTF8_append, extract_append_of_size_le hfits, ← hfree,
          ← ByteArray.append_assoc]
        exact hu.symm
    · rw [Nat.not_le] at hfits
      rw [keep_of_exceeds h hfits, keep_of_exceeds h (by omega), toUTF8_append,
        extract_append_of_le_size (Nat.le_of_lt hfits)]

theorem write_console (mem : Memory) (t : String) (trace : Trace) :
    mem.console.write t trace = mem.keep t trace := rfl

theorem writeAll_eq_keep (mem : Memory) (texts : List String) (trace : Trace) :
    mem.console.writeAll texts trace = mem.keep (String.join texts) trace := by
  induction texts generalizing trace with
  | nil =>
    rw [String.join_nil, keep_empty]
    rfl
  | cons t rest ih =>
    rw [String.join_cons, keep_append, Console.writeAll, bind_apply, write_console]
    rcases mem.keep t trace with ⟨_ | _, left⟩
    · rfl
    · exact ih left

/-- Cutting texts into pieces makes no difference to what is kept of them, nor to what writing them says. -/
theorem inPieces_eq (mem : Memory) {cut : String → List String}
    (hcut : ∀ t, String.join (cut t) = t) : mem.console.inPieces cut = mem.console := by
  have hwrite : (fun t => mem.console.writeAll (cut t)) = mem.console.write := by
    funext t trace
    rw [writeAll_eq_keep, hcut, write_console]
  rw [Console.inPieces, hwrite]

/-! ## Reading and printing -/

theorem readInput_console (mem : Memory) : mem.console.readInput = pure mem.input := rfl

theorem readFile_console (mem : Memory) (path : String) :
    mem.console.readFile path = pure (mem.file path) := rfl

section Reading

variable {other : Memory} (hinput : other.input = mem.input) (hfile : other.file = mem.file)
include hinput hfile

theorem readListed_eq_of_inputs (taken : Bool) (text : String) (paths : List String) (trace : Trace) :
    other.console.readListed taken text paths trace =
      ((mem.console.readListed taken text paths {}).1, trace) := by
  induction paths generalizing taken text with
  | nil => rfl
  | cons path rest ih =>
    rw [Console.readListed, Console.readListed]
    split
    · split
      · exact ih _ _
      · rw [readInput_console, readInput_console, pure_bind, pure_bind, hinput]
        cases mem.input with
        | error why => rfl
        | ok t => exact ih _ _
    · rw [readFile_console, readFile_console, pure_bind, pure_bind, hfile]
      cases mem.file path with
      | error why => rfl
      | ok t => exact ih _ _

/-- Reading looks at the inputs only, and leaves what was kept as it is. -/
theorem readAll_eq_of_inputs (paths : List String) (trace : Trace) :
    other.console.readAll paths trace = ((mem.console.readAll paths {}).1, trace) := by
  cases paths with
  | nil =>
    rw [Console.readAll, Console.readAll, readInput_console, readInput_console, pure_bind, pure_bind,
      hinput]
    cases mem.input <;> rfl
  | cons path rest => exact readListed_eq_of_inputs hinput hfile _ _ _ _

end Reading

theorem readAll_limited (limit : Option (Nat × String)) (paths : List String) (trace : Trace) :
    (mem.limited limit).console.readAll paths trace = ((mem.console.readAll paths {}).1, trace) := by
  apply readAll_eq_of_inputs <;> rfl

theorem print_eq (mem : Memory) (texts : List String) (trace : Trace) :
    mem.console.print texts trace = match mem.keep (String.join texts) trace with
      | (.error why, left) => (.error why, left)
      | (.ok (), left) => (mem.flushFailure.elim (.ok ()) .error, left) := by
  rw [Console.print, bind_apply, writeAll_eq_keep]
  rcases mem.keep (String.join texts) trace with ⟨_ | _, left⟩ <;> rfl

section Document

variable {parse : String → Except String Markup} {o : Options} {text : String} {root : NodeId} {s : Store}
  (hq : o.quiet = false) (hread : (mem.console.readAll o.paths {}).1 = .ok text)
  (hdoc : documentOf parse o.lenient text = .ok (root, s))
include hq hread hdoc

theorem attempt_eq :
    attempt parse mem.console o {} =
      match mem.keep (o.listing s root) {} with
      | (.error why, left) => (.error (.output why), left)
      | (.ok (), left) =>
        (mem.flushFailure.elim (.ok !(s.select o.kind o.scope root).isEmpty) (.error <| .output ·), left)
      := by
  rw [attempt, bind_apply, readAll_eq_of_inputs rfl rfl, hread]
  simp only [hdoc, hq, Bool.false_eq_true, if_false]
  rw [bind_apply, print_eq, Options.listing]
  rcases mem.keep _ {} with ⟨_ | _, left⟩
  · rfl
  · cases mem.flushFailure <;> rfl

/-- What is left of a run, and what it says, when its listing is written to an output in memory. -/
theorem runWith_eq :
    runWith parse mem.console o {} =
      match mem.keep (o.listing s root) {} with
      | (.error why, left) => (false, { left with errors := left.errors ++ [.output why] })
      | (.ok (), left) => mem.flushFailure.elim (!(s.select o.kind o.scope root).isEmpty, left)
          fun why => (false, { left with errors := left.errors ++ [.output why] }) := by
  rw [runWith, bind_apply, attempt_eq hq hread hdoc]
  rcases mem.keep _ {} with ⟨_ | _, left⟩
  · rfl
  · cases mem.flushFailure <;> rfl

theorem kept_of_unlimited (h : mem.limit = none) :
    (runWith parse mem.console o {}).2.kept = (o.listing s root).toUTF8 := by
  rw [runWith_eq hq hread hdoc, keep_of_unlimited h]
  cases mem.flushFailure <;> exact ByteArray.empty_append

theorem runWith_of_fits (h : mem.limit = some (most, why))
    (hfits : (o.listing s root).toUTF8.size ≤ most) :
    runWith parse mem.console o {} =
      mem.flushFailure.elim
        (!(s.select o.kind o.scope root).isEmpty, { kept := (o.listing s root).toUTF8 })
        fun why => (false, { kept := (o.listing s root).toUTF8, errors := [.output why] }) := by
  have hkeep : mem.keep (o.listing s root) {} = _ := keep_of_fits h hfits
  rw [runWith_eq hq hread hdoc, hkeep, ByteArray.empty_append]
  cases mem.flushFailure <;> rfl

theorem runWith_of_exceeds (h : mem.limit = some (most, why))
    (hexceeds : most < (o.listing s root).toUTF8.size) :
    runWith parse mem.console o {} =
      (false, { kept := (o.listing s root).toUTF8.extract 0 most, errors := [.output why] }) := by
  have hkeep : mem.keep (o.listing s root) {} = _ := keep_of_exceeds h hexceeds
  rw [runWith_eq hq hread hdoc, hkeep, ByteArray.empty_append]
  rfl

end Document

end Memory

/-- However the lines of a listing are cut into pieces for writing, an output that holds so many bytes keeps
that many of the bytes which an output without a limit keeps, and all of them if there are no more. The run
tells whether anything was selected if all was kept and flushed. Otherwise it has found nothing and reports
one failure, that of the write, or that of the flush if everything could be written. -/
theorem output_of_limit {parse : String → Except String Markup} {mem : Memory}
    {cut : String → List String} {o : Options} {text : String} {root : NodeId} {s : Store}
    (hcut : ∀ t, String.join (cut t) = t) (hq : o.quiet = false)
    (hread : (mem.console.readAll o.paths {}).1 = .ok text)
    (hdoc : documentOf parse o.lenient text = .ok (root, s)) (most : Nat) (why : String) :
    let selected := s.select o.kind o.scope root
    let full := (runLimited parse mem cut o none).2.kept
    let run := runLimited parse mem cut o (some (most, why))
    full = (o.listing s root).toUTF8 ∧
    run.2.kept = full.extract 0 (min most full.size) ∧
    (full.size ≤ most → mem.flushFailure = none → run.1 = !selected.isEmpty ∧ run.2.errors = []) ∧
    (most < full.size → run.1 = false ∧ run.2.errors = [.output why]) ∧
    (full.size ≤ most → ∀ why', mem.flushFailure = some why' →
      run.1 = false ∧ run.2.errors = [.output why'] ∧ run.2.kept = full) := by
  intro selected full run
  have hrun : ∀ limit, runLimited parse mem cut o limit = runWith parse (mem.limited limit).console o {} :=
    fun limit => by rw [runLimited, Memory.inPieces_eq _ hcut]
  have hread' : ∀ limit, ((mem.limited limit).console.readAll o.paths {}).1 = .ok text := fun limit => by
    rw [Memory.readAll_limited, hread]
  have hfull : full = (o.listing s root).toUTF8 := by
    rw [← Memory.kept_of_unlimited hq (hread' none) hdoc rfl, ← hrun none]
  have hexceeds : most < full.size →
      run = (false, { kept := full.extract 0 most, errors := [.output why] }) := fun h => by
    rw [hfull] at h ⊢
    exact (hrun _).trans (Memory.runWith_of_exceeds hq (hread' _) hdoc rfl h)
  have hfits : full.size ≤ most → run = mem.flushFailure.elim (!selected.isEmpty, { kept := full })
      fun why => (false, { kept := full, errors := [.output why] }) := fun h => by
    rw [hfull] at h ⊢
    exact (hrun _).trans (Memory.runWith_of_fits hq (hread' _) hdoc rfl h)
  refine ⟨hfull, ?_, fun h hflush => ?_, fun h => ?_, fun h why' hflush => ?_⟩
  · rcases Nat.lt_or_ge most full.size with h | h
    · rw [hexceeds h, Nat.min_eq_left (Nat.le_of_lt h)]
    · rw [hfits h, Nat.min_eq_right h, ByteArray.extract_zero_size]
      cases mem.flushFailure <;> rfl
  · rw [hfits h, hflush]
    exact ⟨rfl, rfl⟩
  · rw [hexceeds h]
    exact ⟨rfl, rfl⟩
  · rw [hfits h, hflush]
    exact ⟨rfl, rfl, rfl⟩

/-- A memory with an input of one character, of two bytes, whose output cannot be flushed. -/
def unflushable : Memory :=
  { input := .ok "é", file := fun _ => .error "no files", flushFailure := some "gone" }

theorem output_of_limit_inside_character :
    let parse := fun t => .ok (.node .root [.leaf (.text t)])
    let o : Options := { kind := .text }
    let run := runLimited parse unflushable (fun t => t.toList.map String.singleton) o
    let full := "text \"é\"\n".toUTF8
    (run none).2.kept = full ∧ full.size = 10 ∧
      (run (some (7, "full"))).2.kept = full.extract 0 7 ∧
      (run (some (7, "full"))).2.errors = [.output "full"] ∧
      (run (some (10, "full"))).2.kept = full ∧ (run (some (10, "full"))).2.errors = [.output "gone"] := by
  intro parse o run full
  have hfull : (run none).2.kept = full := by decide +kernel
  have hsize : full.size = 10 := by decide +kernel
  have hq : o.quiet = false := rfl
  have hread : (unflushable.console.readAll o.paths {}).1 = .ok "é" := rfl
  have hok : (documentOf parse o.lenient "é").isOk := by decide +kernel
  cases hdoc : documentOf parse o.lenient "é" with
  | error cause =>
    rw [hdoc] at hok
    cases hok
  | ok source =>
    obtain ⟨-, hkept, -, hwrite, -⟩ := output_of_limit join_singletons hq hread hdoc 7 "full"
    obtain ⟨-, -, -, -, hflush⟩ := output_of_limit join_singletons hq hread hdoc 10 "full"
    rw [hfull, hsize] at hkept hwrite hflush
    obtain ⟨-, hgone, hwhole⟩ := hflush (Nat.le_refl 10) "gone" rfl
    exact ⟨hfull, hsize, hkept, (hwrite (by decide)).2, hwhole, hgone⟩

end MarkTree
