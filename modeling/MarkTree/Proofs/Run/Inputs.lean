import MarkTree.Run.Memory

/-!
# Dashes among the inputs

The first dash of a list of paths stands for standard input. A later one reads nothing, but it is not
ignored: it leaves an empty line where it stands. Without the later dashes the same inputs are read, with
the same answers and the same failures, and the text lacks one line ending for every dash that was
taken out (`readAll_later_dashes`).
-/

namespace MarkTree

/-- The paths without the dashes behind the first one; `taken` says that there was one before. -/
def withoutLaterDashes (taken : Bool) : List String → List String
  | [] => []
  | path :: rest =>
    if taken = true ∧ path = "-" then withoutLaterDashes taken rest
    else path :: withoutLaterDashes (taken || path == "-") rest

/-- The texts of some inputs in one, a line ending behind each; one that gives nothing is left blank. -/
def joined : List (Option String) → String
  | [] => ""
  | t :: rest => t.getD "" ++ "\n" ++ joined rest

variable {m : Type → Type} [Monad m]

/-- Reads one of the paths; a later dash gives nothing. -/
def Console.readPath (con : Console m) (taken : Bool) (path : String) :
    m (Except RunError (Option String)) :=
  if path = "-" then
    if taken then pure (.ok none)
    else return (← con.readInput).mapError (.input .standard) |>.map some
  else return (← con.readFile path).mapError (.input (.file path)) |>.map some

/-- Reads the paths in order, up to the first that cannot be read. -/
def Console.readEach (con : Console m) (taken : Bool) :
    List String → m (Except RunError (List (Option String)))
  | [] => pure (.ok [])
  | path :: rest => do
    match ← con.readPath taken path with
    | .error e => pure (.error e)
    | .ok t => return (← con.readEach (taken || path == "-") rest).map (t :: ·)

/-! ## Line endings -/

theorem length_joined (ts : List (Option String)) :
    (joined ts).length = (joined (ts.filter (·.isSome))).length + ts.count none := by
  induction ts with
  | nil => rfl
  | cons t rest ih =>
    cases t with
    | none =>
      rw [joined, String.length_append, ih, List.filter_cons_of_neg (by simp), List.count_cons_self,
        Nat.add_comm, Nat.add_assoc]
      rfl
    | some t =>
      rw [joined, String.length_append, ih, List.filter_cons_of_pos (by simp), joined,
        String.length_append (_ ++ _), List.count_cons_of_ne (by simp), Nat.add_assoc]

/-- Blanks are seen in the text. -/
theorem joined_filter_eq_iff (ts : List (Option String)) :
    joined (ts.filter (·.isSome)) = joined ts ↔ none ∉ ts := by
  constructor
  · intro h
    have hlen := length_joined ts
    rw [h] at hlen
    exact List.count_eq_zero.mp (by omega)
  · intro h
    have hall : ts.filter (·.isSome) = ts := by
      refine List.filter_eq_self.mpr fun t ht => ?_
      cases t with
      | none => exact absurd ht h
      | some t => rfl
    rw [hall]

/-! ## Reading one path after the other -/

theorem readAll_cons (con : Console m) (path : String) (rest : List String) :
    con.readAll (path :: rest) = con.readListed false "" (path :: rest) := rfl

variable [LawfulMonad m] {con : Console m}

theorem readPath_of_not_later (con : Console m) {taken : Bool} {path : String} (h : ¬ (taken = true ∧ path = "-")) :
    ∃ act : m (Except RunError String), con.readPath taken path = do return (← act).map some := by
  rw [Console.readPath]
  split
  · rename_i hdash
    rw [if_neg fun ht => h ⟨ht, hdash⟩]
    exact ⟨do return (← con.readInput).mapError (.input .standard), by simp⟩
  · exact ⟨do return (← con.readFile path).mapError (.input (.file path)), by simp⟩

theorem readListed_cons (taken : Bool) (text path : String) (rest : List String) :
    con.readListed taken text (path :: rest) = (do
      match ← con.readPath taken path with
      | .error e => pure (.error e)
      | .ok t => con.readListed (taken || path == "-") (text ++ t.getD "" ++ "\n") rest) := by
  rw [Console.readListed, Console.readPath]
  by_cases hdash : path = "-"
  · cases taken with
    | true => simp [hdash]
    | false =>
      simp only [hdash, if_true, Bool.false_eq_true, if_false, bind_assoc, pure_bind]
      refine bind_congr fun t => ?_
      cases t <;> rfl
  · simp only [hdash, if_false, bind_assoc, pure_bind, beq_false_of_ne hdash, Bool.or_false]
    refine bind_congr fun t => ?_
    cases t <;> rfl

theorem readListed_eq (taken : Bool) (text : String) (paths : List String) :
    con.readListed taken text paths =
      (do return (← con.readEach taken paths).map (text ++ joined ·)) := by
  induction paths generalizing taken text with
  | nil => simp [Console.readListed, Console.readEach, Except.map, joined]
  | cons path rest ih =>
    rw [readListed_cons, Console.readEach, bind_assoc]
    refine bind_congr fun t => ?_
    cases t with
    | error e => simp [Except.map]
    | ok t =>
      simp only [ih, bind_assoc, pure_bind]
      refine bind_congr fun ts => ?_
      cases ts with
      | error e => rfl
      | ok ts => simp [Except.map, joined, String.append_assoc]

theorem readListed_withoutLaterDashes (taken : Bool) (text : String) (paths : List String) :
    con.readListed taken text (withoutLaterDashes taken paths) =
      (do return (← con.readEach taken paths).map fun ts => text ++ joined (ts.filter (·.isSome))) := by
  induction paths generalizing taken text with
  | nil => simp [withoutLaterDashes, Console.readListed, Console.readEach, Except.map, joined]
  | cons path rest ih =>
    rw [withoutLaterDashes, Console.readEach]
    split
    · rename_i hdash
      obtain ⟨rfl, rfl⟩ := hdash
      -- with the dash this path gives a blank, which is not among the texts that are kept
      have hpath : con.readPath true "-" = pure (.ok none) := rfl
      rw [hpath, pure_bind, ih, Bool.true_or, bind_assoc]
      refine bind_congr fun ts => ?_
      cases ts <;> simp [Except.map]
    · rename_i hkept
      obtain ⟨act, hact⟩ := readPath_of_not_later con hkept
      rw [readListed_cons, hact, bind_assoc, bind_assoc, bind_assoc]
      refine bind_congr fun t => ?_
      cases t with
      | error e => simp [Except.map]
      | ok t =>
        simp only [ih, Except.map, bind_assoc, pure_bind]
        refine bind_congr fun ts => ?_
        cases ts with
        | error e => rfl
        | ok ts => simp [joined, String.append_assoc]

/-- Without the later dashes the same is read, and the text is the same but for the blanks. -/
theorem readAll_later_dashes (con : Console m) (path : String) (rest : List String) :
    con.readAll (path :: rest) = (do return (← con.readEach false (path :: rest)).map joined) ∧
    con.readAll (withoutLaterDashes false (path :: rest)) =
      (do return (← con.readEach false (path :: rest)).map fun ts => joined (ts.filter (·.isSome))) ∧
    ∀ ts, joined (ts.filter (·.isSome)) = joined ts ↔ none ∉ ts := by
  have hfirst : withoutLaterDashes false (path :: rest) =
      path :: withoutLaterDashes (path == "-") rest := by simp [withoutLaterDashes]
  refine ⟨?_, ?_, joined_filter_eq_iff⟩
  · simp only [readAll_cons, readListed_eq, String.empty_append]
  · rw [hfirst, readAll_cons, ← hfirst, readListed_withoutLaterDashes]
    simp only [String.empty_append]

/-- Standard input and a file. -/
def twoInputs : Memory := { input := .ok "a", file := fileIn [("b.md", "b")] id }

theorem readAll_later_dashes_two :
    twoInputs.console.readAll ["-", "-", "b.md"] =
        (do return (← twoInputs.console.readEach false ["-", "-", "b.md"]).map joined) ∧
      (twoInputs.console.readEach false ["-", "-", "b.md"] {}).1 = .ok [some "a", none, some "b"] :=
  ⟨(readAll_later_dashes twoInputs.console "-" ["-", "b.md"]).1, rfl⟩

/-- A later dash is seen in the text. -/
theorem readAll_second_dash :
    (twoInputs.console.readAll ["-", "-", "b.md"] {}).1 = .ok "a\n\nb\n" ∧
      (twoInputs.console.readAll (withoutLaterDashes false ["-", "-", "b.md"]) {}).1 = .ok "a\nb\n" ∧
      (twoInputs.console.readAll ["-", "-", "b.md"] {}).1 ≠
        (twoInputs.console.readAll (withoutLaterDashes false ["-", "-", "b.md"]) {}).1 := by
  have hboth : (twoInputs.console.readAll ["-", "-", "b.md"] {}).1 = .ok "a\n\nb\n" := rfl
  have honce : (twoInputs.console.readAll (withoutLaterDashes false ["-", "-", "b.md"]) {}).1 =
      .ok "a\nb\n" := rfl
  refine ⟨hboth, honce, ?_⟩
  rw [hboth, honce]
  exact fun h => absurd (Except.ok.inj h) (by decide)

end MarkTree
