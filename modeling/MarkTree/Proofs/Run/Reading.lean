import MarkTree.Proofs.Run.Calls
import MarkTree.Proofs.Run.Inputs
import Mathlib.Data.List.ReduceOption

/-!
# Inputs that are read

Which inputs a run reads depends on its paths only, up to the first input that cannot be read: each path
calls for a file, the first dash for standard input, and a later dash for nothing (`inputsFor`). The run reads
what its paths call for, in their order, and every time that they call for it. It stops at the first input
that cannot be read, and that one is in the failure (`Course`).

So a console is known to a run by its answers so far. Two consoles that answer alike, up to the first
input that cannot be read, are read alike (`readEach_eq_of_agree`).
-/

namespace MarkTree

/-! ## What paths call for -/

/-- The input that a path names. -/
def InputName.ofPath (path : String) : InputName := if path = "-" then .standard else .file path

/-- What a path calls for; `taken` says that there was a dash before. -/
def inputFor (taken : Bool) (path : String) : Option InputName :=
  if taken = true ∧ path = "-" then none else some (.ofPath path)

/-- What some paths call for, in their order. -/
def inputsFor (taken : Bool) : List String → List (Option InputName)
  | [] => []
  | path :: rest => inputFor taken path :: inputsFor (taken || path == "-") rest

/-- The inputs of a run, each as often as it is called for. -/
def inputsOf : List String → List InputName
  | [] => [.standard]
  | paths => (inputsFor false paths).reduceOption

/-- Standard input is called for once, if there is a dash. -/
theorem count_standard_inputsFor (taken : Bool) (paths : List String) :
    (inputsFor taken paths).count (some .standard) = if taken = false ∧ "-" ∈ paths then 1 else 0 := by
  induction paths generalizing taken with
  | nil => simp [inputsFor]
  | cons path rest ih =>
    rw [inputsFor, List.count_cons, ih, inputFor, InputName.ofPath]
    by_cases hdash : path = "-"
    · cases taken <;> simp [hdash]
    · simp [hdash, Ne.symm hdash]

/-- A file is called for as often as it is listed. -/
theorem count_file_inputsFor (taken : Bool) (paths : List String) {path : String} (h : path ≠ "-") :
    (inputsFor taken paths).count (some (.file path)) = paths.count path := by
  induction paths generalizing taken with
  | nil => rfl
  | cons first rest ih =>
    rw [inputsFor, List.count_cons, List.count_cons, ih, inputFor, InputName.ofPath]
    by_cases hdash : first = "-"
    · cases taken <;> simp [hdash, Ne.symm h]
    · simp [hdash]

/-! ## What is read -/

/-- Reads an input. -/
def Console.ask {m : Type → Type} (con : Console m) : InputName → m (Except String String)
  | .standard => con.readInput
  | .file path => con.readFile path

namespace Call

def read : InputName → Except String String → Call
  | .standard, answer => .readInput answer
  | .file path, answer => .readFile path answer

/-- The input that a call reads. -/
def input? : Call → Option InputName
  | readInput _ => some .standard
  | readFile path _ => some (.file path)
  | _ => none

theorem input?_read (name : InputName) (answer : Except String String) :
    (read name answer).input? = some name := by
  cases name <;> rfl

end Call

/-- The calls that read some texts, each from its input; nothing is read for `none`. -/
def readings (entries : List (Option (InputName × String))) : List Call :=
  entries.filterMap fun e => e.map fun q => .read q.1 (.ok q.2)

theorem readings_cons (e : Option (InputName × String)) (entries : List (Option (InputName × String))) :
    readings (e :: entries) = readings [e] ++ readings entries := by
  rw [readings, ← List.singleton_append, List.filterMap_append]
  rfl

/-- How the paths are read: those that were `read`, what came of it, and the calls that were made. Either all
are read, and what they call for gives the texts; or the last one of those that were read calls for an input
that cannot be read, and the paths behind are not looked at. -/
inductive Course (taken : Bool) :
    List String → List String → Except RunError (List (Option String)) → List Call → Prop
  | whole {paths : List String} {entries : List (Option (InputName × String))}
    (h : entries.map (·.map Prod.fst) = inputsFor taken paths) :
    Course taken paths paths (.ok (entries.map (·.map Prod.snd))) (readings entries)
  | broken {before behind : List String} {path why : String} {entries : List (Option (InputName × String))}
    (h : entries.map (·.map Prod.fst) ++ [some (.ofPath path)] = inputsFor taken (before ++ [path])) :
    Course taken (before ++ path :: behind) (before ++ [path]) (.error (.input (.ofPath path) why))
      (readings entries ++ [.read (.ofPath path) (.error why)])

section Course

variable {taken : Bool} {path why : String} {paths read rest : List String} {calls : List Call}
  {r : Except RunError (List (Option String))} {e : Option (InputName × String)}

/-- A path that could be read comes first. -/
theorem Course.cons (he : e.map Prod.fst = inputFor taken path)
    (h : Course (taken || path == "-") rest read r calls) :
    Course taken (path :: rest) (path :: read) (r.map (e.map Prod.snd :: ·)) (readings [e] ++ calls) := by
  cases h with
  | @whole _ entries h =>
    have hentries : (e :: entries).map (·.map Prod.fst) = inputsFor taken (path :: read) := by
      rw [List.map_cons, he, h, inputsFor]
    rw [← readings_cons]
    exact .whole hentries
  | @broken before behind last why entries h =>
    have hentries : (e :: entries).map (·.map Prod.fst) ++ [some (.ofPath last)] =
        inputsFor taken (path :: before ++ [last]) := by
      rw [List.map_cons, he, List.cons_append, h, List.cons_append, inputsFor]
    rw [← List.append_assoc, ← readings_cons]
    exact .broken hentries

/-- The path that comes first cannot be read. -/
theorem Course.failed (h : inputFor taken path = some (.ofPath path)) :
    Course taken (path :: rest) [path] (.error (.input (.ofPath path) why))
      [.read (.ofPath path) (.error why)] := by
  have hentries : ([] : List (Option (InputName × String))).map (·.map Prod.fst) ++ [some (.ofPath path)] =
      inputsFor taken ([] ++ [path]) := by
    rw [List.nil_append, inputsFor, h]
    rfl
  exact .broken hentries

theorem map_input?_readings (entries : List (Option (InputName × String))) :
    (readings entries).map Call.input? = (entries.map (·.map Prod.fst)).filter (·.isSome) := by
  induction entries with
  | nil => rfl
  | cons e rest ih =>
    cases e with
    | none =>
      rw [List.map_cons, List.filter_cons_of_neg (by simp), ← ih]
      rfl
    | some q =>
      rw [List.map_cons, List.filter_cons_of_pos (by simp), ← ih, Option.map_some,
        ← Call.input?_read q.1 (.ok q.2)]
      rfl

/-- The inputs that are read are those that the paths call for. -/
theorem Course.map_input? (h : Course taken paths read r calls) :
    calls.map Call.input? = (inputsFor taken read).filter (·.isSome) := by
  cases h with
  | whole h => rw [map_input?_readings, h]
  | broken h =>
    rw [List.map_append, map_input?_readings, ← h, List.filter_append, List.map_singleton,
      Call.input?_read]
    rfl

/-- Standard input is read once if there is a dash among the paths that were read. -/
theorem Course.count_standard (h : Course false paths read r calls) :
    (calls.map Call.input?).count (some .standard) = if "-" ∈ read then 1 else 0 := by
  rw [h.map_input?, List.count_filter rfl, count_standard_inputsFor]
  simp

/-- A file is read as often as it is listed among the paths that were read. -/
theorem Course.count_file (h : Course taken paths read r calls) {file : String} (hfile : file ≠ "-") :
    (calls.map Call.input?).count (some (.file file)) = read.count file := by
  rw [h.map_input?, List.count_filter rfl, count_file_inputsFor taken read hfile]

end Course

/-! ## One path after the other -/

theorem readPath_later {m : Type → Type} [Monad m] (con : Console m) :
    con.readPath true "-" = pure (.ok none) := rfl

theorem readPath_eq_ask {m : Type → Type} [Monad m] (con : Console m) {taken : Bool} {path : String}
    (h : ¬ (taken = true ∧ path = "-")) :
    con.readPath taken path =
      (do return ((← con.ask (.ofPath path)).mapError (.input (.ofPath path))).map some) := by
  rw [Console.readPath, InputName.ofPath]
  by_cases hdash : path = "-"
  · rw [if_pos hdash, if_neg fun ht => h ⟨ht, hdash⟩, if_pos hdash]
    rfl
  · rw [if_neg hdash, if_neg hdash]
    rfl

section Notes

variable {σ : Type} {con : Console (StateM σ)}

theorem notes_ask (name : InputName) (w : σ) :
    Notes w (fun answer new => new = [.read name answer]) (con.ask name) (con.noted.ask name) := by
  cases name with
  | standard => exact notes_note .readInput con.readInput
  | file path => exact notes_note (.readFile path) (con.readFile path)

/-- A path gives the text that it calls for, if any; or reading that fails. -/
theorem notes_readPath (taken : Bool) (path : String) (w : σ) :
    Notes w (fun r new =>
      (∃ e : Option (InputName × String), e.map Prod.fst = inputFor taken path ∧
        r = .ok (e.map Prod.snd) ∧ new = readings [e]) ∨
      ∃ why, inputFor taken path = some (.ofPath path) ∧ r = .error (.input (.ofPath path) why) ∧
        new = [.read (.ofPath path) (.error why)])
      (con.readPath taken path) (con.noted.readPath taken path) := by
  by_cases hlater : taken = true ∧ path = "-"
  · obtain ⟨rfl, rfl⟩ := hlater
    rw [readPath_later, readPath_later]
    exact notes_pure (.inl ⟨none, rfl, rfl, rfl⟩)
  · have hcalled : inputFor taken path = some (.ofPath path) := if_neg hlater
    rw [readPath_eq_ask con hlater, readPath_eq_ask con.noted hlater]
    refine (notes_ask (.ofPath path) w).bind fun new hnew => ?_
    apply notes_stop
    subst hnew
    cases (con.ask (.ofPath path) w).1 with
    | error why => exact .inr ⟨why, hcalled, rfl, rfl⟩
    | ok t => exact .inl ⟨some (.ofPath path, t), hcalled.symm, rfl, rfl⟩

theorem notes_readEach (taken : Bool) (paths : List String) (w : σ) :
    Notes w (fun r calls => ∃ read, Course taken paths read r calls)
      (con.readEach taken paths) (con.noted.readEach taken paths) := by
  induction paths generalizing taken w with
  | nil =>
    have hentries : ([] : List (Option (InputName × String))).map (·.map Prod.fst) =
      inputsFor taken [] := rfl
    exact notes_pure ⟨[], .whole hentries⟩
  | cons path rest ih =>
    rw [Console.readEach, Console.readEach]
    refine (notes_readPath taken path w).bind fun new hnew => ?_
    rcases hnew with ⟨e, he, hr, rfl⟩ | ⟨why, hcalled, hr, rfl⟩
    · rw [hr]
      refine (ih (taken || path == "-") _).bind fun calls hcalls => ?_
      obtain ⟨read, hcourse⟩ := hcalls
      exact notes_stop ⟨path :: read, hcourse.cons he⟩
    · rw [hr]
      exact notes_stop ⟨[path], .failed hcalled⟩

end Notes

/-! ## Consoles that answer alike -/

/-- Asked for the inputs in turn, two consoles give the same answers, up to the first that is no text. -/
def Agree {σ σ' : Type} (con : Console (StateM σ)) (con' : Console (StateM σ')) :
    List InputName → σ → σ' → Prop
  | [], _, _ => True
  | name :: rest, w, w' => (con.ask name w).1 = (con'.ask name w').1 ∧
    ∀ t, (con.ask name w).1 = .ok t → Agree con con' rest (con.ask name w).2 (con'.ask name w').2

section Agree

variable {σ σ' : Type} {con : Console (StateM σ)} {con' : Console (StateM σ')} {w : σ} {w' : σ'}

theorem readPath_apply {taken : Bool} {path : String} (h : ¬ (taken = true ∧ path = "-")) (w : σ) :
    con.readPath taken path w =
      (((con.ask (.ofPath path) w).1.mapError (.input (.ofPath path))).map some,
        (con.ask (.ofPath path) w).2) := by
  rw [readPath_eq_ask con h]
  rfl

theorem readEach_apply (taken : Bool) (path : String) (rest : List String) (w : σ) :
    (con.readEach taken (path :: rest) w).1 = (con.readPath taken path w).1.bind fun t =>
      (con.readEach (taken || path == "-") rest (con.readPath taken path w).2).1.map (t :: ·) := by
  rw [Console.readEach, bind_apply]
  cases (con.readPath taken path w).1 <;> rfl

theorem readEach_eq_of_agree (taken : Bool) (paths : List String)
    (h : Agree con con' (inputsFor taken paths).reduceOption w w') :
    (con.readEach taken paths w).1 = (con'.readEach taken paths w').1 := by
  induction paths generalizing taken w w' with
  | nil => rfl
  | cons path rest ih =>
    rw [inputsFor] at h
    rw [readEach_apply, readEach_apply]
    by_cases hlater : taken = true ∧ path = "-"
    · rw [inputFor, if_pos hlater, List.reduceOption_cons_of_none] at h
      obtain ⟨rfl, rfl⟩ := hlater
      exact congrArg (·.map (none :: ·)) (ih true h)
    · rw [inputFor, if_neg hlater, List.reduceOption_cons_of_some] at h
      obtain ⟨hanswer, hrest⟩ := h
      rw [readPath_apply hlater, readPath_apply hlater, ← hanswer]
      cases ht : (con.ask (.ofPath path) w).1 with
      | error why => rfl
      | ok t => exact congrArg (·.map (some t :: ·)) (ih _ (hrest t ht))

end Agree

/-! ## All inputs -/

theorem readAll_nil {m : Type → Type} [Monad m] [LawfulMonad m] (con : Console m) :
    con.readAll [] = (do return (← con.readInput).mapError (.input .standard)) := by
  rw [Console.readAll]
  refine bind_congr fun answer => ?_
  cases answer <;> rfl

theorem readAll_eq_readEach {m : Type → Type} [Monad m] [LawfulMonad m] (con : Console m) (path : String)
    (rest : List String) :
    con.readAll (path :: rest) = (do return (← con.readEach false (path :: rest)).map joined) := by
  simp only [readAll_cons, readListed_eq, String.empty_append]

/-- Without paths a run reads standard input. Otherwise it reads the paths in their order, all of them or up to
and with the first that calls for an input that cannot be read; that input is named in the failure. If there
is none, the text has what each path calls for, with a line ending behind. Standard input is read once at
most, and not at all unless there is a dash among the paths that were read; a file is read as often as it is
listed among them. No other call is made. A console that gives the same answers as another, in turn and up to
the first that is a failure, is read with the same result. -/
theorem readAll_in_order {σ : Type} (con : Console (StateM σ)) (w : σ) :
    Notes w (fun r calls => ∃ answer, calls = [.readInput answer] ∧ r = answer.mapError (.input .standard))
      (con.readAll []) (con.noted.readAll []) ∧
    (∀ paths, paths ≠ [] →
      Notes w (fun r calls => ∃ read each, Course false paths read each calls ∧ r = each.map joined ∧
          (calls.map Call.input?).count (some .standard) = (if "-" ∈ read then 1 else 0) ∧
          ∀ file, file ≠ "-" → (calls.map Call.input?).count (some (.file file)) = read.count file)
        (con.readAll paths) (con.noted.readAll paths)) ∧
    ∀ (σ' : Type) (con' : Console (StateM σ')) (w' : σ') (paths : List String),
      Agree con con' (inputsOf paths) w w' → (con.readAll paths w).1 = (con'.readAll paths w').1 := by
  refine ⟨?_, fun paths hpaths => ?_, fun σ' con' w' paths h => ?_⟩
  · rw [readAll_nil, readAll_nil]
    refine (notes_note .readInput con.readInput).bind fun calls hcalls => ?_
    exact notes_stop ⟨_, hcalls, rfl⟩
  · obtain ⟨path, rest, rfl⟩ := List.exists_cons_of_ne_nil hpaths
    rw [readAll_eq_readEach, readAll_eq_readEach]
    refine (notes_readEach false (path :: rest) w).bind fun calls hcalls => ?_
    obtain ⟨read, hcourse⟩ := hcalls
    exact notes_stop ⟨read, _, hcourse, rfl, hcourse.count_standard, fun file hfile => hcourse.count_file hfile⟩
  · cases paths with
    | nil =>
      rw [readAll_nil, readAll_nil]
      exact congrArg (Except.mapError (RunError.input .standard)) h.1
    | cons path rest =>
      rw [readAll_eq_readEach, readAll_eq_readEach]
      exact congrArg (·.map joined) (readEach_eq_of_agree false (path :: rest) h)

/-- Standard input and two files, of which the second has the text `d`. -/
def twoFiles (d : String) : Memory :=
  { input := .ok "a", file := fileIn [("b.md", "b"), ("d.md", d)] id }

/-- A file that is listed twice, a later dash, and a file behind one that is not there. -/
theorem readAll_in_order_repeated :
    let paths := ["b.md", "-", "-", "b.md", "c.md", "d.md"]
    let calls : List Call := [.readFile "b.md" (.ok "b"), .readInput (.ok "a"), .readFile "b.md" (.ok "b"),
      .readFile "c.md" (.error "c.md")]
    (∃ read each, Course false paths read each calls ∧
      (calls.map Call.input?).count (some .standard) = (if "-" ∈ read then 1 else 0) ∧
      (calls.map Call.input?).count (some (.file "b.md")) = read.count "b.md") ∧
    ((twoFiles "d").console.readAll paths {}).1 = .error (.input (.file "c.md") "c.md") ∧
    ((twoFiles "d").console.readAll paths {}).1 = ((twoFiles "e").console.readAll paths {}).1 ∧
    ((twoFiles "d").console.readAll ["b.md", "-", "-", "b.md"] {}).1 = .ok "b\na\n\nb\n" := by
  intro paths calls
  obtain ⟨-, hread, hagree⟩ := readAll_in_order (twoFiles "d").console {}
  obtain ⟨new, ⟨read, each, hcourse, -, hstandard, hfile⟩, hnoted⟩ := hread paths (by decide)
  have hcalls : calls = new := congrArg (·.2.2) (hnoted [])
  subst hcalls
  refine ⟨⟨read, each, hcourse, hstandard, hfile "b.md" (by decide)⟩, rfl, ?_, rfl⟩
  apply hagree
  -- the files differ only behind the one that is not there
  refine ⟨rfl, fun _ _ => ⟨rfl, fun _ _ => ⟨rfl, fun _ _ => ⟨rfl, fun t ht => ?_⟩⟩⟩⟩
  cases ht

end MarkTree
