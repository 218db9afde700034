import MarkTree.CommandLine.Arguments
import MarkTree.Proofs.Lists

/-!
# What is relied on in a parser of arguments

Which words a parser takes for which argument is known of a few simple calls only (`Parser.Lawful`): behind a
double dash, where everything goes by its place; and for one option at a time, put into a call that is
accepted without it. The several ways to write an option are each compared with its long name, the value
being the next word. What a call with many options comes to has to be derived from that.
-/

namespace MarkTree.CommandLine

/-- A word that does not look like an option. -/
def Plain (w : String) : Prop := w.toList.head? ≠ some '-'

instance (w : String) : Decidable (Plain w) := inferInstanceAs (Decidable (_ ≠ _))

/-- What is relied on when a parser reads the arguments of a call by the declaration `D`. -/
structure Parser.Lawful (parser : Parser) (D : Declaration) : Prop where
  /-- Behind a double dash every word goes by its place, whatever it looks like. -/
  escaped {given : List (Argument × String)}
    (hplaced : ∀ i a v, given[i]? = some (a, v) → D.placed? i = some a ∧ a.accepts v)
    (hrequired : ∀ a ∈ D, a.required → a ∈ given.map Prod.fst) :
    parser D ("--" :: given.map Prod.snd) = .ok (.of given)
  /-- A plain word goes by its place in front of a double dash as well. -/
  plain {front rest : List String} {w : String} {m : Matches} (hfront : ∀ w ∈ front, Plain w)
    (hw : Plain w) (h : parser D (front ++ "--" :: w :: rest) = .ok m) :
    parser D (front ++ w :: "--" :: rest) = .ok m
  /-- A flag may stand anywhere, if it was not given yet. -/
  flag {front rest : List String} {a : Argument} {name : String} {m : Matches}
    (hfront : ∀ w ∈ front, Plain w) (ha : a ∈ D) (haction : a.action = .flag)
    (hname : a.long = some name) (h : parser D (front ++ rest) = .ok m) (hnew : m a.id = []) :
    parser D (front ++ ("--" ++ name) :: rest) = .ok (m.add a "true")
  /-- So may an option with a value that it accepts. -/
  option {front rest : List String} {a : Argument} {name v : String} {m : Matches}
    (hfront : ∀ w ∈ front, Plain w) (ha : a ∈ D) (haction : a.action = .set)
    (hname : a.long = some name) (hv : Plain v) (haccepts : a.accepts v)
    (h : parser D (front ++ rest) = .ok m) (hnew : m a.id = []) :
    parser D (front ++ ("--" ++ name) :: v :: rest) = .ok (m.add a v)
  /-- The letter of an option stands for its long name. -/
  letter {front rest : List String} {a : Argument} {name : String} {c : Char} {m : Matches}
    (hfront : ∀ w ∈ front, Plain w) (ha : a ∈ D) (hname : a.long = some name)
    (hc : a.letter = some c) (h : parser D (front ++ ("--" ++ name) :: rest) = .ok m) :
    parser D (front ++ ("-" ++ c.toString) :: rest) = .ok m
  /-- The value of an option may be joined to its long name by an equals sign. -/
  joined {front rest : List String} {a : Argument} {name v : String} {m : Matches}
    (hfront : ∀ w ∈ front, Plain w) (ha : a ∈ D) (haction : a.action = .set)
    (hname : a.long = some name) (hv : Plain v) (hne : v ≠ "")
    (h : parser D (front ++ ("--" ++ name) :: v :: rest) = .ok m) :
    parser D (front ++ ("--" ++ name ++ "=" ++ v) :: rest) = .ok m
  /-- So may it be to the letter of an option. -/
  letterJoined {front rest : List String} {a : Argument} {c : Char} {v : String} {m : Matches}
    (hfront : ∀ w ∈ front, Plain w) (ha : a ∈ D) (haction : a.action = .set)
    (hc : a.letter = some c) (hv : Plain v) (hne : v ≠ "")
    (h : parser D (front ++ ("-" ++ c.toString) :: v :: rest) = .ok m) :
    parser D (front ++ ("-" ++ c.toString ++ "=" ++ v) :: rest) = .ok m
  /-- Behind a letter the equals sign can be left out. -/
  letterAttached {front rest : List String} {a : Argument} {c : Char} {v : String} {m : Matches}
    (hfront : ∀ w ∈ front, Plain w) (ha : a ∈ D) (haction : a.action = .set)
    (hc : a.letter = some c) (hv : Plain v) (hne : v ≠ "") (heq : v.toList.head? ≠ some '=')
    (h : parser D (front ++ ("-" ++ c.toString) :: v :: rest) = .ok m) :
    parser D (front ++ ("-" ++ c.toString ++ v) :: rest) = .ok m

/-! ## Values that were given -/

namespace Matches

variable {m : Matches} {a b : Argument} {v w : String}

theorem of_append (given : List (Argument × String)) (a : Argument) (v : String) :
    of (given ++ [(a, v)]) = (of given).add a v := by
  funext id
  rw [of, add, List.filter_append, List.map_append]
  by_cases h : id = a.id
  · simp [h, of]
  · have hne : a.id ≠ id := fun he => h he.symm
    simp [h, hne, of]

/-- The first argument may be given last, if it is not given again. -/
theorem of_cons {given : List (Argument × String)} (h : of given a.id = []) :
    of ((a, v) :: given) = (of given).add a v := by
  funext id
  rw [add]
  split
  · rename_i hid
    rw [hid, h, of, List.filter_cons_of_pos (by simp), List.map_cons]
    exact congrArg (v :: ·) h
  · rename_i hid
    rw [of, List.filter_cons_of_neg (by simpa using fun he => hid he.symm)]
    rfl

theorem of_eq_nil_iff {given : List (Argument × String)} {id : String} :
    of given id = [] ↔ ∀ g ∈ given, g.1.id ≠ id := by
  rw [of, List.map_eq_nil_iff, List.filter_eq_nil_iff]
  simp

theorem add_self (m : Matches) (a : Argument) (v : String) : m.add a v a.id = m a.id ++ [v] := if_pos rfl

theorem add_of_ne (h : b.id ≠ a.id) (v : String) : m.add a v b.id = m b.id := if_neg h

theorem add_comm (h : a.id ≠ b.id) : (m.add a v).add b w = (m.add b w).add a v := by
  funext id
  simp only [add]
  split <;> split <;> simp_all

theorem eq_nil_of_add (h : m.add a v b.id = []) : b.id ≠ a.id ∧ m b.id = [] := by
  by_cases he : b.id = a.id
  · rw [add, if_pos he] at h
    exact absurd (List.append_eq_nil_iff.mp h).2 (List.cons_ne_nil _ _)
  · rw [add, if_neg he] at h
    exact ⟨he, h⟩

end Matches

end MarkTree.CommandLine
