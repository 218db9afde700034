import MarkTree.Proofs.CommandLine.Courses
import MarkTree.Proofs.Text.Pieces

/-!
# The scanner keeps the laws

Each law compares two calls that begin with the same plain words. These lead to one draft (`exists_front`),
from which the two courses are followed side by side.

* `outcome_joined`, `outcome_next`: a value joined to its option, and one in the next word, are given alike.
* `foldlM_ended`: behind the end of the options words go by their place, one after the other.
* `scan_lawful`: the scanner keeps the laws for every declaration that makes sense (`Declaration.Valid`).
-/

namespace MarkTree.CommandLine

/-- No two arguments can be taken for each other, nor an option for its value. -/
structure Declaration.Valid (D : Declaration) : Prop where
  ids : (D.map Argument.id).Nodup
  longs : (D.filterMap Argument.long).Nodup
  letters : (D.filterMap Argument.letter).Nodup
  names : ∀ name ∈ D.filterMap Argument.long, name ≠ "" ∧ '=' ∉ name.toList
  noDash : '-' ∉ D.filterMap Argument.letter
  flags : ∀ a ∈ D, a.action = .flag → a.values = none
  byPlace : ∀ a ∈ D, a.byPlace → a.takesValue

namespace Shape

variable {name v : String} {c : Char}

/-- The name of a long option goes up to the first equals sign. -/
theorem ofLong_joined (h : '=' ∉ name.toList) (v : List Char) :
    ofLong (name.toList ++ '=' :: v) = .long name (some (String.ofList v)) := by
  have htake : (name.toList ++ '=' :: v).takeWhile (· != '=') = name.toList := by
    rw [takeWhile_append_of_notMem h, List.takeWhile_cons_of_neg (by decide), List.append_nil]
  simp only [ofLong, htake, List.drop_left, String.ofList_toList]

theorem ofLong_alone (h : '=' ∉ name.toList) : ofLong name.toList = .long name none := by
  have htake : name.toList.takeWhile (· != '=') = name.toList := by
    simpa using takeWhile_append_of_notMem h []
  simp only [ofLong, htake, List.drop_length, String.ofList_toList]

theorem of_long {cs : List Char} {a : String} (ha : a.toList = '-' :: '-' :: cs) (hcs : cs ≠ []) :
    of a = ofLong cs := by
  cases cs with
  | nil => exact absurd rfl hcs
  | cons c rest =>
    rw [of, ha]
    rfl

theorem of_alone (hne : name ≠ "") (h : '=' ∉ name.toList) : of ("--" ++ name) = .long name none := by
  have ha : ("--" ++ name).toList = '-' :: '-' :: name.toList := by simp [String.toList_append]
  rw [of_long ha (by simpa using hne), ofLong_alone h]

theorem of_joined (h : '=' ∉ name.toList) (v : String) :
    of ("--" ++ name ++ "=" ++ v) = .long name (some v) := by
  have ha : ("--" ++ name ++ "=" ++ v).toList = '-' :: '-' :: (name.toList ++ '=' :: v.toList) := by
    simp [String.toList_append]
  rw [of_long ha (by simp), ofLong_joined h, String.ofList_toList]

theorem of_letters {cs : List Char} {a : String} (ha : a.toList = '-' :: c :: cs) (hc : c ≠ '-') :
    of a = .letters c cs := by
  rw [of, ha]
  simp [hc]

theorem of_plain (h : Plain v) : of v = .plain := by
  rw [of]
  rw [Plain] at h
  split <;> simp_all

end Shape

namespace Draft

variable {D : Declaration} {d d' e e' : Draft} {a b : Argument} {v w name : String} {rest : List String}
  {m : Matches}

/-! ## Single words -/

theorem takePlain_eq_ok_iff : takePlain D w d = .ok d' ↔ ∃ e a, settle d = .ok e ∧
    D.placed? d.placed = some a ∧
      d' = { e with pending := some ⟨a, some w⟩, placed := d.placed + 1 } := by
  rw [takePlain, bind_eq_ok_iff]
  refine exists_congr fun e => ?_
  rw [exists_and_left]
  refine and_congr_right fun he => ?_
  rw [place, placed_of_settle he]
  cases D.placed? d.placed with
  | none => simp
  | some a => simp [eq_comm]

/-- Plain words leave no option that waits, and do not end the options. -/
theorem foldlM_plain {front : List String} (hfront : ∀ w ∈ front, Plain w) (hd : d.ended = false)
    (hwaits : ¬ d.Waits) (h : front.foldlM (take D) d = .ok d') : d'.ended = false ∧ ¬ d'.Waits := by
  induction front generalizing d with
  | nil =>
    cases h
    exact ⟨hd, hwaits⟩
  | cons w rest ih =>
    obtain ⟨hw, hrest⟩ := List.forall_mem_cons.mp hfront
    rw [List.foldlM_cons] at h
    obtain ⟨d₁, h₁, h⟩ := bind_eq_ok_iff.mp h
    rw [take_plain hd (Shape.of_plain hw) hwaits] at h₁
    obtain ⟨e, a, he, -, rfl⟩ := takePlain_eq_ok_iff.mp h₁
    exact ih (d := { e with pending := some ⟨a, some w⟩, placed := d.placed + 1 }) hrest
      ((ended_of_settle he).trans hd) (not_waits_of_pending rfl) h

/-- Plain words lead to a draft from which every course goes on. -/
theorem exists_front {front : List String} (hfront : ∀ w ∈ front, Plain w)
    (h : scan D (front ++ rest) = .ok m) :
    ∃ d, d.ended = false ∧ ¬ d.Waits ∧ outcome D d rest = .ok m ∧
      ∀ rest', scan D (front ++ rest') = outcome D d rest' := by
  have hscan : ∀ rest', scan D (front ++ rest') = front.foldlM (take D) {} >>= (outcome D · rest') :=
    outcome_append D {} front
  rw [hscan] at h
  obtain ⟨d, hd, hm⟩ := bind_eq_ok_iff.mp h
  have hwaits : ¬ Waits {} := by
    rintro ⟨a, ha⟩
    cases ha
  obtain ⟨hended, hwaits⟩ := foldlM_plain hfront rfl hwaits hd
  refine ⟨d, hended, hwaits, hm, fun rest' => ?_⟩
  rw [hscan, hd]
  rfl

/-- An option with its value joined to it gives the value. -/
theorem outcome_joined (hw : take D d w = takeValued a (some v) d) :
    outcome D d (w :: rest) = .ok m ↔
      ∃ e e', settle d = .ok e ∧ give a v e = .ok e' ∧ outcome D e' rest = .ok m := by
  rw [outcome_cons, hw, takeValued, bind_assoc, bind_eq_ok_iff]
  simp only [start, bind_eq_ok_iff]
  tauto

/-- An option that waits for its value gives the next word. -/
theorem outcome_next (hd : d.ended = false) (hw : take D d w = takeValued a none d) (hv : Plain v) :
    outcome D d (w :: v :: rest) = .ok m ↔
      ∃ e e', settle d = .ok e ∧ give a v e = .ok e' ∧ outcome D e' rest = .ok m := by
  rw [outcome_cons, hw, takeValued, bind_assoc, bind_eq_ok_iff]
  refine exists_congr fun e => ?_
  rw [exists_and_left]
  refine and_congr_right fun he => ?_
  let waiting : Draft := { e with pending := some ⟨a, none⟩ }
  let supplied : Draft := { e with pending := some ⟨a, some v⟩ }
  have hended : waiting.ended = false := (ended_of_settle he).trans hd
  have hnext : outcome D waiting (v :: rest) = outcome D supplied rest := by
    rw [outcome_cons, take_supplied hended (Shape.of_plain hv) (supply_eq_some rfl v)]
    rfl
  have hsettle : settle supplied = give a v { e with pending := none } := rfl
  have hself : { e with pending := none } = e := by rw [settled_eq he]
  change outcome D waiting (v :: rest) = .ok m ↔ _
  rw [hnext, outcome_eq_ok_iff (not_waits_of_pending rfl), hsettle, hself]

/-! ## Options of a declaration -/

section Valid

variable (hD : D.Valid) (ha : a ∈ D)
include hD ha

theorem named?_eq (hname : a.long = some name) : D.named? name = some a :=
  find?_eq_of_nodup_filterMap hD.longs ha hname

theorem lettered?_eq {c : Char} (hc : a.letter = some c) : D.lettered? c = some a :=
  find?_eq_of_nodup_filterMap hD.letters ha hc

theorem take_name (hname : a.long = some name) (hd : d.ended = false) :
    take D d ("--" ++ name) = takeOption a none d := by
  obtain ⟨hne, hsign⟩ := hD.names name (List.mem_filterMap.mpr ⟨a, ha, hname⟩)
  rw [take_long hd (Shape.of_alone hne hsign), takeLong, named?_eq hD ha hname]

theorem take_name_joined (hname : a.long = some name) (hd : d.ended = false) :
    take D d ("--" ++ name ++ "=" ++ v) = takeOption a (some v) d := by
  obtain ⟨-, hsign⟩ := hD.names name (List.mem_filterMap.mpr ⟨a, ha, hname⟩)
  rw [take_long hd (Shape.of_joined hsign v), takeLong, named?_eq hD ha hname]

theorem take_letter {c : Char} (hc : a.letter = some c) (hd : d.ended = false) {cs : List Char} {w : String}
    (hw : w.toList = '-' :: c :: cs) (hcs : a.takesValue = true ∨ cs = []) :
    take D d w = takeOption a (joinedValue cs) d := by
  have hne : c ≠ '-' := by
    rintro rfl
    exact hD.noDash (List.mem_filterMap.mpr ⟨a, ha, hc⟩)
  rw [take_letters hd (Shape.of_letters hw hne), takeLetters.eq_def, lettered?_eq hD ha hc]
  rcases hcs with hvalue | rfl
  · simp only [hvalue, if_true]
  · simp only [joinedValue, ite_self]

end Valid

theorem takeOption_set (haction : a.action = .set) (value : Option String) :
    takeOption a value = takeValued a value := by
  rw [takeOption, haction]

theorem takeOption_flag (haction : a.action = .flag) :
    takeOption a none = fun d => settle d >>= give a "true" := by
  rw [takeOption, haction]
  rfl

/-! ## Words that go by their place -/

theorem mem_of_placed? {i : Nat} (h : D.placed? i = some a) : a ∈ D ∧ a.byPlace := by
  rw [Declaration.placed?, Option.or_eq_some_iff] at h
  rw [← List.mem_filter]
  rcases h with h | ⟨-, h⟩
  · exact List.mem_of_getElem? h
  · exact List.mem_of_getLast? (Option.filter_eq_some_iff.mp h).1

/-- Only an argument that takes many values is given at two places. -/
theorem append_of_placed?_twice (hD : D.Valid) {i j : Nat} (hi : D.placed? i = some a)
    (hj : D.placed? j = some b) (hne : i ≠ j) (hid : a.id = b.id) : a.action = .append := by
  obtain rfl : a = b := List.inj_on_of_nodup_map hD.ids (mem_of_placed? hi).1 (mem_of_placed? hj).1 hid
  rw [Declaration.placed?, Option.or_eq_some_iff] at hi hj
  have hlast : ∀ {o : Option Argument}, o.filter (·.action == .append) = some a → a.action = .append :=
    fun h => by simpa using (Option.filter_eq_some_iff.mp h).2
  rcases hi with hi | ⟨-, hi⟩
  · rcases hj with hj | ⟨-, hj⟩
    · have hnodup : (D.filter (·.byPlace)).Nodup := hD.ids.of_map.filter _
      have hlt : i < (D.filter (·.byPlace)).length := (List.getElem?_eq_some_iff.mp hi).1
      exact absurd ((List.getElem?_inj hlt hnodup).mp (hi.trans hj.symm)) hne
    · exact hlast hj
  · exact hlast hi

/-- Behind the end of the options words go by their place, one after the other. -/
theorem foldlM_ended (hD : D.Valid) {before given : List (Argument × String)} (hd : d.ended = true)
    (hsettle : settle d = .ok e) (hgiven : e.given = .of before) (hplaced : d.placed = before.length)
    (hgo : ∀ i a v, (before ++ given)[i]? = some (a, v) → D.placed? i = some a ∧ a.accepts v) :
    ∃ d' e', (given.map Prod.snd).foldlM (take D) d = .ok d' ∧ settle d' = .ok e' ∧
      e'.given = .of (before ++ given) := by
  induction given generalizing before d e with
  | nil => exact ⟨d, e, rfl, hsettle, by rw [List.append_nil, hgiven]⟩
  | cons g rest ih =>
    obtain ⟨a, v⟩ := g
    obtain ⟨hplace, haccepts⟩ := hgo before.length a v (by simp)
    rw [← hplaced] at hplace
    have hnew : a.action = .append ∨ e.given a.id = [] := by
      rw [or_iff_not_imp_right, hgiven, Matches.of_eq_nil_iff]
      intro h
      obtain ⟨⟨b, w⟩, hb, hid⟩ : ∃ g ∈ before, g.1.id = a.id := by simpa using h
      obtain ⟨j, hj⟩ := List.mem_iff_getElem?.mp hb
      have hlt : j < before.length := (List.getElem?_eq_some_iff.mp hj).1
      obtain ⟨hplace', -⟩ := hgo j b w (by rw [List.getElem?_append_left hlt, hj])
      exact append_of_placed?_twice hD hplace hplace' (by omega) hid.symm
    let next : Draft := { e with pending := some ⟨a, some v⟩, placed := d.placed + 1 }
    have htake : take D d v = .ok next :=
      (take_ended hd).trans (takePlain_eq_ok_iff.mpr ⟨e, a, hsettle, hplace, rfl⟩)
    have hended : next.ended = true := (ended_of_settle hsettle).trans hd
    have hnext : settle next = .ok (add { next with pending := none } a v) :=
      give_eq_ok_iff.mpr ⟨hnew, haccepts, rfl⟩
    have hbefore : (add { next with pending := none } a v).given = .of (before ++ [(a, v)]) := by
      rw [Matches.of_append, ← hgiven]
      rfl
    have hlength : next.placed = (before ++ [(a, v)]).length := by
      rw [List.length_append, ← hplaced]
      rfl
    have hgo' : ∀ i b w, (before ++ [(a, v)] ++ rest)[i]? = some (b, w) →
        D.placed? i = some b ∧ b.accepts w := by
      rwa [List.append_assoc]
    obtain ⟨d', e', hrest, hall⟩ := ih hended hnext hbefore hlength hgo'
    rw [List.append_assoc] at hall
    refine ⟨d', e', ?_, hall⟩
    rw [List.map_cons, List.foldlM_cons, htake]
    exact hrest

end Draft

/-! ## The laws -/

section Laws

open Draft

variable {D : Declaration} {front rest : List String} {a : Argument} {name v w : String} {m : Matches}

theorem scan_escaped (hD : D.Valid) {given : List (Argument × String)}
    (hplaced : ∀ i a v, given[i]? = some (a, v) → D.placed? i = some a ∧ a.accepts v)
    (hrequired : ∀ a ∈ D, a.required → a ∈ given.map Prod.fst) :
    scan D ("--" :: given.map Prod.snd) = .ok (.of given) := by
  have hdashes : take D {} "--" = .ok { ended := true } := take_dashes rfl rfl
  have hgo : ∀ i a v, ([] ++ given)[i]? = some (a, v) → D.placed? i = some a ∧ a.accepts v := hplaced
  obtain ⟨d, e, hcourse, hsettle, hall⟩ := foldlM_ended (d := { ended := true }) hD rfl rfl rfl rfl hgo
  rw [List.nil_append] at hall
  refine bind_eq_ok_iff.mpr ⟨d, ?_, finish_eq_ok_iff.mpr ⟨e, hsettle, fun a ha hr hnone => ?_, hall⟩⟩
  · rw [List.foldlM_cons, hdashes]
    exact hcourse
  · rw [hall, Matches.of_eq_nil_iff] at hnone
    obtain ⟨g, hg, rfl⟩ := List.mem_map.mp (hrequired a ha hr)
    exact hnone g hg rfl

/-- The double dash in front of a plain word and behind it leads to the same draft. -/
theorem scan_plain (hfront : ∀ w ∈ front, Plain w) (hw : Plain w)
    (h : scan D (front ++ "--" :: w :: rest) = .ok m) : scan D (front ++ w :: "--" :: rest) = .ok m := by
  obtain ⟨d, hd, hwaits, hm, hscan⟩ := exists_front hfront h
  rw [outcome_cons, take_dashes hd rfl] at hm
  obtain ⟨d', hd', hm⟩ := bind_eq_ok_iff.mp hm
  cases hd'
  rw [outcome_cons, take_ended rfl] at hm
  obtain ⟨d', hd', hm⟩ := bind_eq_ok_iff.mp hm
  obtain ⟨e', a, he', hplace, rfl⟩ := takePlain_eq_ok_iff.mp hd'
  rw [settle_ended] at he'
  obtain ⟨e, he, rfl⟩ := map_eq_ok_iff.mp he'
  let next : Draft := { e with pending := some ⟨a, some w⟩, placed := d.placed + 1 }
  have hfirst : take D d w = .ok next :=
    (take_plain hd (Shape.of_plain hw) hwaits).trans (takePlain_eq_ok_iff.mpr ⟨e, a, he, hplace, rfl⟩)
  have hended : next.ended = false := (ended_of_settle he).trans hd
  rw [hscan, outcome_cons, hfirst]
  refine bind_eq_ok_iff.mpr ⟨next, rfl, ?_⟩
  rw [outcome_cons, take_dashes hended rfl]
  exact hm

theorem toList_letter (c : Char) : ("-" ++ c.toString).toList = ['-', c] := by simp

section Options

variable (hD : D.Valid) (hfront : ∀ w ∈ front, Plain w) (ha : a ∈ D)
include hD hfront ha

theorem scan_flag (haction : a.action = .flag) (hname : a.long = some name)
    (h : scan D (front ++ rest) = .ok m) (hnew : m a.id = []) :
    scan D (front ++ ("--" ++ name) :: rest) = .ok (m.add a "true") := by
  obtain ⟨d, hd, hwaits, hm, hscan⟩ := exists_front hfront h
  obtain ⟨e, he, hm⟩ := (outcome_eq_ok_iff hwaits).mp hm
  obtain ⟨hnone, hadd⟩ := outcome_add hm hnew
  have haccepts : a.accepts "true" := by
    rw [Argument.accepts, hD.flags a ha haction]
    rfl
  have htake : take D d ("--" ++ name) = .ok (e.add a "true") := by
    rw [take_name hD ha hname hd, takeOption_flag haction]
    exact bind_eq_ok_iff.mpr ⟨e, he, give_eq_ok_iff.mpr ⟨.inr hnone, haccepts, rfl⟩⟩
  rw [hscan, outcome_cons, htake]
  exact hadd "true"

theorem scan_option (haction : a.action = .set) (hname : a.long = some name) (hv : Plain v)
    (haccepts : a.accepts v) (h : scan D (front ++ rest) = .ok m) (hnew : m a.id = []) :
    scan D (front ++ ("--" ++ name) :: v :: rest) = .ok (m.add a v) := by
  obtain ⟨d, hd, hwaits, hm, hscan⟩ := exists_front hfront h
  obtain ⟨e, he, hm⟩ := (outcome_eq_ok_iff hwaits).mp hm
  obtain ⟨hnone, hadd⟩ := outcome_add hm hnew
  have htake : take D d ("--" ++ name) = takeValued a none d := by
    rw [take_name hD ha hname hd, takeOption_set haction]
  rw [hscan, outcome_next hd htake hv]
  exact ⟨e, e.add a v, he, give_eq_ok_iff.mpr ⟨.inr hnone, haccepts, rfl⟩, hadd v⟩

theorem scan_letter {c : Char} (hname : a.long = some name) (hc : a.letter = some c)
    (h : scan D (front ++ ("--" ++ name) :: rest) = .ok m) :
    scan D (front ++ ("-" ++ c.toString) :: rest) = .ok m := by
  obtain ⟨d, hd, -, hm, hscan⟩ := exists_front hfront h
  rw [hscan, outcome_cons, take_letter hD ha hc hd (toList_letter c) (.inr rfl)]
  rwa [outcome_cons, take_name hD ha hname hd] at hm

end Options

/-- Whatever joins a value to an option does what the option and the value do as two words. -/
theorem scan_of_joined {w' : String} (hfront : ∀ w ∈ front, Plain w) (haction : a.action = .set)
    (hv : Plain v) (hw : ∀ d, d.ended = false → take D d w = takeOption a none d)
    (hw' : ∀ d, d.ended = false → take D d w' = takeOption a (some v) d)
    (h : scan D (front ++ w :: v :: rest) = .ok m) : scan D (front ++ w' :: rest) = .ok m := by
  obtain ⟨d, hd, -, hm, hscan⟩ := exists_front hfront h
  have hnext : take D d w = takeValued a none d := by rw [hw d hd, takeOption_set haction]
  have hjoined : take D d w' = takeValued a (some v) d := by rw [hw' d hd, takeOption_set haction]
  rw [hscan, outcome_joined hjoined]
  exact (outcome_next hd hnext hv).mp hm

/-- What stands behind the letter of an option is its value, with or without an equals sign. -/
theorem scan_of_letter (hD : D.Valid) (hfront : ∀ w ∈ front, Plain w) (ha : a ∈ D)
    (haction : a.action = .set) {c : Char} (hc : a.letter = some c) (hv : Plain v) {cs : List Char}
    (hcs : joinedValue cs = some v) (hw : w.toList = '-' :: c :: cs)
    (h : scan D (front ++ ("-" ++ c.toString) :: v :: rest) = .ok m) :
    scan D (front ++ w :: rest) = .ok m := by
  have hvalue : a.takesValue = true := by rw [Argument.takesValue, haction]; rfl
  have hnext : ∀ d, d.ended = false → take D d ("-" ++ c.toString) = takeOption a none d := fun _ hd =>
    take_letter hD ha hc hd (toList_letter c) (.inr rfl)
  refine scan_of_joined hfront haction hv hnext (fun d hd => ?_) h
  rw [take_letter hD ha hc hd hw (.inl hvalue), hcs]

theorem joinedValue_sign (v : String) : joinedValue ('=' :: v.toList) = some v := by
  rw [joinedValue, String.ofList_toList]

theorem joinedValue_self (hne : v ≠ "") (hsign : v.toList.head? ≠ some '=') :
    joinedValue v.toList = some v := by
  rw [joinedValue.eq_3 v.toList (by simpa using hne) (fun cs hcs => hsign (by rw [hcs]; rfl)),
    String.ofList_toList]

/-- The scanner keeps the laws. -/
theorem scan_lawful (hD : D.Valid) : Parser.Lawful scan D where
  escaped := scan_escaped hD
  plain := scan_plain
  flag := scan_flag hD
  option := scan_option hD
  letter hfront ha hname hc := scan_letter hD hfront ha hname hc
  joined hfront ha haction hname hv _ :=
    scan_of_joined hfront haction hv (fun _ => take_name hD ha hname)
      (fun _ => take_name_joined hD ha hname)
  letterJoined {_ _ _ _ v _} hfront ha haction hc hv _ :=
    scan_of_letter hD hfront ha haction hc hv (joinedValue_sign v) (by simp)
  letterAttached hfront ha haction hc hv hne hsign :=
    scan_of_letter hD hfront ha haction hc hv (joinedValue_self hne hsign) (by simp)

end Laws

end MarkTree.CommandLine
