import MarkTree.CommandLine.Scanner
import MarkTree.Proofs.CommandLine.Laws
import MarkTree.Proofs.Results

/-!
# The course of a scan

The scanner checks what it took up only when it takes up the next thing. So a draft is compared with what it
comes to once that check is made, and everything that follows is the same for both (`outcome_eq_ok_iff`).

Two courses that differ from some point on in one value for one argument are the second comparison. Nothing
looks at the value unless the argument is given once more, and then it is given at the end (`Frames`,
`outcome_add`).
-/

namespace MarkTree.CommandLine

namespace Draft

variable {D : Declaration} {d d' e e' : Draft} {a b : Argument} {v w name : String} {rest : List String}
  {m : Matches}

/-! ## Giving and checking -/

theorem give_eq_ok_iff :
    give a v d = .ok d' ↔ (a.action = .append ∨ d.given a.id = []) ∧ a.accepts v ∧ d' = d.add a v := by
  rw [give]
  split
  · rename_i hgiven
    obtain ⟨haction, hgiven⟩ := hgiven
    simp [haction, hgiven]
  · rename_i hnew
    have hnew : a.action = .append ∨ d.given a.id = [] := by
      by_contra h
      exact hnew (not_or.mp h)
    split
    · rename_i haccepts
      simp only [Except.ok.injEq, hnew, haccepts, true_and]
      exact eq_comm
    · rename_i haccepts
      simp [haccepts]

/-- An option waits for its value. -/
def Waits (d : Draft) : Prop := ∃ a, d.pending = some ⟨a, none⟩

theorem not_waits_of_pending (h : d.pending = some ⟨a, some v⟩) : ¬ d.Waits := by
  rintro ⟨b, hb⟩
  rw [h] at hb
  cases hb

theorem not_waits_of_settle (h : settle d = .ok e) : ¬ d.Waits := by
  rintro ⟨a, ha⟩
  rw [settle, ha] at h
  cases h

theorem settle_cases (h : settle d = .ok e) :
    (d.pending = none ∧ e = d) ∨
      ∃ a v, d.pending = some ⟨a, some v⟩ ∧ give a v { d with pending := none } = .ok e := by
  rw [settle] at h
  split at h
  · rename_i hp
    cases h
    exact .inl ⟨hp, rfl⟩
  · rename_i a v hp
    exact .inr ⟨a, v, hp, h⟩
  · cases h

/-- The check leaves nothing to be checked, and changes nothing else but what was given. -/
theorem settled_eq (h : settle d = .ok e) : e = { d with given := e.given, pending := none } := by
  rcases settle_cases h with ⟨hp, rfl⟩ | ⟨a, v, -, h⟩
  · rw [← hp]
  · obtain ⟨-, -, rfl⟩ := give_eq_ok_iff.mp h
    rfl

theorem ended_of_settle (h : settle d = .ok e) : e.ended = d.ended := by rw [settled_eq h]

theorem placed_of_settle (h : settle d = .ok e) : e.placed = d.placed := by rw [settled_eq h]

theorem settle_settled (h : settle d = .ok e) : settle e = .ok e := by
  have hp : e.pending = none := by rw [settled_eq h]
  rw [settle, hp]

/-- The end of the options does not change what the check says. -/
theorem settle_ended (d : Draft) :
    settle { d with ended := true } = (settle d).map fun e => { e with ended := true } := by
  simp only [settle]
  split
  · rfl
  · simp only [give]
    split
    · rfl
    · split <;> rfl
  · rfl

/-! ## What is checked first -/

/-- What was taken up before is checked before anything else is done. -/
def ChecksFirst (f : Draft → Except Refusal Draft) : Prop :=
  ∀ d d', f d = .ok d' ↔ ∃ e, settle d = .ok e ∧ f e = .ok d'

theorem checksFirst_bind (f : Draft → Except Refusal Draft) : ChecksFirst fun d => settle d >>= f := by
  intro d d'
  simp only [bind_eq_ok_iff]
  constructor
  · rintro ⟨e, he, h⟩
    exact ⟨e, he, e, settle_settled he, h⟩
  · rintro ⟨e, he, e', he', h⟩
    rw [settle_settled he] at he'
    cases he'
    exact ⟨e, he, h⟩

theorem checksFirst_error (r : Refusal) : ChecksFirst fun _ => .error r := by
  intro d d'
  simp

theorem ChecksFirst.bind {f g : Draft → Except Refusal Draft} (h : ChecksFirst f) :
    ChecksFirst fun d => f d >>= g := by
  intro d d'
  simp only [bind_eq_ok_iff]
  constructor
  · rintro ⟨d₁, h₁, hg⟩
    obtain ⟨e, he, hf⟩ := (h _ _).mp h₁
    exact ⟨e, he, d₁, hf, hg⟩
  · rintro ⟨e, he, d₁, hf, hg⟩
    exact ⟨d₁, (h _ _).mpr ⟨e, he, hf⟩, hg⟩

theorem checksFirst_takePlain (D : Declaration) (v : String) : ChecksFirst (takePlain D v) :=
  checksFirst_bind _

theorem checksFirst_takeBare (value : Option String) (f : Draft → Except Refusal Draft) :
    ChecksFirst (takeBare value f) := by
  cases value with
  | none => exact checksFirst_bind f
  | some v => exact checksFirst_error _

theorem checksFirst_takeOption (a : Argument) (value : Option String) :
    ChecksFirst (takeOption a value) := by
  unfold takeOption
  split
  · exact checksFirst_bind _
  · exact checksFirst_bind _
  · exact checksFirst_takeBare _ _
  · exact checksFirst_takeBare _ _
  · exact checksFirst_takeBare _ _

theorem checksFirst_takeLong (D : Declaration) (name : String) (value : Option String) :
    ChecksFirst (takeLong D name value) := by
  unfold takeLong
  split
  · exact checksFirst_error _
  · exact checksFirst_takeOption _ _

theorem checksFirst_takeLetters (D : Declaration) (c : Char) (rest : List Char) :
    ChecksFirst (takeLetters D c rest) := by
  rw [takeLetters.eq_def]
  split
  · exact checksFirst_error _
  · split
    · exact checksFirst_takeOption _ _
    · split
      · exact checksFirst_takeOption _ _
      · exact (checksFirst_takeOption _ _).bind

/-! ## Courses -/

/-- A draft gives what it says once it is checked, if no required argument is missing. -/
theorem finish_eq_ok_iff : finish D d = .ok m ↔
    ∃ e, settle d = .ok e ∧ (∀ a ∈ D, a.required → e.given a.id ≠ []) ∧ e.given = m := by
  rw [finish, bind_eq_ok_iff]
  refine exists_congr fun e => and_congr_right fun _ => ?_
  have hmissing : (D.any fun a => a.required && (e.given a.id).isEmpty) = true ↔
      ¬ ∀ a ∈ D, a.required → e.given a.id ≠ [] := by
    simp
  split
  · rename_i h
    simp only [hmissing.mp h, false_and, iff_false]
    intro hok
    cases hok
  · rename_i h
    rw [hmissing, not_not] at h
    constructor
    · intro hok
      cases hok
      exact ⟨h, rfl⟩
    · rintro ⟨-, rfl⟩
      rfl

/-- What comes of a draft when some words are taken. -/
def outcome (D : Declaration) (d : Draft) (args : List String) : Except Refusal Matches := do
  finish D (← args.foldlM (take D) d)

theorem outcome_cons (D : Declaration) (d : Draft) (w : String) (rest : List String) :
    outcome D d (w :: rest) = take D d w >>= fun d' => outcome D d' rest := by
  rw [outcome, List.foldlM_cons, bind_assoc]
  rfl

theorem outcome_append (D : Declaration) (d : Draft) (front rest : List String) :
    outcome D d (front ++ rest) = front.foldlM (take D) d >>= fun d' => outcome D d' rest := by
  rw [outcome, List.foldlM_append, bind_assoc]
  rfl

theorem supply_eq_none (h : ¬ d.Waits) (v : String) : supply v d = none := by
  rw [supply]
  split
  · rename_i a ha
    exact absurd ⟨a, ha⟩ h
  · rfl

theorem supply_eq_some (h : d.pending = some ⟨a, none⟩) (v : String) :
    supply v d = some { d with pending := some ⟨a, some v⟩ } := by
  rw [supply, h]

/-! ### The first word of a course -/

section Open

variable (hd : d.ended = false)
include hd

theorem take_dashes (hw : Shape.of w = .dashes) : take D d w = .ok { d with ended := true } := by
  rw [take, hd, hw]
  rfl

theorem take_long {value : Option String} (hw : Shape.of w = .long name value) :
    take D d w = takeLong D name value d := by
  rw [take, hd, hw]
  rfl

theorem take_letters {c : Char} {cs : List Char} (hw : Shape.of w = .letters c cs) :
    take D d w = takeLetters D c cs d := by
  rw [take, hd, hw]
  rfl

theorem take_supplied (hw : Shape.of w = .plain) (hs : supply w d = some d') : take D d w = .ok d' := by
  rw [take, hd, hw, hs]
  rfl

theorem take_plain (hw : Shape.of w = .plain) (h : ¬ d.Waits) : take D d w = takePlain D w d := by
  rw [take, hd, hw, supply_eq_none h]
  rfl

end Open

theorem take_ended (hd : d.ended = true) : take D d w = takePlain D w d := by
  rw [take, hd]
  rfl

/-- Every word but the double dash makes the scanner check what was taken up before. -/
theorem exists_checksFirst (D : Declaration) (w : String) {ended : Bool}
    (h : ended = true ∨ Shape.of w ≠ .dashes) :
    ∃ f, ChecksFirst f ∧ ∀ d : Draft, ¬ d.Waits → d.ended = ended → take D d w = f d := by
  cases ended with
  | true => exact ⟨_, checksFirst_takePlain D w, fun d _ hd => take_ended hd⟩
  | false =>
    cases hs : Shape.of w with
    | dashes => simp [hs] at h
    | long name value => exact ⟨_, checksFirst_takeLong D name value, fun d _ hd => take_long hd hs⟩
    | letters c rest => exact ⟨_, checksFirst_takeLetters D c rest, fun d _ hd => take_letters hd hs⟩
    | plain => exact ⟨_, checksFirst_takePlain D w, fun d hw hd => take_plain hd hs hw⟩

/-- A draft comes to what it comes to once it is checked. -/
theorem outcome_eq_ok_iff (h : ¬ d.Waits) :
    outcome D d rest = .ok m ↔ ∃ e, settle d = .ok e ∧ outcome D e rest = .ok m := by
  induction rest generalizing d with
  | nil =>
    have hnil : ∀ d, outcome D d [] = finish D d := fun _ => rfl
    simp only [hnil, finish, bind_eq_ok_iff]
    constructor
    · rintro ⟨e, he, h⟩
      exact ⟨e, he, e, settle_settled he, h⟩
    · rintro ⟨e, he, e', he', h⟩
      rw [settle_settled he] at he'
      cases he'
      exact ⟨e, he, h⟩
  | cons w rest ih =>
    have hchecked : ∀ e, settle d = .ok e → ¬ e.Waits ∧ e.ended = d.ended := fun e he =>
      ⟨not_waits_of_settle (settle_settled he), ended_of_settle he⟩
    by_cases hw : d.ended = true ∨ Shape.of w ≠ .dashes
    · obtain ⟨f, hf, htake⟩ := exists_checksFirst D w hw
      simp only [outcome_cons, htake d h rfl, bind_eq_ok_iff]
      constructor
      · rintro ⟨d', hd', hm⟩
        obtain ⟨e, hs, hfe⟩ := (hf d d').mp hd'
        obtain ⟨hwaits, hended⟩ := hchecked e hs
        exact ⟨e, hs, d', by rw [htake e hwaits hended, hfe], hm⟩
      · rintro ⟨e, hs, d', hd', hm⟩
        obtain ⟨hwaits, hended⟩ := hchecked e hs
        rw [htake e hwaits hended] at hd'
        exact ⟨d', (hf d d').mpr ⟨e, hs, hd'⟩, hm⟩
    · -- the double dash alone is taken without a check, which is made behind it
      obtain ⟨hd, hdashes⟩ : d.ended = false ∧ Shape.of w = .dashes := by simpa using hw
      have hcons : ∀ e : Draft, e.ended = false →
          outcome D e (w :: rest) = outcome D { e with ended := true } rest := fun e he => by
        rw [outcome_cons, take_dashes he hdashes]
        rfl
      have hended : ¬ Waits { d with ended := true } := h
      rw [hcons d hd, ih hended, settle_ended]
      constructor
      · rintro ⟨e', he', hm⟩
        obtain ⟨e, he, rfl⟩ := map_eq_ok_iff.mp he'
        exact ⟨e, he, by rwa [hcons e ((hchecked e he).2.trans hd)]⟩
      · rintro ⟨e, he, hm⟩
        rw [hcons e ((hchecked e he).2.trans hd)] at hm
        exact ⟨_, map_eq_ok_iff.mpr ⟨e, he, rfl⟩, hm⟩

/-! ## A value more -/

/-- Where a step gives an argument no value, it does the same in a draft that has one value more for it. -/
def Frames (f : Draft → Except Refusal Draft) : Prop :=
  ∀ d d', f d = .ok d' → ∀ a : Argument, d'.given a.id = [] →
    d.given a.id = [] ∧ ∀ v, f (d.add a v) = .ok (d'.add a v)

theorem frames_error (r : Refusal) : Frames fun _ => .error r := by
  intro d d' h
  cases h

/-- A step that gives no values, and does not look at those that were given. -/
theorem frames_of_given {f : Draft → Draft} (hgiven : ∀ d, (f d).given = d.given)
    (hadd : ∀ d a v, f (d.add a v) = (f d).add a v) : Frames fun d => .ok (f d) := by
  intro d d' h a ha
  cases h
  rw [hgiven] at ha
  exact ⟨ha, fun v => congrArg Except.ok (hadd d a v)⟩

theorem Frames.bind {f g : Draft → Except Refusal Draft} (hf : Frames f) (hg : Frames g) :
    Frames fun d => f d >>= g := by
  intro d d' h a ha
  obtain ⟨d₁, h₁, h₂⟩ := bind_eq_ok_iff.mp h
  obtain ⟨hnone, hsecond⟩ := hg d₁ d' h₂ a ha
  obtain ⟨hnone', hfirst⟩ := hf d d₁ h₁ a hnone
  exact ⟨hnone', fun v => bind_eq_ok_iff.mpr ⟨_, hfirst v, hsecond v⟩⟩

theorem frames_give (b : Argument) (w : String) : Frames (give b w) := by
  intro d d' h a ha
  obtain ⟨hnew, haccepts, rfl⟩ := give_eq_ok_iff.mp h
  obtain ⟨hne, hnone⟩ := Matches.eq_nil_of_add ha
  refine ⟨hnone, fun v => give_eq_ok_iff.mpr ⟨?_, haccepts, ?_⟩⟩
  · change _ ∨ d.given.add a v b.id = []
    rwa [Matches.add_of_ne hne.symm]
  · simp only [add, Matches.add_comm hne]

theorem frames_settle : Frames settle := by
  intro d d' h a ha
  rcases settle_cases h with ⟨hp, rfl⟩ | ⟨b, w, hp, h⟩
  · refine ⟨ha, fun v => ?_⟩
    simp only [settle, add, hp]
  · obtain ⟨hnone, hgive⟩ := frames_give b w _ _ h a ha
    refine ⟨hnone, fun v => ?_⟩
    have hpending : (d.add a v).pending = some ⟨b, some w⟩ := hp
    rw [settle, hpending]
    exact hgive v

theorem frames_place (D : Declaration) (w : String) : Frames (place D w) := by
  intro d d' h a ha
  rw [place] at h
  split at h
  · cases h
  · rename_i b hb
    cases h
    refine ⟨ha, fun v => ?_⟩
    have hadd : D.placed? (d.add a v).placed = some b := hb
    rw [place, hadd]
    rfl

theorem frames_start (b : Argument) (value : Option String) : Frames (start b value) := by
  cases value with
  | none => exact frames_of_given (fun _ => rfl) fun _ _ _ => rfl
  | some w => exact frames_give b w

theorem frames_takePlain (D : Declaration) (w : String) : Frames (takePlain D w) :=
  frames_settle.bind (frames_place D w)

theorem frames_takeBare (value : Option String) {f : Draft → Except Refusal Draft} (hf : Frames f) :
    Frames (takeBare value f) := by
  cases value with
  | none => exact frames_settle.bind hf
  | some w => exact frames_error _

theorem frames_takeOption (b : Argument) (value : Option String) : Frames (takeOption b value) := by
  unfold takeOption
  split
  · exact frames_settle.bind (frames_start b value)
  · exact frames_settle.bind (frames_start b value)
  · exact frames_takeBare value (frames_give b "true")
  · exact frames_takeBare value (frames_error _)
  · exact frames_takeBare value (frames_error _)

theorem frames_takeLong (D : Declaration) (name : String) (value : Option String) :
    Frames (takeLong D name value) := by
  unfold takeLong
  split
  · exact frames_error _
  · exact frames_takeOption _ _

theorem frames_takeLetters (D : Declaration) (c : Char) (cs : List Char) :
    Frames (takeLetters D c cs) := by
  induction cs generalizing c with
  | nil =>
    rw [takeLetters.eq_def]
    split
    · exact frames_error _
    · split <;> exact frames_takeOption _ _
  | cons c' cs ih =>
    rw [takeLetters.eq_def]
    split
    · exact frames_error _
    · split
      · exact frames_takeOption _ _
      · exact (frames_takeOption _ _).bind (ih c')

theorem frames_take (D : Declaration) (w : String) : Frames (take D · w) := by
  intro d d' h a ha
  -- which step is made depends on what is known of `d` without looking at values
  have hstep : ∀ f, Frames f →
      (∀ e : Draft, e.ended = d.ended → e.pending = d.pending → take D e w = f e) →
      d.given a.id = [] ∧ ∀ v, take D (d.add a v) w = .ok (d'.add a v) := fun f hf htake => by
    obtain ⟨hnone, hadd⟩ := hf d d' ((htake d rfl rfl).symm.trans h) a ha
    exact ⟨hnone, fun v => (htake (d.add a v) rfl rfl).trans (hadd v)⟩
  cases hd : d.ended with
  | true => exact hstep _ (frames_takePlain D w) fun e he _ => take_ended (he.trans hd)
  | false =>
    cases hs : Shape.of w with
    | dashes =>
      exact hstep (fun e => .ok { e with ended := true })
        (frames_of_given (fun _ => rfl) fun _ _ _ => rfl) fun e he _ => take_dashes (he.trans hd) hs
    | long name value =>
      exact hstep _ (frames_takeLong D name value) fun e he _ => take_long (he.trans hd) hs
    | letters c rest =>
      exact hstep _ (frames_takeLetters D c rest) fun e he _ => take_letters (he.trans hd) hs
    | plain =>
      by_cases hw : d.Waits
      · obtain ⟨b, hb⟩ := hw
        refine hstep (fun e => .ok { e with pending := some ⟨b, some w⟩ })
          (frames_of_given (fun _ => rfl) fun _ _ _ => rfl) fun e he hp => ?_
        exact take_supplied (he.trans hd) hs (supply_eq_some (hp.trans hb) w)
      · refine hstep _ (frames_takePlain D w) fun e he hp => take_plain (he.trans hd) hs ?_
        rwa [Waits, hp]

theorem frames_foldlM (D : Declaration) (args : List String) : Frames fun d => args.foldlM (take D) d := by
  induction args with
  | nil => exact frames_of_given (fun _ => rfl) fun _ _ _ => rfl
  | cons w rest ih =>
    simp only [List.foldlM_cons]
    exact (frames_take D w).bind ih

/-- A course that gives an argument no value comes to the same with one value for it from the start. -/
theorem outcome_add (h : outcome D d rest = .ok m) (hnone : m a.id = []) :
    d.given a.id = [] ∧ ∀ v, outcome D (d.add a v) rest = .ok (m.add a v) := by
  obtain ⟨d', hd', hfinish⟩ := bind_eq_ok_iff.mp h
  obtain ⟨e, he, hall, rfl⟩ := finish_eq_ok_iff.mp hfinish
  obtain ⟨hnone', hsettled⟩ := frames_settle d' e he a hnone
  obtain ⟨hstart, hcourse⟩ := frames_foldlM D rest d d' hd' a hnone'
  refine ⟨hstart, fun v => bind_eq_ok_iff.mpr
    ⟨_, hcourse v, finish_eq_ok_iff.mpr ⟨_, hsettled v, fun b hb hrequired hempty => ?_, rfl⟩⟩⟩
  exact hall b hb hrequired (Matches.eq_nil_of_add hempty).2

end Draft

end MarkTree.CommandLine
