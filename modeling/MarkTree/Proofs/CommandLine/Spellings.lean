import MarkTree.CommandLine
import MarkTree.Proofs.CommandLine.Scanner
import Mathlib.Data.List.Forall2
import Mathlib.Data.List.Nodup
import Mathlib.Data.List.Perm.Basic

/-!
# Spellings of a run

Arguments say the kind and the settings of a run one after the other, each in one of several spellings, some
of them of two words. What is relied on in a parser speaks of one option at a time, put into a call that is
accepted without it. So a call is built up from the one that has no options:

* `Parser.Lawful.kind_paths`: the name of the kind, a double dash and all paths, whatever they look like.
* `Parser.Lawful.spelling`: the words of a setting are put into a call.
* `Parser.Lawful.around_kind`: so are those of many settings, first behind the kind and then in front of it.
* `parse_spellings`: every run whose kinds have names can be asked for, in all these ways.

Different settings give values for different arguments, so their order makes no difference
(`foldr_give_perm`).
-/

namespace MarkTree.CommandLine

/-- The kind to select, or a setting. -/
inductive Setting
  | kind (kind : Kind)
  | scope (kind : Kind)
  | format (format : ListingFormat)
  | quiet
  | lenient
deriving DecidableEq

namespace Setting

/-- The ways to say it, each one argument or two. -/
def spellings : Setting → List (List String)
  | .kind k => [[k.name]]
  | .scope k => [["--within", k.name], ["--within=" ++ k.name]]
  | .format f =>
    [["--output", f.name], ["--output=" ++ f.name], ["-o", f.name], ["-o" ++ f.name], ["-o=" ++ f.name]]
  | .quiet => [["--quiet"], ["-q"]]
  | .lenient => [["--allow-unknown-markdown"]]

/-- The argument that says it. -/
def argument : Setting → Argument
  | .kind _ => kindArgument
  | .scope _ => scopeArgument
  | .format _ => formatArgument
  | .quiet => quietArgument
  | .lenient => lenientArgument

def value : Setting → String
  | .kind k => k.name
  | .scope k => k.name
  | .format f => f.name
  | .quiet => "true"
  | .lenient => "true"

def give (st : Setting) (m : Matches) : Matches := m.add st.argument st.value

/-- Kinds have to be asked for by a name. -/
def Nameable : Setting → Prop
  | .kind k => k ≠ .unset
  | .scope k => k ≠ .unset
  | _ => True

end Setting

end MarkTree.CommandLine

namespace MarkTree

open CommandLine (Setting)

/-- The kind and the settings of a run that are not the default. -/
def Options.settings (o : Options) : List Setting :=
  .kind o.kind :: o.scope.toList.map .scope ++ (if o.format = .plain then [] else [.format o.format]) ++
    (if o.quiet then [.quiet] else []) ++ if o.lenient then [.lenient] else []

namespace CommandLine

variable {parser : Parser} {k : Kind} {f : ListingFormat} {st : Setting} {sts : List Setting}
  {front rest ws : List String} {words : List (List String)} {m : Matches} {o : Options}

/-- The arguments of the program cannot be taken for each other. -/
theorem arguments_valid : arguments.Valid where
  ids := by decide
  longs := by decide
  letters := by decide
  names := by decide
  noDash := by decide
  flags := by decide
  byPlace := by decide

/-! ## Values -/

theorem plain_nil : ∀ w ∈ ([] : List String), Plain w := fun _ hw => absurd hw List.not_mem_nil

theorem plain_kind_name (k : Kind) : Plain k.name := by
  cases k <;> decide

theorem plain_format_name (f : ListingFormat) : Plain f.name := by
  cases f <;> decide

theorem kind_name_mem (hk : k ≠ .unset) : (Kind.selectable.map Kind.name).contains k.name := by
  cases k <;> first | rfl | exact absurd rfl hk

theorem kindOf_name (hk : k ≠ .unset) : kindOf k.name = .ok k := by
  cases k <;> first | rfl | exact absurd rfl hk

theorem formatOf_name (f : ListingFormat) : formatOf f.name = .ok f := by
  cases f <;> rfl

/-! ## Settings -/

theorem settings_nodup (o : Options) : (o.settings.map (·.argument.id)).Nodup := by
  obtain ⟨kind, _ | scope, _ | _, _ | _, _ | _, paths⟩ := o <;> exact of_decide_eq_true rfl

theorem mem_settings : st ∈ o.settings ↔
    match st with
    | .kind k => o.kind = k
    | .scope k => o.scope = some k
    | .format f => o.format = f ∧ f ≠ .plain
    | .quiet => o.quiet
    | .lenient => o.lenient := by
  obtain ⟨kind, scope, format, quiet, lenient, paths⟩ := o
  cases st with
  | format f => cases format <;> cases f <;> simp [Options.settings]
  | _ => simp [Options.settings, eq_comm]

theorem nameable_of_mem_settings (hkind : o.kind ≠ .unset) (hscope : o.scope ≠ some .unset)
    (hst : st ∈ o.settings) : st.Nameable := by
  have hst := mem_settings.mp hst
  cases st with
  | kind k =>
    cases hst
    exact hkind
  | scope k =>
    rintro rfl
    exact hscope hst
  | _ => trivial

/-- Settings give nothing for other arguments. -/
theorem foldr_give_of_ne {id : String} (h : ∀ st ∈ sts, id ≠ st.argument.id) :
    sts.foldr Setting.give m id = m id := by
  induction sts with
  | nil => rfl
  | cons st rest ih =>
    obtain ⟨hfirst, hrest⟩ := List.forall_mem_cons.mp h
    exact (if_neg hfirst).trans (ih hrest)

/-- A setting among others gives its value for its argument. -/
theorem foldr_give_of_mem (hnodup : (sts.map (·.argument.id)).Nodup) (hst : st ∈ sts) :
    sts.foldr Setting.give m st.argument.id = m st.argument.id ++ [st.value] := by
  induction sts with
  | nil => exact absurd hst List.not_mem_nil
  | cons st' rest ih =>
    rw [List.map_cons, List.nodup_cons, List.mem_map] at hnodup
    obtain ⟨hfirst, hrest⟩ := hnodup
    rcases List.mem_cons.mp hst with rfl | hst
    · have hothers : ∀ st' ∈ rest, st.argument.id ≠ st'.argument.id := fun st' hst' he =>
        hfirst ⟨st', hst', he.symm⟩
      rw [List.foldr_cons, Setting.give, Matches.add_self, foldr_give_of_ne hothers]
    · have hne : st.argument.id ≠ st'.argument.id := fun he => hfirst ⟨st, hst, he⟩
      rw [List.foldr_cons, Setting.give, Matches.add_of_ne hne, ih hrest hst]

/-- The order in which different settings are made does not matter. -/
theorem foldr_give_perm {sts' : List Setting} (h : sts.Perm sts')
    (hnodup : (sts.map (·.argument.id)).Nodup) (m : Matches) :
    sts.foldr Setting.give m = sts'.foldr Setting.give m := by
  refine h.foldr_eq' (fun st hst st' hst' m => ?_) m
  by_cases hsame : st.argument.id = st'.argument.id
  · rw [List.inj_on_of_nodup_map hnodup hst hst' hsame]
  · exact Matches.add_comm hsame

/-- Paths alone. -/
def pathValues (paths : List String) : Matches := .of (paths.map (pathsArgument, ·))

theorem pathValues_paths (paths : List String) : pathValues paths pathsArgument.id = paths := by
  have hall : (paths.map (pathsArgument, ·)).filter (·.1.id == pathsArgument.id) =
      paths.map (pathsArgument, ·) := by simp
  rw [pathValues, Matches.of, hall, List.map_map]
  exact List.map_id paths

/-- Paths make no setting. -/
theorem pathValues_setting (paths : List String) {a : Argument} (ha : a.id ≠ pathsArgument.id) :
    pathValues paths a.id = [] := by
  rw [pathValues, Matches.of_eq_nil_iff]
  simpa using fun _ _ => ha.symm

theorem argument_id_ne (st : Setting) : st.argument.id ≠ pathsArgument.id := by
  cases st <;> exact of_decide_eq_true rfl

/-! ## Calls -/

namespace Parser.Lawful

variable (h : parser.Lawful arguments)
include h

/-- The kind in front of a double dash, and paths behind it. -/
theorem kind_paths (hk : k ≠ .unset) (paths : List String) :
    parser arguments (k.name :: "--" :: paths) = .ok ((Setting.kind k).give (pathValues paths)) := by
  let given := (kindArgument, k.name) :: paths.map (pathsArgument, ·)
  have hplaced : ∀ i a v, given[i]? = some (a, v) → arguments.placed? i = some a ∧ a.accepts v := by
    intro i a v hi
    cases i with
    | zero =>
      cases hi
      exact ⟨rfl, kind_name_mem hk⟩
    | succ i =>
      rw [List.getElem?_cons_succ, List.getElem?_map] at hi
      obtain ⟨w, -, he⟩ := Option.map_eq_some_iff.mp hi
      cases he
      cases i <;> exact ⟨rfl, rfl⟩
  have hrequired : ∀ a ∈ arguments, a.required → a ∈ given.map Prod.fst := by
    have hkind : ∀ a ∈ arguments, a.required → a = kindArgument := by decide
    intro a ha hr
    rw [hkind a ha hr]
    exact List.mem_cons_self
  have hwords : given.map Prod.snd = k.name :: paths := by
    rw [List.map_cons, List.map_map]
    exact congrArg (k.name :: ·) (List.map_id paths)
  have hgiven : Matches.of given = (Setting.kind k).give (pathValues paths) :=
    Matches.of_cons (pathValues_setting paths (by decide))
  have hescaped := h.escaped hplaced hrequired
  rw [hwords, hgiven] at hescaped
  exact h.plain plain_nil (plain_kind_name k) hescaped

/-- The words of a setting, put into a call that does not make the setting, make it. -/
theorem spelling (hfront : ∀ w ∈ front, Plain w) (hok : parser arguments (front ++ rest) = .ok m)
    (hst : ∀ k, st ≠ .kind k) (hname : st.Nameable) (hnew : m st.argument.id = [])
    (hws : ws ∈ st.spellings) : parser arguments (front ++ (ws ++ rest)) = .ok (st.give m) := by
  cases st with
  | kind k => exact absurd rfl (hst k)
  | scope k =>
    have hplain := plain_kind_name k
    have hne : k.name ≠ "" := by cases k <;> decide
    have ha : scopeArgument ∈ arguments := by decide
    have hlong := h.option hfront ha rfl rfl hplain (kind_name_mem hname) hok hnew
    rcases List.mem_pair.mp hws with rfl | rfl
    · exact hlong
    · exact h.joined hfront ha rfl rfl hplain hne hlong
  | format f =>
    have hplain := plain_format_name f
    have hne : f.name ≠ "" := by cases f <;> decide
    have hsign : f.name.toList.head? ≠ some '=' := by cases f <;> decide
    have haccepts : formatArgument.accepts f.name := by cases f <;> rfl
    have ha : formatArgument ∈ arguments := by decide
    have hlong := h.option hfront ha rfl rfl hplain haccepts hok hnew
    have hletter := h.letter (c := 'o') hfront ha rfl rfl hlong
    have hshort : "-" ++ 'o'.toString = "-o" := by decide
    have hsigned : "-o" ++ "=" = "-o=" := by decide
    simp only [Setting.spellings, List.mem_cons, List.not_mem_nil, or_false] at hws
    rcases hws with rfl | rfl | rfl | rfl | rfl
    · exact hlong
    · exact h.joined hfront ha rfl rfl hplain hne hlong
    · rwa [hshort] at hletter
    · have hattached := h.letterAttached hfront ha rfl rfl hplain hne hsign hletter
      rwa [hshort] at hattached
    · have hjoined := h.letterJoined hfront ha rfl rfl hplain hne hletter
      rwa [hshort, hsigned] at hjoined
  | quiet =>
    have ha : quietArgument ∈ arguments := by decide
    have hlong := h.flag hfront ha rfl rfl hok hnew
    rcases List.mem_pair.mp hws with rfl | rfl
    · exact hlong
    · exact h.letter (c := 'q') hfront ha rfl rfl hlong
  | lenient =>
    have ha : lenientArgument ∈ arguments := by decide
    rw [List.mem_singleton.mp hws]
    exact h.flag hfront ha rfl rfl hok hnew

/-- The words of settings that were not made before, one after the other, make them all. -/
theorem spellings {made : List Setting} (hfront : ∀ w ∈ front, Plain w)
    (hok : parser arguments (front ++ rest) = .ok (made.foldr Setting.give m))
    (hnew : ∀ st : Setting, m st.argument.id = [])
    (hst : ∀ st ∈ sts, (∀ k, st ≠ .kind k) ∧ st.Nameable)
    (hnodup : ((sts ++ made).map (·.argument.id)).Nodup)
    (hwords : List.Forall₂ (fun ws st => ws ∈ st.spellings) words sts) :
    parser arguments (front ++ (words.flatten ++ rest)) = .ok ((sts ++ made).foldr Setting.give m) := by
  induction hwords with
  | nil => exact hok
  | @cons ws st words sts hws _ ih =>
    rw [List.cons_append, List.map_cons, List.nodup_cons, List.mem_map] at hnodup
    obtain ⟨hfirst, hrest⟩ := hnodup
    obtain ⟨⟨hkind, hname⟩, hst⟩ := List.forall_mem_cons.mp hst
    -- those that follow are other settings, so this one is new still
    have hstill : (sts ++ made).foldr Setting.give m st.argument.id = [] := by
      rw [foldr_give_of_ne, hnew]
      exact fun st' hst' he => hfirst ⟨st', hst', he.symm⟩
    rw [List.flatten_cons, List.append_assoc]
    exact h.spelling hfront (ih hst hrest) hkind hname hstill hws

/-- The kind is there first, then what follows it is put in, then what stands in front of it. -/
theorem around_kind {pre post : List Setting} {before after : List (List String)} (hk : k ≠ .unset)
    (hnodup : ((pre ++ .kind k :: post).map (·.argument.id)).Nodup)
    (hname : ∀ st ∈ pre ++ post, st.Nameable)
    (hbefore : List.Forall₂ (fun ws st => ws ∈ st.spellings) before pre)
    (hafter : List.Forall₂ (fun ws st => ws ∈ st.spellings) after post) (paths : List String) :
    parser arguments (before.flatten ++ (k.name :: (after.flatten ++ "--" :: paths))) =
      .ok ((pre ++ .kind k :: post).foldr Setting.give (pathValues paths)) := by
  have hlast : (pre ++ .kind k :: post).Perm (pre ++ (post ++ [.kind k])) :=
    (List.perm_append_singleton _ _).symm.append_left pre
  have hall : ((pre ++ (post ++ [Setting.kind k])).map (·.argument.id)).Nodup :=
    (hlast.map _).nodup_iff.mp hnodup
  have hpost : ((post ++ [Setting.kind k]).map (·.argument.id)).Nodup :=
    hall.sublist ((List.sublist_append_right _ _).map _)
  have hothers : ∀ st ∈ pre ++ post, (∀ k', st ≠ .kind k') ∧ st.Nameable := by
    intro st hst
    refine ⟨?_, hname st hst⟩
    rintro k' rfl
    rw [List.map_append, List.map_cons, List.nodup_middle, List.nodup_cons, ← List.map_append] at hnodup
    exact hnodup.1 (List.mem_map.mpr ⟨_, hst, rfl⟩)
  obtain ⟨hpre, hbehind⟩ := List.forall_mem_append.mp hothers
  have hnew : ∀ st : Setting, pathValues paths st.argument.id = [] := fun st =>
    pathValues_setting paths (argument_id_ne st)
  have hplain : ∀ w ∈ [k.name], Plain w := by simpa using plain_kind_name k
  have hfirst : parser arguments ([k.name] ++ "--" :: paths) =
      .ok ([Setting.kind k].foldr Setting.give (pathValues paths)) := h.kind_paths hk paths
  have hrest := h.spellings hplain hfirst hnew hbehind hpost hafter
  rw [foldr_give_perm hlast hnodup]
  exact h.spellings plain_nil hrest hnew hpre hall hbefore

/-- The words of all settings in any order. -/
theorem settings (hkind : o.kind ≠ .unset) (hscope : o.scope ≠ some .unset)
    (hperm : sts.Perm o.settings)
    (hwords : List.Forall₂ (fun ws st => ws ∈ st.spellings) words sts) :
    parser arguments (words.flatten ++ "--" :: o.paths) =
      .ok (o.settings.foldr Setting.give (pathValues o.paths)) := by
  have hnodup : (sts.map (·.argument.id)).Nodup := (hperm.map _).nodup_iff.mpr (settings_nodup o)
  rw [← foldr_give_perm hperm hnodup]
  have hname : ∀ st ∈ sts, st.Nameable := fun st hst =>
    nameable_of_mem_settings hkind hscope (hperm.mem_iff.mp hst)
  have hmem : Setting.kind o.kind ∈ sts := hperm.mem_iff.mpr (mem_settings.mpr rfl)
  obtain ⟨pre, post, rfl⟩ := List.append_of_mem hmem
  obtain ⟨ws, after, hws, hafter, hsplit⟩ :=
    List.forall₂_cons_right_iff.mp (List.forall₂_drop_append _ _ _ hwords)
  have hflat : words.flatten = (words.take pre.length).flatten ++ o.kind.name :: after.flatten := by
    conv_lhs => rw [← List.take_append_drop pre.length words, hsplit, List.mem_singleton.mp hws]
    rw [List.flatten_append]
    rfl
  rw [hflat, List.append_assoc]
  refine h.around_kind hkind hnodup (fun st hst => hname st ?_)
    (List.forall₂_take_append _ _ _ hwords) hafter o.paths
  rw [List.mem_append, List.mem_cons]
  exact (List.mem_append.mp hst).imp_right .inr

end Parser.Lawful

/-! ## Runs -/

/-- The run that some values ask for, the kinds among them having names. -/
theorem optionsOf_eq (hk : o.kind ≠ .unset) (hs : o.scope ≠ some .unset)
    (hkind : m.value? kindArgument = some o.kind.name)
    (hscope : m.value? scopeArgument = o.scope.map Kind.name)
    (hformat : m.value? formatArgument = some o.format.name)
    (hquiet : m.value? quietArgument = some (toString o.quiet))
    (hlenient : m.value? lenientArgument = some (toString o.lenient))
    (hpaths : m pathsArgument.id = o.paths) : optionsOf m = .ok o := by
  have hscopes : (o.scope.map Kind.name).mapM kindOf = .ok o.scope := by
    cases h : o.scope with
    | none => rfl
    | some k =>
      have hk : k ≠ .unset := fun he => hs (by rw [h, he])
      rw [Option.map_some, Option.mapM_some, kindOf_name hk]
      rfl
  simp only [optionsOf, valueOf, hkind, hscope, hscopes, hformat, hquiet, hlenient, hpaths, bind, Except.bind,
    kindOf_name hk, formatOf_name]
  obtain ⟨kind, scope, format, _ | _, _ | _, paths⟩ := o <;> rfl

/-- What is set has the value of the setting. -/
theorem value?_of_mem (st : Setting) (hst : st ∈ o.settings) :
    (o.settings.foldr Setting.give (pathValues o.paths)).value? st.argument = some st.value := by
  rw [Matches.value?, foldr_give_of_mem (settings_nodup o) hst, pathValues_setting _ (argument_id_ne st)]
  rfl

/-- What is not set has its default. -/
theorem value?_of_ne {a : Argument} (ha : a.id ≠ pathsArgument.id)
    (h : ∀ st ∈ o.settings, a.id ≠ st.argument.id) :
    (o.settings.foldr Setting.give (pathValues o.paths)).value? a = a.default? := by
  rw [Matches.value?, foldr_give_of_ne h, pathValues_setting _ ha]
  rfl

/-- The values that the settings give ask for the run. -/
theorem optionsOf_settings (hk : o.kind ≠ .unset) (hs : o.scope ≠ some .unset) :
    optionsOf (o.settings.foldr Setting.give (pathValues o.paths)) = .ok o := by
  refine optionsOf_eq hk hs ?_ ?_ ?_ ?_ ?_ ?_
  · exact value?_of_mem (.kind o.kind) (mem_settings.mpr rfl)
  · cases h : o.scope with
    | some k => exact value?_of_mem (.scope k) (mem_settings.mpr h)
    | none =>
      refine value?_of_ne (by decide) fun st hst => ?_
      cases st with
      | scope k => exact absurd ((mem_settings.mp hst).symm.trans h) (Option.some_ne_none k)
      | _ => exact of_decide_eq_true rfl
  · by_cases h : o.format = .plain
    · rw [h]
      refine value?_of_ne (by decide) fun st hst => ?_
      cases st with
      | format f =>
        obtain ⟨rfl, hf⟩ := mem_settings.mp hst
        exact absurd h hf
      | _ => exact of_decide_eq_true rfl
    · exact value?_of_mem (.format o.format) (mem_settings.mpr ⟨rfl, h⟩)
  · cases h : o.quiet with
    | true => exact value?_of_mem .quiet (mem_settings.mpr h)
    | false =>
      refine value?_of_ne (by decide) fun st hst => ?_
      cases st with
      | quiet => exact absurd ((mem_settings.mp hst).symm.trans h) (by decide)
      | _ => exact of_decide_eq_true rfl
  · cases h : o.lenient with
    | true => exact value?_of_mem .lenient (mem_settings.mpr h)
    | false =>
      refine value?_of_ne (by decide) fun st hst => ?_
      cases st with
      | lenient => exact absurd ((mem_settings.mp hst).symm.trans h) (by decide)
      | _ => exact of_decide_eq_true rfl
  · rw [foldr_give_of_ne fun st _ => (argument_id_ne st).symm, pathValues_paths]

/-- Of a parser that keeps the laws, every run whose kinds have names can be asked for: by the name of the
kind and the words of each setting that is not the default, in any order and spelling, with all paths behind
a double dash, whatever they look like. -/
theorem parse_spellings (h : parser.Lawful arguments) (o : Options) (hkind : o.kind ≠ .unset)
    (hscope : o.scope ≠ some .unset) :
    (∀ sts words, sts.Perm o.settings → List.Forall₂ (fun ws st => ws ∈ st.spellings) words sts →
      parseWith parser (words.flatten ++ "--" :: o.paths) = .ok o) ∧
    ∃ args, parseWith parser args = .ok o := by
  have hall : ∀ sts words, sts.Perm o.settings →
      List.Forall₂ (fun ws st => ws ∈ st.spellings) words sts →
      parseWith parser (words.flatten ++ "--" :: o.paths) = .ok o := by
    intro sts words hperm hwords
    rw [parseWith, h.settings hkind hscope hperm hwords]
    exact optionsOf_settings hkind hscope
  have hwords : List.Forall₂ (fun ws st => ws ∈ st.spellings)
      (o.settings.map fun st => st.spellings.headD []) o.settings := by
    rw [List.forall₂_map_left_iff, List.forall₂_same]
    intro st _
    cases st <;> exact List.mem_cons_self
  exact ⟨hall, _, hall _ _ (.refl _) hwords⟩

/-- A run with every setting, and with paths that look like options. -/
def fullRun : Options where
  kind := .link
  scope := some .unorderedList
  format := .tree
  quiet := true
  lenient := true
  paths := ["", "-", "--", "-q", "--within=any", "a.md"]

theorem parse_spellings_fullRun :
    Parser.Lawful scan arguments ∧ fullRun.kind ≠ .unset ∧ fullRun.scope ≠ some .unset ∧
      parse ["-o=tree", "--allow-unknown-markdown", "link", "-q", "--within", "unordered-list", "--",
        "", "-", "--", "-q", "--within=any", "a.md"] = .ok fullRun := by
  have hscan : Parser.Lawful scan arguments := scan_lawful arguments_valid
  have hkind : fullRun.kind ≠ .unset := by decide
  have hscope : fullRun.scope ≠ some .unset := by decide
  have hperm : [.format .tree, .lenient, .kind .link, .quiet, .scope .unorderedList].Perm
      fullRun.settings := by
    decide
  have hwords : List.Forall₂ (fun ws (st : Setting) => ws ∈ st.spellings)
      [["-o=tree"], ["--allow-unknown-markdown"], ["link"], ["-q"], ["--within", "unordered-list"]]
      [.format .tree, .lenient, .kind .link, .quiet, .scope .unorderedList] :=
    .cons (by decide) (.cons (by decide) (.cons (by decide) (.cons (by decide) (.cons (by decide) .nil))))
  have hparse := (parse_spellings hscan fullRun hkind hscope).1 _ _ hperm hwords
  exact ⟨hscan, hkind, hscope, hparse⟩

end CommandLine

end MarkTree
