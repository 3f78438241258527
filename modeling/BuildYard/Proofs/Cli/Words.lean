import BuildYard.Cli.Command
import Mathlib.Data.List.Forall2
import Mathlib.Data.List.Infix
/-!
# The words of a command line

A command line is read word by word, and stops at the first word that does not fit. What it says can
also be told without reading it: `Spells` lists the ways in which the words give values to options, and
a command line is read exactly when its words spell options that fit (`read_eq_ok_iff`).

* `EnvArguments`: the arguments for variables among the words.
* `exists_envArguments_of_read`: the variables of a build are those of its arguments, in their order.
* `envPair?_eq_some_iff`: how an argument gives a variable its value.
-/

namespace BuildYard.Cli

/-! ## Words on their own -/

namespace Usage

/-- The word is the name of an option behind two hyphens. -/
def IsOption (word name : String) : Prop :=
  word = "--" ++ name ∧ '=' ∉ name.toList ∧ name ≠ ""

/-- The word is the name of an option behind two hyphens, an equals sign and a value. -/
def IsOptionWith (word name value : String) : Prop :=
  word = "--" ++ name ++ "=" ++ value ∧ '=' ∉ name.toList

instance (word name : String) : Decidable (IsOption word name) :=
  inferInstanceAs (Decidable (_ ∧ _))

instance (word name value : String) : Decidable (IsOptionWith word name value) :=
  inferInstanceAs (Decidable (_ ∧ _))

theorem toList_hyphens (s : String) : ("--" ++ s).toList = '-' :: '-' :: s.toList := by
  rw [String.toList_append]
  rfl

theorem toList_equals (s : String) : ("=" ++ s).toList = '=' :: s.toList := by
  rw [String.toList_append]
  rfl

theorem eq_ofList_hyphens {word : String} {rest : List Char}
    (h : word.toList = '-' :: '-' :: rest) : word = "--" ++ String.ofList rest := by
  rw [← String.toList_inj, h, toList_hyphens, String.toList_ofList]

theorem of_eq_option_some_iff {word name value : String} :
    Word.of word = .option name (some value) ↔ IsOptionWith word name value := by
  constructor
  · intro h
    unfold Word.of at h
    split at h
    · cases h
    · rename_i rest hword
      split at h
      · rename_i before after hcut
        cases h
        have hsides := Text.cutAt?_append hcut
        refine ⟨?_, ?_⟩
        · rw [eq_ofList_hyphens hword, ← hsides, String.ofList_append, String.ofList_append,
            String.append_assoc, String.append_assoc]
          rfl
        · rw [String.toList_ofList]
          exact Text.not_mem_of_cutAt?_singleton hcut
      · cases h
    · cases h
    · cases h
  · rintro ⟨rfl, hname⟩
    have hchars : ("--" ++ name ++ "=" ++ value).toList =
        '-' :: '-' :: (name.toList ++ '=' :: value.toList) := by
      rw [String.append_assoc, String.append_assoc, toList_hyphens, String.toList_append,
        toList_equals]
    have hcut := Text.cutAt?_singleton hname value.toList
    unfold Word.of
    rw [hchars]
    cases hrest : name.toList ++ '=' :: value.toList with
    | nil => simp at hrest
    | cons c rest =>
      rw [hrest] at hcut
      simp only [hcut, String.ofList_toList]

theorem of_eq_option_none_iff {word name : String} :
    Word.of word = .option name none ↔ IsOption word name := by
  constructor
  · intro h
    unfold Word.of at h
    split at h
    · cases h
    · rename_i rest hne hword
      split at h
      · cases h
      · rename_i hcut
        cases h
        rw [Text.cutAt?_eq_none_iff (List.cons_ne_nil _ _), List.singleton_infix_iff] at hcut
        refine ⟨eq_ofList_hyphens hword, by rwa [String.toList_ofList], fun hempty => ?_⟩
        have hrest := congrArg String.toList hempty
        rw [String.toList_ofList] at hrest
        exact hne hrest
    · cases h
    · cases h
  · rintro ⟨rfl, hequals, hne⟩
    have hcut : Text.cutAt? ['='] name.toList = none := by
      rwa [Text.cutAt?_eq_none_iff (List.cons_ne_nil _ _), List.singleton_infix_iff]
    have hof := String.ofList_toList (s := name)
    unfold Word.of
    rw [toList_hyphens]
    cases hname : name.toList with
    | nil => exact absurd (String.toList_inj.1 hname) hne
    | cons c rest =>
      rw [hname] at hcut hof
      simp only [hcut, hof]

theorem eq_hyphens_of_separator {word : String} (h : Word.of word = .separator) : word = "--" := by
  unfold Word.of at h
  split at h
  · rename_i hword
    rw [← String.toList_inj, hword]
    rfl
  · split at h <;> cases h
  · cases h
  · cases h

/-! ## Giving values -/

variable {u : Usage} {g g' : Given}

/-- Gives options their values, one after the other. -/
def addValues (u : Usage) (g : Given) (options : List (String × String)) : Except Stop Given :=
  options.foldlM (fun g o => u.addValue g o.1 o.2) g

theorem addValues_cons (u : Usage) (g : Given) (name value : String)
    (options : List (String × String)) :
    u.addValues g ((name, value) :: options) =
      u.addValue g name value >>= fun g => u.addValues g options :=
  List.foldlM_cons

theorem addValues_cons_eq_ok_iff {name value : String} {options : List (String × String)} :
    u.addValues g ((name, value) :: options) = .ok g' ↔
      ∃ g₁, u.addValue g name value = .ok g₁ ∧ u.addValues g₁ options = .ok g' := by
  rw [addValues_cons, bind_eq_ok_iff]

/-- A value that is added goes behind the others, and has passed the test of its option. -/
theorem of_addValue {name value : String} (h : u.addValue g name value = .ok g') :
    g' = { g with values := g.values ++ [(name, value)] } ∧
      ∀ isFit, u.options.lookup name = some (.repeated isFit) → isFit value = true := by
  unfold addValue at h
  dsimp only at h
  split at h
  · cases h
  · split at h
    · cases h
    · cases h
      exact ⟨rfl, by simp [*]⟩
  · split at h
    · cases h
    · cases h
      exact ⟨rfl, by simp [*]⟩
  · split at h
    · cases h
      exact ⟨rfl, by simp_all⟩
    · cases h

theorem of_addValues {options : List (String × String)} (h : u.addValues g options = .ok g') :
    g'.values = g.values ++ options ∧
      ∀ o ∈ options, ∀ isFit, u.options.lookup o.1 = some (.repeated isFit) → isFit o.2 = true := by
  induction options generalizing g with
  | nil =>
    cases h
    simp
  | cons o options ih =>
    obtain ⟨name, value⟩ := o
    obtain ⟨g₁, hadd, hadds⟩ := addValues_cons_eq_ok_iff.1 h
    obtain ⟨rfl, hfit⟩ := of_addValue hadd
    obtain ⟨hvalues, hrest⟩ := ih hadds
    refine ⟨by rw [hvalues, List.append_assoc]; rfl, ?_⟩
    exact List.forall_mem_cons.2 ⟨hfit, hrest⟩

/-! ## Reading -/

/-- The ways in which words give values to options. -/
inductive Spells (u : Usage) : List String → List (String × String) → Prop
  | done : Spells u [] []
  /-- Nothing stands behind the separator. -/
  | separator : Spells u ["--"] []
  | joined {word name value : String} {words : List String} {options : List (String × String)}
      (is_option : IsOptionWith word name value) (takes_value : u.takesValue name = true)
      (rest : Spells u words options) : Spells u (word :: words) ((name, value) :: options)
  | apart {word name value : String} {words : List String} {options : List (String × String)}
      (is_option : IsOption word name) (takes_value : u.takesValue name = true)
      (is_value : isValueWord value = true) (rest : Spells u words options) :
      Spells u (word :: value :: words) ((name, value) :: options)
  | switch {word name : String} {words : List String} {options : List (String × String)}
      (is_option : IsOption word name) (is_switch : u.options.lookup name = some .switch)
      (rest : Spells u words options) : Spells u (word :: words) ((name, "") :: options)

theorem takesValue_of_switch {name : String} (h : u.options.lookup name = some .switch) :
    u.takesValue name = false := by
  rw [takesValue, h]

/-- An option that takes no value and is added is a switch. -/
theorem switch_of_addValue {name value : String} (hno : ¬ u.takesValue name = true)
    (h : u.addValue g name value = .ok g') : u.options.lookup name = some .switch := by
  unfold takesValue at hno
  unfold addValue at h
  rcases hform : u.options.lookup name with _ | _ | _ | _
  · rw [hform] at h
    cases h
  · rfl
  · rw [hform] at hno
    exact absurd rfl hno
  · rw [hform] at hno
    exact absurd rfl hno

/-- Words that are read spell the options with the values that are added. -/
theorem exists_spells_of_read {words : List String} (hoperands : u.operands = 0)
    (h : u.read g words = .ok g') :
    ∃ options, u.Spells words options ∧ u.addValues g options = .ok g' := by
  fun_induction read u g words generalizing g' with
  | case1 g => exact ⟨[], .done, h⟩
  | case2 g word rest hword =>
    obtain rfl := eq_hyphens_of_separator hword
    cases rest with
    | nil => exact ⟨[], .separator, h⟩
    | cons operand rest =>
      obtain ⟨g₁, hadd, -⟩ := bind_eq_ok_iff.1 h
      rw [addOperand, hoperands, if_neg (Nat.not_lt_zero _)] at hadd
      cases hadd
  | case3 | case5 | case7 | case9 | case10 => cases h
  | case4 g word rest hword ih =>
    obtain ⟨g₁, hadd, -⟩ := bind_eq_ok_iff.1 h
    rw [addOperand, hoperands, if_neg (Nat.not_lt_zero _)] at hadd
    cases hadd
  | case6 g word rest name value hword htakes ih =>
    obtain ⟨g₁, hadd, hread⟩ := bind_eq_ok_iff.1 h
    obtain ⟨options, hspells, hadds⟩ := ih g₁ hread
    exact ⟨(name, value) :: options, .joined (of_eq_option_some_iff.1 hword) htakes hspells,
      addValues_cons_eq_ok_iff.2 ⟨g₁, hadd, hadds⟩⟩
  | case8 g word name hhelp hword htakes value rest hvalue ih =>
    obtain ⟨g₁, hadd, hread⟩ := bind_eq_ok_iff.1 h
    obtain ⟨options, hspells, hadds⟩ := ih g₁ hread
    exact ⟨(name, value) :: options,
      .apart (of_eq_option_none_iff.1 hword) htakes hvalue hspells,
      addValues_cons_eq_ok_iff.2 ⟨g₁, hadd, hadds⟩⟩
  | case11 g word rest name hhelp hword htakes ih =>
    obtain ⟨g₁, hadd, hread⟩ := bind_eq_ok_iff.1 h
    obtain ⟨options, hspells, hadds⟩ := ih g₁ hread
    exact ⟨(name, "") :: options,
      .switch (of_eq_option_none_iff.1 hword) (switch_of_addValue htakes hadd) hspells,
      addValues_cons_eq_ok_iff.2 ⟨g₁, hadd, hadds⟩⟩

/-- Words that spell options are read as them. -/
theorem Spells.read_eq {words : List String} {options : List (String × String)}
    (h : u.Spells words options) (hhelp : u.options.lookup "help" = none) (g : Given) :
    u.read g words = u.addValues g options := by
  have hne : ∀ {name : String}, u.options.lookup name ≠ none → name ≠ "help" := by
    rintro name hsome rfl
    exact hsome hhelp
  have htaken : ∀ {name : String}, u.takesValue name = true → u.options.lookup name ≠ none := by
    intro name htakes hnone
    rw [takesValue, hnone] at htakes
    cases htakes
  induction h generalizing g with
  | done => rfl
  | separator => rfl
  | joined is_option takes_value rest ih =>
    have hword := of_eq_option_some_iff.2 is_option
    rw [addValues_cons, read]
    simp only [hword, takes_value, if_true, ih]
  | @apart word name value words options is_option takes_value is_value rest ih =>
    have hword := of_eq_option_none_iff.2 is_option
    have hname := hne (htaken takes_value)
    rw [addValues_cons, read]
    simp only [hword, takes_value, is_value, if_true, ih]
  | @switch word name words options is_option is_switch rest ih =>
    have hword := of_eq_option_none_iff.2 is_option
    have hname := hne (by rw [is_switch]; simp : u.options.lookup name ≠ none)
    have htakes := takesValue_of_switch is_switch
    rw [addValues_cons, read]
    simp [hword, htakes, ih]

/-- **Words are read exactly when they spell options that fit.** -/
theorem read_eq_ok_iff {words : List String} (hoperands : u.operands = 0)
    (hhelp : u.options.lookup "help" = none) :
    u.read g words = .ok g' ↔
      ∃ options, u.Spells words options ∧ u.addValues g options = .ok g' := by
  refine ⟨exists_spells_of_read hoperands, ?_⟩
  rintro ⟨options, hspells, hadds⟩
  rw [hspells.read_eq hhelp, hadds]

end Usage

/-! ## Variables -/

/-- The argument gives the variable this value: the name stands in front of the first equals sign, and
is not empty. -/
def Gives (raw name value : String) : Prop :=
  raw = name ++ "=" ++ value ∧ '=' ∉ name.toList ∧ name ≠ ""

instance (raw name value : String) : Decidable (Gives raw name value) :=
  inferInstanceAs (Decidable (_ ∧ _))

theorem envPair?_eq_some_iff {raw name value : String} :
    envPair? raw = some (name, value) ↔ Gives raw name value := by
  constructor
  · intro h
    unfold envPair? at h
    split at h
    · cases h
    · cases h
    · rename_i before after hne hcut
      cases h
      have hsides := Text.cutAt?_append hcut
      refine ⟨?_, ?_, fun hempty => ?_⟩
      · rw [← String.toList_inj, ← hsides]
        simp
      · rw [String.toList_ofList]
        exact Text.not_mem_of_cutAt?_singleton hcut
      · have hbefore := congrArg String.toList hempty
        rw [String.toList_ofList] at hbefore
        exact hne hbefore
  · rintro ⟨rfl, hequals, hne⟩
    have hchars : (name ++ "=" ++ value).toList = name.toList ++ '=' :: value.toList := by
      simp
    have hcut := Text.cutAt?_singleton hequals value.toList
    have hof := String.ofList_toList (s := name)
    unfold envPair?
    rw [hchars, hcut]
    cases hname : name.toList with
    | nil => exact absurd (String.toList_inj.1 hname) hne
    | cons c rest =>
      rw [hname] at hof
      simp only [hof, String.ofList_toList]

theorem Gives.unique {raw name name' value value' : String} (h : Gives raw name value)
    (h' : Gives raw name' value') : name = name' ∧ value = value' := by
  have hsame := (envPair?_eq_some_iff.2 h).symm.trans (envPair?_eq_some_iff.2 h')
  exact Prod.mk.inj (Option.some.inj hsame)

/-! ## The variables of a build -/

/-- The arguments for variables among the words of a command line. -/
def EnvArguments (words raws : List String) : Prop :=
  ∃ name rest usage options, words = name :: rest ∧ usages.lookup name = some usage ∧
    usage.Spells rest options ∧ raws = (options.filter (·.1 = "env")).map (·.2)

/-- What a command says of a build, if it is about one. -/
def Command.build? : Command → Option BuildArguments
  | .renderJob build => some build
  | .onCluster (.submit build _ _) => some build
  | .onCluster _ => none

/-- What was given to a command makes the command, or something is missing. -/
theorem Command.read_cons_eq_ok_iff {name : String} {words : List String} {command : Command} :
    Command.read (name :: words) = .ok command ↔
      ∃ usage g, usages.lookup name = some usage ∧ usage.read {} words = .ok g ∧
        command? name g = some command := by
  by_cases hhelp : name = "help"
  · subst hhelp
    constructor
    · intro h
      unfold Command.read at h
      cases h
    · rintro ⟨usage, g, husage, -⟩
      cases husage
  rw [Command.read.eq_3 _ _ hhelp]
  cases husage : usages.lookup name with
  | none =>
    refine ⟨fun h => ?_, fun ⟨usage, g, h, _⟩ => by cases h⟩
    obtain ⟨g, -, h⟩ := bind_eq_ok_iff.1 h
    cases h
  | some usage =>
    constructor
    · intro h
      obtain ⟨g, hread, h⟩ := bind_eq_ok_iff.1 h
      split at h
      · rename_i command' hcommand
        cases h
        exact ⟨usage, g, rfl, hread, hcommand⟩
      · cases h
    · rintro ⟨usage', g, hsame, hread, hcommand⟩
      obtain rfl := Option.some.inj hsame
      exact bind_eq_ok_iff.2 ⟨g, hread, by rw [hcommand]⟩

/-- A command about a build takes the options of a build, and no operands. -/
theorem of_build {name : String} {usage : Usage} {g : Given} {command : Command}
    {build : BuildArguments} (husage : usages.lookup name = some usage)
    (hcommand : command? name g = some command) (hbuild : command.build? = some build) :
    buildArguments? g = some build ∧ usage.operands = 0 ∧ usage.options.lookup "help" = none ∧
      usage.options.lookup "env" = some (.repeated fun raw => (envPair? raw).isSome) := by
  unfold command? at hcommand
  split at hcommand
  · cases hcommand
    cases hbuild
  · obtain rfl := Option.some.inj husage
    obtain ⟨build', harguments, hcommand⟩ := Option.bind_eq_some_iff.1 hcommand
    cases hcommand
    cases hbuild
    exact ⟨harguments, rfl, rfl, rfl⟩
  · obtain ⟨jobName, -, hcommand⟩ := Option.bind_eq_some_iff.1 hcommand
    cases hcommand
    cases hbuild
  · obtain ⟨serviceId, -, hcommand⟩ := Option.bind_eq_some_iff.1 hcommand
    cases hcommand
    cases hbuild
  · obtain ⟨ns, -, hcommand⟩ := Option.bind_eq_some_iff.1 hcommand
    obtain ⟨selector, -, hcommand⟩ := Option.bind_eq_some_iff.1 hcommand
    cases hcommand
    cases hbuild
  · obtain rfl := Option.some.inj husage
    obtain ⟨build', harguments, hcommand⟩ := Option.bind_eq_some_iff.1 hcommand
    cases hcommand
    cases hbuild
    exact ⟨harguments, rfl, rfl, rfl⟩
  · cases hcommand

theorem env_of_buildArguments? {g : Given} {build : BuildArguments}
    (h : buildArguments? g = some build) : build.env = (g.valuesOf "env").filterMap envPair? := by
  obtain ⟨serviceId, -, h⟩ := Option.bind_eq_some_iff.1 h
  cases h
  rfl

/-- Arguments that pass the test of their option give a variable each. -/
theorem forall₂_filterMap_envPair? {raws : List String}
    (h : ∀ raw ∈ raws, (envPair? raw).isSome = true) :
    List.Forall₂ (fun raw variable_ => Gives raw variable_.1 variable_.2) raws
      (raws.filterMap envPair?) := by
  induction raws with
  | nil => exact .nil
  | cons raw raws ih =>
    obtain ⟨hraw, hraws⟩ := List.forall_mem_cons.1 h
    obtain ⟨variable_, hpair⟩ := Option.isSome_iff_exists.1 hraw
    rw [List.filterMap_cons_some hpair]
    exact .cons (envPair?_eq_some_iff.1 hpair) (ih hraws)

/-- What was read are the options that the words spell, and the arguments for variables among them have
passed their test. -/
theorem of_spells_of_read {usage : Usage} {rest : List String} {g : Given}
    {options : List (String × String)} (hhelp : usage.options.lookup "help" = none)
    (henv : usage.options.lookup "env" = some (.repeated fun raw => (envPair? raw).isSome))
    (hspells : usage.Spells rest options) (hread : usage.read {} rest = .ok g) :
    g.values = options ∧ ∀ raw, ("env", raw) ∈ options → (envPair? raw).isSome = true := by
  rw [hspells.read_eq hhelp] at hread
  obtain ⟨hvalues, hfits⟩ := Usage.of_addValues hread
  exact ⟨hvalues, fun raw hraw => hfits _ hraw _ henv⟩

/-- **The variables of a build are those of its arguments.** A command line that is read as a command
about a build has certain arguments for variables, and the build has the variables that they give, one
for each argument and in their order. -/
theorem exists_envArguments_of_read {words : List String} {command : Command}
    {build : BuildArguments} (hread : Command.read words = .ok command)
    (hbuild : command.build? = some build) :
    ∃ raws, (∀ raws', EnvArguments words raws' ↔ raws' = raws) ∧
      List.Forall₂ (fun raw variable_ => Gives raw variable_.1 variable_.2) raws build.env := by
  obtain ⟨name, rest, rfl⟩ : ∃ name rest, words = name :: rest := by
    cases words with
    | nil => cases hread
    | cons name rest => exact ⟨name, rest, rfl⟩
  obtain ⟨usage, g, husage, hgiven, hcommand⟩ := Command.read_cons_eq_ok_iff.1 hread
  obtain ⟨harguments, hoperands, hhelp, henv⟩ := of_build husage hcommand hbuild
  obtain ⟨options, hspells, -⟩ := Usage.exists_spells_of_read hoperands hgiven
  obtain ⟨rfl, hfits⟩ := of_spells_of_read hhelp henv hspells hgiven
  refine ⟨g.valuesOf "env", fun raws' => ⟨?_, ?_⟩, ?_⟩
  · rintro ⟨name', rest', usage', options', hwords, husage', hspells', rfl⟩
    obtain ⟨rfl, rfl⟩ := List.cons.inj hwords
    obtain rfl := Option.some.inj (husage.symm.trans husage')
    obtain ⟨rfl, -⟩ := of_spells_of_read hhelp henv hspells' hgiven
    rfl
  · rintro rfl
    exact ⟨name, rest, usage, g.values, rfl, husage, hspells, rfl⟩
  · rw [env_of_buildArguments? harguments]
    refine forall₂_filterMap_envPair? fun raw hraw => ?_
    obtain ⟨⟨name', raw'⟩, ho, rfl⟩ := List.mem_map.1 hraw
    obtain ⟨hmem, hname⟩ := List.mem_filter.1 ho
    obtain rfl : name' = "env" := of_decide_eq_true hname
    exact hfits raw' hmem

/-! ## Giving variables -/

/-- The options of a build with an id of its service and arguments for variables. -/
def givenOptions (serviceId : String) (raws : List String) : List (String × String) :=
  ("service-id", serviceId) :: raws.map fun raw => ("env", raw)

/-- These options as words, each with its value. -/
def givenWords (serviceId : String) (raws : List String) : List String :=
  ("--service-id=" ++ serviceId) :: raws.map fun raw => "--env=" ++ raw

theorem spells_givenWords {u : Usage} (hservice : u.takesValue "service-id" = true)
    (henv : u.takesValue "env" = true) (serviceId : String) (raws : List String) :
    u.Spells (givenWords serviceId raws) (givenOptions serviceId raws) := by
  have hwords : ∀ raws : List String,
      u.Spells (raws.map fun raw => "--env=" ++ raw) (raws.map fun raw => ("env", raw)) := by
    intro raws
    induction raws with
    | nil => exact .done
    | cons raw raws ih => exact .joined ⟨rfl, by decide⟩ henv ih
  exact .joined ⟨rfl, by decide⟩ hservice (hwords raws)

/-- Arguments that pass the test of their option can all be given. -/
theorem exists_addValues {u : Usage} {isFit : String → Bool}
    (henv : u.options.lookup "env" = some (.repeated isFit)) {raws : List String}
    (h : ∀ raw ∈ raws, isFit raw = true) (g : Given) :
    ∃ g', u.addValues g (raws.map fun raw => ("env", raw)) = .ok g' := by
  induction raws generalizing g with
  | nil => exact ⟨g, rfl⟩
  | cons raw raws ih =>
    obtain ⟨hraw, hraws⟩ := List.forall_mem_cons.1 h
    obtain ⟨g', hadds⟩ := ih hraws { g with values := g.values ++ [("env", raw)] }
    refine ⟨g', Usage.addValues_cons_eq_ok_iff.2 ⟨_, ?_, hadds⟩⟩
    simp only [Usage.addValue, henv, hraw, if_true]

/-- The two commands about a build take the options of a build. -/
theorem exists_usage_of_name {name : String} (hname : name = "submit" ∨ name = "render-job") :
    ∃ usage, usages.lookup name = some usage ∧ usage.operands = 0 ∧
      usage.options.lookup "help" = none ∧ usage.options.lookup "service-id" = some anyText ∧
      usage.options.lookup "env" = some (.repeated fun raw => (envPair? raw).isSome) := by
  rcases hname with rfl | rfl <;> exact ⟨_, rfl, rfl, rfl, rfl, rfl⟩

/-- They miss nothing but the id of a service. -/
theorem exists_command?_of_name {name : String} (hname : name = "submit" ∨ name = "render-job")
    {g : Given} {serviceId : String} (hservice : g.value? "service-id" = some serviceId) :
    ∃ command, command? name g = some command := by
  have harguments : ∃ build, buildArguments? g = some build := by
    simp [buildArguments?, hservice]
  obtain ⟨build, harguments⟩ := harguments
  rcases hname with rfl | rfl <;> simp [command?, harguments]

/-- **Arguments are accepted when each of them gives a variable.** -/
theorem exists_read_iff {name : String} (hname : name = "submit" ∨ name = "render-job")
    (serviceId : String) (raws : List String) :
    (∃ command, Command.read (name :: givenWords serviceId raws) = .ok command) ↔
      ∀ raw ∈ raws, ∃ variable_ value, Gives raw variable_ value := by
  obtain ⟨usage, husage, hoperands, hhelp, hservice, henv⟩ := exists_usage_of_name hname
  have hspells : usage.Spells (givenWords serviceId raws) (givenOptions serviceId raws) :=
    spells_givenWords (by simp [Usage.takesValue, hservice, anyText])
      (by simp [Usage.takesValue, henv]) serviceId raws
  have hfit : ∀ raw, (envPair? raw).isSome = true ↔ ∃ variable_ value, Gives raw variable_ value := by
    intro raw
    simp only [Option.isSome_iff_exists, Prod.exists, envPair?_eq_some_iff]
  constructor
  · rintro ⟨command, hread⟩ raw hraw
    obtain ⟨usage', g, husage', hgiven, -⟩ := Command.read_cons_eq_ok_iff.1 hread
    obtain rfl := Option.some.inj (husage.symm.trans husage')
    refine (hfit raw).1 ((of_spells_of_read hhelp henv hspells hgiven).2 raw ?_)
    exact List.mem_cons_of_mem _ (List.mem_map_of_mem hraw)
  · intro hraws
    have hadd : usage.addValue {} "service-id" serviceId =
        .ok { values := [("service-id", serviceId)] } := by
      simp [Usage.addValue, hservice, anyText, Given.has, Given.value?]
    obtain ⟨g, hadds⟩ := exists_addValues henv (fun raw hraw => (hfit raw).2 (hraws raw hraw))
      { values := [("service-id", serviceId)] }
    have hgiven : usage.addValues {} (givenOptions serviceId raws) = .ok g :=
      Usage.addValues_cons_eq_ok_iff.2 ⟨_, hadd, hadds⟩
    have hvalue : g.value? "service-id" = some serviceId := by
      rw [Given.value?, (Usage.of_addValues hadds).1]
      rfl
    obtain ⟨command, hcommand⟩ := exists_command?_of_name hname hvalue
    exact ⟨command, Command.read_cons_eq_ok_iff.2
      ⟨usage, g, husage, (hspells.read_eq hhelp {}).trans hgiven, hcommand⟩⟩

end BuildYard.Cli
