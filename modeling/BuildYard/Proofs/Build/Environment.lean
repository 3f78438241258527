import BuildYard.Proofs.Cli.Words
import BuildYard.Proofs.Lists.FirstAndLast
import Mathlib.Order.Compare
/-!
# The environment of the builder

The builder gets variables of the build yard's and those that the caller gave as arguments. Of two
arguments for one variable the later counts, and so it does in the environment, where the caller's
variables stand behind the others.

* `IsEnvironment`: what the environment is for some arguments.
* `isEnvironment_of_read`: it is that for every command line that is read.
-/

namespace BuildYard

namespace Cli

/-! ## What arguments give -/

variable {raws : List String} {name : String}

/-- An argument gives the variable a value. -/
def IsGiven (raws : List String) (name : String) : Prop := ∃ raw ∈ raws, ∃ value, Gives raw name value

/-- The last argument for the variable gives it this value. -/
def LastGives (raws : List String) (name value : String) : Prop :=
  LastGiving (Gives · name) raws value

theorem isGiven_iff_exists_lastGives : IsGiven raws name ↔ ∃ value, LastGives raws name value :=
  exists_lastGiving_iff.symm

theorem givesOne_gives : GivesOne Gives := fun _ _ _ _ _ h h' => h.unique h'

end Cli

namespace Build

open Cli

/-! ## The environment for some arguments -/

/-- The variables that every builder gets, by name. -/
def injectedNames : List String :=
  ["BUILDKIT_HOST", "POSTGRES_HOST", "POSTGRES_PORT", "POSTGRES_USER", "POSTGRES_PASSWORD",
    "POSTGRES_DB"]

/-- The environment gives the variable this value: of the entries with one name the last counts. -/
def Sets (env : List EnvVar) (name value : String) : Prop :=
  ∃ e, LastWith (·.name = name) env e ∧ e.value = some value

/-- The environment is what the arguments ask for. -/
structure IsEnvironment (db : DatabaseSettings) (raws : List String) (env : List EnvVar) : Prop where
  /-- The injected variables come first, then each of the caller's once, in the order of their
  names. -/
  listed : ∃ given : List (String × String),
    env = (injectedVariables db ++ given).map (fun e => variable_ e.1 e.2) ∧
      (given.map (·.1)).Pairwise (· < ·) ∧ ∀ name, name ∈ given.map (·.1) ↔ IsGiven raws name
  /-- The last argument for a variable counts, and an injected value where there is none. -/
  sets_iff : ∀ name value, Sets env name value ↔
    LastGives raws name value ∨ (¬ IsGiven raws name ∧ (name, value) ∈ injectedVariables db)
  /-- No other variable is in it. -/
  mem_iff : ∀ name, name ∈ env.map (·.name) ↔ name ∈ injectedNames ∨ IsGiven raws name
  /-- A name is repeated only if it is injected and given. -/
  repeated_iff : ∀ name,
    1 < (env.map (·.name)).count name ↔ name ∈ injectedNames ∧ IsGiven raws name
  /-- A name that is repeated is there twice. -/
  twice : ∀ name, 1 < (env.map (·.name)).count name → (env.map (·.name)).count name = 2
  nodup_iff : ¬ (env.map (·.name)).Nodup ↔ ∃ name ∈ injectedNames, IsGiven raws name

theorem map_fst_injectedVariables (db : DatabaseSettings) :
    (injectedVariables db).map (·.1) = injectedNames := rfl

theorem nodup_injectedNames : injectedNames.Nodup := by decide

section Environment

variable {db : DatabaseSettings} {raws : List String} {request : BuildRequest}

/-- The names in an environment are the injected ones and those of the request. -/
theorem names_environment (request : BuildRequest) (db : DatabaseSettings) :
    (environment request db).map (·.name) = injectedNames ++ request.env.keys := by
  rw [environment, List.map_map, List.map_append]
  rfl

theorem pairwise_keys (m : SortedMap String String) : m.keys.Pairwise (· < ·) := by
  rw [SortedMap.keys, List.pairwise_map]
  exact m.ascending.imp fun h => compareOfLessAndEq_eq_lt.1 h

theorem nodup_keys (m : SortedMap String String) : m.keys.Nodup := by
  refine (pairwise_keys m).imp ?_
  rintro name name' hlt rfl
  exact String.lt_irrefl name hlt

theorem mem_keys_iff {m : SortedMap String String} {name : String} :
    name ∈ m.keys ↔ ∃ value, m.find? name = some value := by
  simp only [SortedMap.keys, List.mem_map, Prod.exists, SortedMap.mem_entries_iff]
  simp

/-- How often a name is in an environment. -/
theorem count_names_environment (name : String) :
    ((environment request db).map (·.name)).count name =
      (if name ∈ injectedNames then 1 else 0) + if name ∈ request.env.keys then 1 else 0 := by
  rw [names_environment, List.count_append, nodup_injectedNames.count,
    (nodup_keys request.env).count]

/-- Entries with values set what the last pairs do. -/
theorem sets_map_variable_iff {pairs : List (String × String)} {name value : String} :
    Sets (pairs.map fun e => variable_ e.1 e.2) name value ↔
      LastWith (·.1 = name) pairs (name, value) := by
  constructor
  · rintro ⟨e, hlast, hvalue⟩
    obtain ⟨pair, hpair, rfl⟩ := lastWith_map_iff.1 hlast
    obtain rfl : pair.1 = name := hpair.holds
    obtain rfl : pair.2 = value := Option.some.inj hvalue
    exact hpair
  · intro hlast
    exact ⟨_, lastWith_map_iff.2 ⟨_, hlast, rfl⟩, rfl⟩

/-- A variable of the request has its value there, and another one its injected value. -/
theorem sets_environment_iff {name value : String} :
    Sets (environment request db) name value ↔
      request.env.find? name = some value ∨
        (name ∉ request.env.keys ∧ (name, value) ∈ injectedVariables db) := by
  have hinjected : ((injectedVariables db).map (·.1)).Nodup := by
    rw [map_fst_injectedVariables]
    exact nodup_injectedNames
  have hnone : (∀ e ∈ request.env.entries, ¬ e.1 = name) ↔ name ∉ request.env.keys := by
    simp only [SortedMap.keys, List.mem_map, not_exists, not_and]
  have henvironment : environment request db =
      (injectedVariables db ++ request.env.entries).map fun e => variable_ e.1 e.2 := rfl
  rw [henvironment, sets_map_variable_iff, lastWith_append_iff, hnone,
    lastWith_iff_mem_of_nodup (nodup_keys request.env), lastWith_iff_mem_of_nodup hinjected,
    SortedMap.mem_entries_iff, and_comm]

/-- The environment for a request whose variables are those of the arguments. -/
theorem isEnvironment_environment
    (h : ∀ name value, request.env.find? name = some value ↔ LastGives raws name value) :
    IsEnvironment db raws (environment request db) := by
  have hkeys : ∀ name, name ∈ request.env.keys ↔ IsGiven raws name := by
    intro name
    simp only [mem_keys_iff, h, isGiven_iff_exists_lastGives]
  have hrepeated : ∀ name, 1 < ((environment request db).map (·.name)).count name ↔
      name ∈ injectedNames ∧ IsGiven raws name := by
    intro name
    rw [count_names_environment, ← hkeys]
    split <;> split <;> simp_all
  refine ⟨⟨request.env.entries, rfl, pairwise_keys request.env, hkeys⟩, ?_, ?_, hrepeated, ?_, ?_⟩
  · intro name value
    rw [sets_environment_iff, h, hkeys]
  · intro name
    rw [names_environment, List.mem_append, hkeys]
  · intro name
    rw [count_names_environment]
    split <;> split <;> simp
  · rw [List.nodup_iff_count_le_one]
    simp only [not_forall, not_le, hrepeated]

end Environment

/-! ## The builder of a command line -/

/-- The container of a name in the pods of a job. -/
def container? (job : Job) (name : String) : Option Container :=
  job.spec.bind fun spec => spec.template.spec.bind fun pod =>
    pod.containers.find? (·.name = name)

/-- The pods of a build have one builder, with the environment for the request. -/
theorem container?_manifest (request : BuildRequest) (jobName : String) (at_ : Instant)
    (settings : Settings) :
    container? (manifest request jobName at_ settings) builderName =
      some (builder request settings.build settings.database) := by
  simp [container?, manifest, podSpec, builder, scripted]

/-- A request has the variables that the last arguments give. -/
theorem find?_toRequest_iff {build : BuildArguments} {raws : List String}
    (h : List.Forall₂ (fun raw pair => Gives raw pair.1 pair.2) raws build.env) (freshId : String)
    (name value : String) :
    (build.toRequest freshId).env.find? name = some value ↔ LastGives raws name value := by
  rw [LastGives, ← (Entries.of_forall₂ h).lastWith_iff givesOne_gives]
  exact SortedMap.find?_ofList_eq_some_iff

/-- **The environment of the builder is what the arguments ask for.** An argument gives a variable when
its part in front of the first equals sign is not empty, and it is cut there; arguments are accepted
when each of them gives a variable. However a command line gives them, the builder has the injected
variables and behind them the caller's, each once and in the order of their names; a name has the value
of the last argument for it, or its injected value; and the names that are repeated, twice each, are
the injected ones among those that the caller gave. -/
theorem isEnvironment_of_read {words : List String} {command : Command} {build : BuildArguments}
    (hread : Command.read words = .ok command) (hbuild : command.build? = some build) :
    (∀ raw name value, envPair? raw = some (name, value) ↔ Gives raw name value) ∧
    (∀ name serviceId raws, name = "submit" ∨ name = "render-job" →
      ((∃ command, Command.read (name :: givenWords serviceId raws) = .ok command) ↔
        ∀ raw ∈ raws, ∃ variable_ value, Gives raw variable_ value)) ∧
    ∃ raws, (∀ raws', EnvArguments words raws' ↔ raws' = raws) ∧
      (∀ raw ∈ raws, ∃ name value, Gives raw name value) ∧
      ∀ freshId jobName at_ (settings : Settings), ∃ container env,
        container? (manifest (build.toRequest freshId) jobName at_ settings) "build-container" =
          some container ∧
        container.env = some env ∧ IsEnvironment settings.database raws env := by
  refine ⟨fun _ _ _ => envPair?_eq_some_iff, fun _ _ _ hname => exists_read_iff hname _ _, ?_⟩
  obtain ⟨raws, hraws, hgives⟩ := exists_envArguments_of_read hread hbuild
  refine ⟨raws, hraws, ?_, ?_⟩
  · intro raw hraw
    obtain ⟨i, rfl⟩ := List.mem_iff_get.1 hraw
    exact ⟨_, _, hgives.get i.2 (hgives.length_eq ▸ i.2)⟩
  · intro freshId jobName at_ settings
    exact ⟨_, _, container?_manifest _ jobName at_ settings, rfl,
      isEnvironment_environment (find?_toRequest_iff hgives freshId)⟩

/-- The words of a command line that gives one variable twice, and one of the injected ones. -/
def repeatingWords : List String :=
  ["render-job", "--service-id", "svc", "--env", "GIT_REF=main", "--env=POSTGRES_DB=a=b",
    "--env", "GIT_REF="]

/-- What these words say of a build. -/
def repeatingBuild : BuildArguments where
  serviceId := "svc"
  env := [("GIT_REF", "main"), ("POSTGRES_DB", "a=b"), ("GIT_REF", "")]

/-- The environment of the builder of that command line, where `GIT_REF` is empty and `POSTGRES_DB` is
there twice. -/
theorem isEnvironment_of_read_repeating :
    Command.read repeatingWords = .ok (.renderJob repeatingBuild) ∧
      EnvArguments repeatingWords ["GIT_REF=main", "POSTGRES_DB=a=b", "GIT_REF="] ∧
      IsEnvironment {} ["GIT_REF=main", "POSTGRES_DB=a=b", "GIT_REF="]
        (environment (repeatingBuild.toRequest "new") {}) := by
  have hread : Command.read repeatingWords = .ok (.renderJob repeatingBuild) :=
    toOption_eq_some_iff.1 (by decide +kernel)
  obtain ⟨-, -, raws, hraws, -, hbuilder⟩ := isEnvironment_of_read hread rfl
  have hwords : EnvArguments repeatingWords ["GIT_REF=main", "POSTGRES_DB=a=b", "GIT_REF="] := by
    refine ⟨"render-job", _, _, [("service-id", "svc"), ("env", "GIT_REF=main"),
      ("env", "POSTGRES_DB=a=b"), ("env", "GIT_REF=")], rfl, rfl, ?_, rfl⟩
    have hservice : Usage.IsOption "--service-id" "service-id" := by decide
    have henv : Usage.IsOption "--env" "env" := by decide
    have hjoined : Usage.IsOptionWith "--env=POSTGRES_DB=a=b" "env" "POSTGRES_DB=a=b" := by decide
    exact .apart hservice rfl rfl (.apart henv rfl rfl (.joined hjoined rfl
      (.apart henv rfl rfl .done)))
  obtain rfl := (hraws _).1 hwords
  obtain ⟨container, env, hcontainer, henv, henvironment⟩ := hbuilder "new" "" .epoch {}
  refine ⟨hread, hwords, ?_⟩
  obtain rfl := Option.some.inj ((container?_manifest ..).symm.trans hcontainer)
  obtain rfl := Option.some.inj henv
  exact henvironment

end Build

end BuildYard
