import BuildYard.Settings
import Mathlib.Data.List.Induction
import Mathlib.Data.Nat.Digits.Defs
/-!
# Settings from variables

Every field of the settings has a variable of its own, and holds what that variable says or, where the
variable is not set, its default. Only two variables can be refused: the port, which has to be a number,
and the namespace, which must not be empty.

* `IsPortText`: the texts that are port numbers, by the places of their digits.
* `Gives`: what variables give for a field.
* `load_eq_ok_iff`: settings are loaded when variables give all of their fields.
* `load_reads_fields`: when this is so, which refusal goes first, and what one variable can change.
-/

namespace BuildYard.Text

/-! ## Digits and their places -/

/-- The number that decimal digits stand for: the last one counts once, and every place in front of
another ten times as much. -/
def placeValue (digits : List Char) : Nat :=
  Nat.ofDigits 10 (digits.reverse.map fun c => c.toNat - '0'.toNat)

theorem placeValue_append_singleton (digits : List Char) (c : Char) :
    placeValue (digits ++ [c]) = 10 * placeValue digits + (c.toNat - '0'.toNat) := by
  rw [placeValue, List.reverse_append, List.reverse_singleton, List.singleton_append, List.map_cons,
    Nat.ofDigits_cons, Nat.add_comm]
  rfl

/-- Reading from the front adds up the places. -/
theorem ofDigitChars_eq_placeValue (digits : List Char) :
    Nat.ofDigitChars 10 digits 0 = placeValue digits := by
  induction digits using List.reverseRecOn with
  | nil => rfl
  | append_singleton digits c ih =>
    rw [placeValue_append_singleton, Nat.ofDigitChars_append, ih, Nat.ofDigitChars_cons,
      Nat.ofDigitChars_nil]

theorem isDigit_iff {c : Char} : c.isDigit = true ↔ '0' ≤ c ∧ c ≤ '9' := by
  rw [Char.isDigit, Bool.and_eq_true, decide_eq_true_eq, decide_eq_true_eq]
  rfl

theorem ofDecimal?_eq_some_iff {s : List Char} {n : Nat} :
    ofDecimal? s = some n ↔ s ≠ [] ∧ (∀ c ∈ s, '0' ≤ c ∧ c ≤ '9') ∧ placeValue s = n := by
  rw [ofDecimal?, ofDigitChars_eq_placeValue]
  split
  · rename_i h
    refine iff_of_false (by simp) ?_
    rintro ⟨hsome, hascii, -⟩
    simp only [Bool.or_eq_true, List.isEmpty_iff, Bool.not_eq_true', List.all_eq_false] at h
    obtain h | ⟨c, hc, hdigit⟩ := h
    · exact hsome h
    · exact hdigit (isDigit_iff.2 (hascii c hc))
  · rename_i h
    simp only [Bool.or_eq_true, List.isEmpty_iff, Bool.not_eq_true', not_or, Bool.not_eq_false,
      List.all_eq_true, isDigit_iff] at h
    rw [Option.some.injEq]
    exact ⟨fun hn => ⟨h.1, h.2, hn⟩, fun hn => hn.2.2⟩

end BuildYard.Text

namespace BuildYard.Settings

/-! ## Port numbers -/

/-- The text is a port number: one or more ASCII digits, perhaps with a plus sign in front, that stand
for at most 65535. -/
inductive IsPortText : String → Nat → Prop
  | digits {raw : String} {digits : List Char}
      (spelled : raw.toList = digits ∨ raw.toList = '+' :: digits) (some_there : digits ≠ [])
      (ascii : ∀ c ∈ digits, '0' ≤ c ∧ c ≤ '9') (in_range : Text.placeValue digits ≤ 65535) :
      IsPortText raw (Text.placeValue digits)

/-- A digit is no plus sign, so a text has its sign or none in only one way. -/
theorem port?_eq_some_iff {raw : String} {n : Nat} : port? raw = some n ↔ IsPortText raw n := by
  unfold port?
  rw [Option.filter_eq_some_iff, Text.ofDecimal?_eq_some_iff, decide_eq_true_eq]
  constructor
  · rintro ⟨⟨hsome, hascii, rfl⟩, hrange⟩
    refine .digits ?_ hsome hascii hrange
    split
    · rename_i hplus
      exact .inr hplus
    · exact .inl rfl
  · rintro ⟨hspelled, hsome, hascii, hrange⟩
    rcases hspelled with h | h
    · rw [h]
      split
      · exact absurd (hascii '+' List.mem_cons_self) (by decide)
      · exact ⟨⟨hsome, hascii, rfl⟩, hrange⟩
    · rw [h]
      exact ⟨⟨hsome, hascii, rfl⟩, hrange⟩

theorem IsPortText.unique {raw : String} {m n : Nat} (hm : IsPortText raw m)
    (hn : IsPortText raw n) : m = n :=
  Option.some.inj ((port?_eq_some_iff.2 hm).symm.trans (port?_eq_some_iff.2 hn))

/-- A number that is small enough may have any number of zeros in front, behind a sign or without one. -/
theorem isPortText_decimalPadded (width : Nat) {n : Nat} (h : n ≤ 65535) :
    IsPortText (String.ofList (Text.decimalPadded width n)) n ∧
      IsPortText (String.ofList ('+' :: Text.decimalPadded width n)) n := by
  obtain ⟨hsome, hascii, hvalue⟩ :=
    Text.ofDecimal?_eq_some_iff.1 (Text.ofDecimal?_decimalPadded width n)
  generalize Text.decimalPadded width n = digits at *
  obtain rfl := hvalue
  exact ⟨.digits (.inl String.toList_ofList) hsome hascii h,
    .digits (.inr String.toList_ofList) hsome hascii h⟩

/-! ## Fields and variables -/

/-- The fields of the settings. -/
inductive Field where
  | serverAddress
  | namespace_
  | serviceAccount
  | builderImage
  | buildkitImage
  | cleanupMonitorImage
  | buildkitCacheClaim
  | buildkitConfigMap
  | databaseHost
  | databasePort
  | databaseUser
  | databasePassword
  | databaseName
  deriving DecidableEq, Repr

namespace Field

/-- The variable that a field is read from. -/
def variableName : Field → String
  | .serverAddress => "SERVER_ADDR"
  | .namespace_ => "KUBE_NAMESPACE"
  | .serviceAccount => "KUBE_SERVICE_ACCOUNT"
  | .builderImage => "BUILDER_IMAGE"
  | .buildkitImage => "BUILDKIT_IMAGE"
  | .cleanupMonitorImage => "CLEANUP_MONITOR_IMAGE"
  | .buildkitCacheClaim => "BUILDKIT_CACHE_PVC"
  | .buildkitConfigMap => "BUILDKIT_CONFIG_MAP"
  | .databaseHost => "POSTGRES_HOST"
  | .databasePort => "POSTGRES_PORT"
  | .databaseUser => "POSTGRES_USER"
  | .databasePassword => "POSTGRES_PASSWORD"
  | .databaseName => "POSTGRES_DB"

/-- What settings have in a field: a number for the port, a text for every other field. -/
def value (settings : Settings) : Field → String ⊕ Nat
  | .serverAddress => .inl settings.serverAddress
  | .namespace_ => .inl settings.namespace_
  | .serviceAccount => .inl settings.serviceAccount
  | .builderImage => .inl settings.build.builderImage
  | .buildkitImage => .inl settings.build.buildkitImage
  | .cleanupMonitorImage => .inl settings.build.cleanupMonitorImage
  | .buildkitCacheClaim => .inl settings.build.buildkitCacheClaim
  | .buildkitConfigMap => .inl settings.build.buildkitConfigMap
  | .databaseHost => .inl settings.database.host
  | .databasePort => .inr settings.database.port
  | .databaseUser => .inl settings.database.user
  | .databasePassword => .inl settings.database.password
  | .databaseName => .inl settings.database.database

/-- No two fields are read from one variable. -/
theorem variableName_injective : Function.Injective variableName := by
  intro a b h
  revert h
  cases a <;> cases b <;> decide

end Field

/-- Settings are their fields. -/
theorem eq_of_value_eq {a b : Settings} (h : ∀ field : Field, field.value a = field.value b) :
    a = b := by
  obtain ⟨address, ns, account, build, database⟩ := a
  obtain ⟨address', ns', account', build', database'⟩ := b
  have hbuild : build = build' := by
    cases build
    cases build'
    simp only [BuildSettings.mk.injEq]
    exact ⟨Sum.inl.inj (h .builderImage), Sum.inl.inj (h .buildkitImage),
      Sum.inl.inj (h .cleanupMonitorImage), Sum.inl.inj (h .buildkitCacheClaim),
      Sum.inl.inj (h .buildkitConfigMap)⟩
  have hdatabase : database = database' := by
    cases database
    cases database'
    simp only [DatabaseSettings.mk.injEq]
    exact ⟨Sum.inl.inj (h .databaseHost), Sum.inr.inj (h .databasePort),
      Sum.inl.inj (h .databaseUser), Sum.inl.inj (h .databasePassword),
      Sum.inl.inj (h .databaseName)⟩
  simp only [Settings.mk.injEq]
  exact ⟨Sum.inl.inj (h .serverAddress), Sum.inl.inj (h .namespace_),
    Sum.inl.inj (h .serviceAccount), hbuild, hdatabase⟩

/-- What variables give for a field: its default where its variable is not set, else what the variable
says, the port as a number and every other field as it stands. -/
inductive Gives (lookup : String → Option String) (field : Field) : String ⊕ Nat → Prop
  | default (unset : lookup field.variableName = none) : Gives lookup field (field.value {})
  | text {raw : String} (no_port : field ≠ .databasePort)
      (set_to : lookup field.variableName = some raw) : Gives lookup field (.inl raw)
  | port {raw : String} {n : Nat} (is_port : field = .databasePort)
      (set_to : lookup field.variableName = some raw) (reads : IsPortText raw n) :
      Gives lookup field (.inr n)

variable {lookup : String → Option String}

theorem Gives.unique {field : Field} {v v' : String ⊕ Nat} (h : Gives lookup field v)
    (h' : Gives lookup field v') : v = v' := by
  cases h with
  | default hunset =>
    cases h' with
    | default => rfl
    | text _ hset => cases hunset.symm.trans hset
    | port _ hset _ => cases hunset.symm.trans hset
  | text hport hset =>
    cases h' with
    | default hunset => cases hunset.symm.trans hset
    | text _ hset' => rw [Option.some.inj (hset.symm.trans hset')]
    | port hport' _ _ => exact absurd hport' hport
  | port hport hset hreads =>
    cases h' with
    | default hunset => cases hunset.symm.trans hset
    | text hport' _ => exact absurd hport hport'
    | port _ hset' hreads' =>
      obtain rfl := Option.some.inj (hset.symm.trans hset')
      rw [hreads.unique hreads']

/-- What a field is given depends on its own variable only. -/
theorem Gives.of_eq {lookup' : String → Option String} {field : Field} {v : String ⊕ Nat}
    (h : Gives lookup field v)
    (hsame : lookup' field.variableName = lookup field.variableName) : Gives lookup' field v := by
  cases h with
  | default hunset => exact .default (hsame.trans hunset)
  | text hport hset => exact .text hport (hsame.trans hset)
  | port hport hset hreads => exact .port hport (hsame.trans hset) hreads

/-! ## Loading -/

theorem gives_getD {field : Field} (hport : field ≠ .databasePort) {default : String}
    (hdefault : field.value {} = .inl default) :
    Gives lookup field (.inl ((lookup field.variableName).getD default)) := by
  cases hset : lookup field.variableName with
  | none => exact hdefault ▸ .default hset
  | some raw => exact .text hport hset

/-- Every field but the port is put in from its own variable and its own default. -/
theorem gives_assembled (port : Nat) {field : Field} (hport : field ≠ .databasePort) :
    Gives lookup field (field.value (assembled lookup port)) := by
  cases field with
  | databasePort => exact absurd rfl hport
  | _ => exact gives_getD hport rfl

theorem databasePort_eq_ok_iff {n : Nat} :
    databasePort lookup = .ok n ↔ Gives lookup .databasePort (.inr n) := by
  unfold databasePort
  constructor
  · intro h
    split at h
    · rename_i hunset
      cases h
      exact .default hunset
    · rename_i raw hset
      split at h
      · rename_i hport
        cases h
        exact .port rfl hset (port?_eq_some_iff.1 hport)
      · cases h
  · intro h
    cases h with
    | default hunset =>
      have hunset : lookup "POSTGRES_PORT" = none := hunset
      rw [hunset]
    | port _ hset hreads =>
      have hset : lookup "POSTGRES_PORT" = some _ := hset
      rw [hset]
      dsimp only
      rw [port?_eq_some_iff.2 hreads]

/-- The variable of the port is not set, or its text is a port number. -/
def PortReads (lookup : String → Option String) : Prop :=
  ∀ raw, lookup "POSTGRES_PORT" = some raw → ∃ n, IsPortText raw n

theorem databasePort_cases (lookup : String → Option String) :
    (PortReads lookup ∧ ∃ n, databasePort lookup = .ok n) ∨
      ∃ raw, lookup "POSTGRES_PORT" = some raw ∧ (∀ n, ¬ IsPortText raw n) ∧
        databasePort lookup = .error (.badPort raw) := by
  unfold databasePort PortReads
  cases hset : lookup "POSTGRES_PORT" with
  | none => exact .inl ⟨fun raw h => (nomatch h), _, rfl⟩
  | some raw =>
    dsimp only
    cases hport : port? raw with
    | none =>
      refine .inr ⟨raw, rfl, fun n hn => ?_, rfl⟩
      cases hport.symm.trans (port?_eq_some_iff.2 hn)
    | some n =>
      refine .inl ⟨fun raw' h => ?_, n, rfl⟩
      obtain rfl := Option.some.inj h
      exact ⟨n, port?_eq_some_iff.1 hport⟩

/-- The namespace is empty only where its variable says so. -/
theorem namespace_assembled_eq_empty_iff (port : Nat) :
    (assembled lookup port).namespace_ = "" ↔ lookup "KUBE_NAMESPACE" = some "" := by
  show (lookup "KUBE_NAMESPACE").getD "unbind-system" = "" ↔ _
  cases lookup "KUBE_NAMESPACE" with
  | none => exact iff_of_false (by decide) nofun
  | some raw => rw [Option.getD_some, Option.some.injEq]

theorem load_of_databasePort {port : Nat} (h : databasePort lookup = .ok port) :
    load lookup =
      if lookup "KUBE_NAMESPACE" = some "" then
        .error ⟨.config, "KUBE_NAMESPACE must not be empty"⟩
      else .ok (assembled lookup port) := by
  unfold load ofVariables
  rw [h]
  dsimp only
  by_cases hempty : lookup "KUBE_NAMESPACE" = some ""
  · rw [if_pos hempty, if_pos ((namespace_assembled_eq_empty_iff port).2 hempty)]
    rfl
  · rw [if_neg hempty, if_neg (mt (namespace_assembled_eq_empty_iff port).1 hempty)]
    rfl

theorem load_of_badPort {raw : String} (h : databasePort lookup = .error (.badPort raw)) :
    load lookup =
      .error ⟨.config, "POSTGRES_PORT must be a port number, got '" ++ raw ++ "'"⟩ := by
  unfold load ofVariables
  rw [h]
  rfl

/-- **Settings are loaded when variables give all of their fields** and do not set the namespace to
nothing. -/
theorem load_eq_ok_iff {settings : Settings} :
    load lookup = .ok settings ↔
      lookup "KUBE_NAMESPACE" ≠ some "" ∧ ∀ field : Field, Gives lookup field (field.value settings) := by
  constructor
  · intro h
    rcases databasePort_cases lookup with ⟨-, port, hport⟩ | ⟨raw, -, -, hport⟩
    · rw [load_of_databasePort hport] at h
      split at h
      · cases h
      · rename_i hsome
        cases h
        refine ⟨hsome, fun field => ?_⟩
        by_cases his : field = .databasePort
        · rw [his]
          exact databasePort_eq_ok_iff.1 hport
        · exact gives_assembled port his
    · rw [load_of_badPort hport] at h
      cases h
  · rintro ⟨hsome, hgives⟩
    have hport := databasePort_eq_ok_iff.2 (hgives .databasePort)
    have hsame : assembled lookup settings.database.port = settings := by
      refine eq_of_value_eq fun field => ?_
      by_cases his : field = .databasePort
      · rw [his]
        rfl
      · exact (gives_assembled _ his).unique (hgives field)
    rw [load_of_databasePort hport, if_neg hsome, hsame]

/-! ## Refusals -/

/-- Why settings are refused, and what is said then: a bad port goes before an empty namespace. -/
inductive Refused (lookup : String → Option String) : Failure → Prop
  | badPort {raw : String} (set_to : lookup "POSTGRES_PORT" = some raw)
      (unread : ∀ n, ¬ IsPortText raw n) :
      Refused lookup ⟨.config, "POSTGRES_PORT must be a port number, got '" ++ raw ++ "'"⟩
  | emptyNamespace (port_reads : PortReads lookup) (empty : lookup "KUBE_NAMESPACE" = some "") :
      Refused lookup ⟨.config, "KUBE_NAMESPACE must not be empty"⟩

theorem load_eq_error_iff {e : Failure} : load lookup = .error e ↔ Refused lookup e := by
  rcases databasePort_cases lookup with ⟨hreads, port, hport⟩ | ⟨raw, hset, hunread, hport⟩
  · rw [load_of_databasePort hport]
    constructor
    · intro h
      split at h
      · rename_i hempty
        cases h
        exact .emptyNamespace hreads hempty
      · cases h
    · intro h
      cases h with
      | badPort hset hunread =>
        obtain ⟨n, hn⟩ := hreads _ hset
        exact absurd hn (hunread n)
      | emptyNamespace _ hempty => rw [if_pos hempty]
  · rw [load_of_badPort hport]
    constructor
    · intro h
      cases h
      exact .badPort hset hunread
    · intro h
      cases h with
      | badPort hset' _ => rw [Option.some.inj (hset.symm.trans hset')]
      | emptyNamespace hreads _ =>
        obtain ⟨n, hn⟩ := hreads raw hset
        exact absurd hn (hunread n)

theorem exists_load_iff :
    (∃ settings, load lookup = .ok settings) ↔
      PortReads lookup ∧ lookup "KUBE_NAMESPACE" ≠ some "" := by
  constructor
  · rintro ⟨settings, h⟩
    refine ⟨?_, (load_eq_ok_iff.1 h).1⟩
    rcases databasePort_cases lookup with ⟨hreads, -⟩ | ⟨raw, hset, hunread, -⟩
    · exact hreads
    · cases h.symm.trans (load_eq_error_iff.2 (.badPort hset hunread))
  · rintro ⟨hreads, hsome⟩
    cases h : load lookup with
    | ok settings => exact ⟨settings, rfl⟩
    | error e =>
      cases load_eq_error_iff.1 h with
      | badPort hset hunread =>
        obtain ⟨n, hn⟩ := hreads _ hset
        exact absurd hn (hunread n)
      | emptyNamespace _ hempty => exact absurd hempty hsome

/-- **Settings are loaded exactly when the port reads and the namespace is not empty; a bad port is
reported first. Every field then holds what its own variable says, as it stands, or its default.** So
one variable changes one field at most, and zeros in front of the port change nothing. -/
theorem load_reads_fields (lookup : String → Option String) :
    ((∃ settings, load lookup = .ok settings) ↔
      PortReads lookup ∧ lookup "KUBE_NAMESPACE" ≠ some "") ∧
    (∀ settings, load lookup = .ok settings ↔ lookup "KUBE_NAMESPACE" ≠ some "" ∧
      ∀ field : Field, Gives lookup field (field.value settings)) ∧
    (∀ e, load lookup = .error e ↔ Refused lookup e) ∧
    (∀ (key : String) (lookup' : String → Option String),
      (∀ name, name ≠ key → lookup' name = lookup name) → ∀ settings settings',
        load lookup = .ok settings → load lookup' = .ok settings' →
          ∀ field : Field, field.value settings' ≠ field.value settings →
            field.variableName = key) ∧
    Function.Injective Field.variableName ∧
    ∀ width n, n ≤ 65535 → IsPortText (String.ofList (Text.decimalPadded width n)) n ∧
      IsPortText (String.ofList ('+' :: Text.decimalPadded width n)) n := by
  refine ⟨exists_load_iff, fun settings => load_eq_ok_iff, fun e => load_eq_error_iff, ?_,
    Field.variableName_injective, fun width n h => isPortText_decimalPadded width h⟩
  intro key lookup' hsame settings settings' hload hload' field hchanged
  by_contra hkey
  have hgives := ((load_eq_ok_iff.1 hload).2 field).of_eq (hsame _ hkey)
  exact hchanged (((load_eq_ok_iff.1 hload').2 field).unique hgives)

/-- The largest port, written with a sign and many zeros, and a password that is set besides. -/
theorem load_reads_fields_paddedPort :
    let port := "+0000000000000000000000000000000000000065535"
    let lookup := fun name => if name = "POSTGRES_PORT" then some port else none
    let lookup' := fun name => if name = "POSTGRES_PASSWORD" then some "hunter2" else lookup name
    let settings : Settings := { database := { port := 65535 } }
    let settings' : Settings := { database := { port := 65535, password := "hunter2" } }
    load lookup = .ok settings ∧ load lookup' = .ok settings' ∧
      (∀ name, name ≠ "POSTGRES_PASSWORD" → lookup' name = lookup name) ∧
      ∀ field : Field, field.value settings' ≠ field.value settings →
        field.variableName = "POSTGRES_PASSWORD" := by
  intro port lookup lookup' settings settings'
  have hload : load lookup = .ok settings := by decide +kernel
  have hload' : load lookup' = .ok settings' := by decide +kernel
  have hsame : ∀ name, name ≠ "POSTGRES_PASSWORD" → lookup' name = lookup name :=
    fun name hname => if_neg hname
  exact ⟨hload, hload', hsame,
    (load_reads_fields lookup).2.2.2.1 _ lookup' hsame settings settings' hload hload'⟩

end BuildYard.Settings
