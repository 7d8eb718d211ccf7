import AgentBash.Json.StringMap
import AgentBash.Retention.Evidence

/-!
# The pinned environment of a delivery helper

`delivery.rs` captures the environment once, keeps it in a private file under a digest and loads it
for every later helper. Names that belong to one registration only are left out of a capture; a
capability among them is refused in what is loaded, too.
-/

namespace AgentBash

set_option autoImplicit false

open Durable

namespace HelperEnvironment

def schemaVersion : Nat := 5

/-- Handles of this version carry their environment in the provenance. -/
def legacyInlineSchemaVersion : Nat := 4

def completionRegistrationAuthorityEnv : String := "OULIPOLY_COMPLETION_REGISTRATION_AUTHORITY"

def ownerSessionIdEnv : String := "AGENT_BASH_OWNER_SESSION_ID"

def ownerInvocationUuidEnv : String := "AGENT_BASH_OWNER_INVOCATION_UUID"

def ownerWorkIdEnv : String := "AGENT_BASH_OWNER_WORK_ID_V1"

def deliveryHelperEnvAllowlistEnv : String := "AGENT_BASH_DELIVERY_HELPER_ENV_ALLOWLIST"

section Names

/-- What is wrong with an environment, by what the message names. -/
inductive Fault
  | nameNotUtf8 (name : Bytes)
  | nameInvalid (name : String)
  | nameReserved (name : String)
  | valueNotUtf8 (name : String)
  | valueContainsNul (name : String)
  | persistFailed (error : IoError)
  | escapedPrivateStorage
  | digestMissing
  | unavailable (error : IoError)
  | digestChanged
  | malformed
  deriving DecidableEq, Repr

/-- The code that the fault is reported under. -/
def Fault.code : Fault → String
  | .nameNotUtf8 _ | .nameInvalid _ | .nameReserved _ | .valueNotUtf8 _ | .valueContainsNul _
  | .digestMissing => "delivery_helper_provenance_invalid"
  | .persistFailed _ | .unavailable _ => "delivery_helper_unavailable"
  | .escapedPrivateStorage | .digestChanged | .malformed => "delivery_helper_changed"

def nameIsTransient (name : String) : Bool :=
  [completionRegistrationAuthorityEnv, ownerSessionIdEnv, ownerInvocationUuidEnv, ownerWorkIdEnv,
    deliveryHelperEnvAllowlistEnv].contains name

/-- Owner markers are not reserved: older handles have them in what they stored. -/
def nameIsReserved (name : String) : Bool :=
  [completionRegistrationAuthorityEnv, ownerWorkIdEnv, deliveryHelperEnvAllowlistEnv].contains name

def validateName (name : String) : Except Fault Unit :=
  if name.isEmpty || (utf8 name).any fun byte => byte == 0 || byte == 61 then
    .error (.nameInvalid name)
  else if nameIsReserved name then .error (.nameReserved name)
  else .ok ()

/-- The entries are checked in the order of their names. -/
def validateEntries : List (String × String) → Except Fault Unit
  | [] => .ok ()
  | (name, value) :: rest => do
      validateName name
      if (utf8 value).contains 0 then .error (.valueContainsNul name) else validateEntries rest

def validate (environment : StringMap) : Except Fault Unit := validateEntries environment.entries

end Names

section Collecting

/-- The loop of a capture. -/
def collectInto (environment : StringMap) : List (Bytes × Bytes) → Except Fault StringMap
  | [] => .ok environment
  | (nameBytes, valueBytes) :: rest =>
      match readUtf8 nameBytes with
      | none => .error (.nameNotUtf8 nameBytes)
      | some name =>
          if nameIsTransient name then collectInto environment rest
          else do
            validateName name
            match readUtf8 valueBytes with
            | none => .error (.valueNotUtf8 name)
            | some value => collectInto (environment.insert name value) rest

def collect (entries : List (Bytes × Bytes)) : Except Fault StringMap := do
  let environment ← collectInto .empty entries
  validate environment
  .ok environment

end Collecting

section Storing

variable [Codec]

/-- `DeliveryHelperProvenance`, as far as an environment depends on it. -/
structure Provenance where
  schema : Nat := schemaVersion
  environment : StringMap := .empty
  environmentSha256 : Option String := none

structure Persisted where
  bytes : Bytes
  sha256 : String

/-- The private file is replaced, or nothing is registered. -/
def persist (environment : StringMap) (written : Except IoError Unit) : Except Fault Persisted :=
  let bytes := Codec.encode environment.object
  match written with
  | .error error => .error (.persistFailed error)
  | .ok () => .ok ⟨bytes, Codec.sha256 bytes⟩

/-- What is registered beside a private file. -/
def Persisted.provenance (persisted : Persisted) : Provenance where
  environmentSha256 := some persisted.sha256

def load (provenance : Provenance) (stored : Except IoError Bytes) : Except Fault StringMap :=
  if provenance.schema = legacyInlineSchemaVersion then do
    validate provenance.environment
    .ok provenance.environment
  else if !provenance.environment.isEmpty then .error .escapedPrivateStorage
  else
    match provenance.environmentSha256 with
    | none => .error .digestMissing
    | some expected =>
        match stored with
        | .error error => .error (.unavailable error)
        | .ok bytes =>
            if Codec.sha256 bytes ≠ expected then .error .digestChanged
            else
              match (Codec.parse bytes).bind StringMap.ofValue with
              | none => .error .malformed
              | some environment => do
                  validate environment
                  .ok environment

end Storing

section Validity

variable {environment : StringMap} {name value : String}

/-- A name that a loaded environment may have. -/
structure ValidName (name : String) : Prop where
  named : name ≠ ""
  plain : ∀ byte ∈ utf8 name, byte ≠ 0 ∧ byte ≠ 61
  unreserved : nameIsReserved name = false

def Valid (environment : StringMap) : Prop :=
  ∀ name value, environment.get? name = some value → ValidName name ∧ 0 ∉ utf8 value

theorem validateName_iff : validateName name = .ok () ↔ ValidName name := by
  unfold validateName
  constructor
  · intro valid
    split at valid
    · cases valid
    · next shape =>
      split at valid
      · cases valid
      · next unreserved =>
        simp only [Bool.or_eq_true, not_or, Bool.not_eq_true, String.isEmpty_eq_false_iff] at shape
        refine ⟨shape.1, fun byte inside => ?_, by simpa using unreserved⟩
        have plain := List.any_eq_false.mp shape.2 byte inside
        simpa using plain
  · rintro ⟨named, plain, unreserved⟩
    have shape : (name.isEmpty || (utf8 name).any fun byte => byte == 0 || byte == 61) = false := by
      rw [Bool.or_eq_false_iff]
      refine ⟨String.isEmpty_eq_false_iff.mpr named, List.any_eq_false.mpr fun byte inside => ?_⟩
      simpa using plain byte inside
    rw [shape, unreserved]
    rfl

theorem validateEntries_iff {entries : List (String × String)} : validateEntries entries = .ok () ↔
    ∀ name value, (name, value) ∈ entries → ValidName name ∧ 0 ∉ utf8 value := by
  induction entries with
  | nil => exact ⟨fun _ => nofun, fun _ => rfl⟩
  | cons first rest ih =>
      obtain ⟨first, text⟩ := first
      rw [validateEntries]
      constructor
      · intro valid
        obtain ⟨_, valid_name, valid⟩ := ok_of_bind valid
        split at valid
        · cases valid
        · next plain =>
          intro name value inside
          rcases List.mem_cons.mp inside with same | later
          · obtain ⟨rfl, rfl⟩ := Prod.mk.inj same
            exact ⟨validateName_iff.mp valid_name, by simpa using plain⟩
          · exact ih.mp valid name value later
      · intro valid
        obtain ⟨valid_name, plain⟩ := valid first text List.mem_cons_self
        have rest_valid := ih.mpr fun name value inside =>
          valid name value (List.mem_cons_of_mem _ inside)
        have without : (utf8 text).contains 0 = false := by simpa using plain
        rw [validateName_iff.mpr valid_name, without]
        exact rest_valid

theorem validate_iff : validate environment = .ok () ↔ Valid environment := by
  rw [validate, validateEntries_iff]
  simp only [StringMap.mem_entries]
  exact Iff.rfl

theorem valid_empty : Valid .empty := fun _ _ present => nomatch present

theorem Valid.insert {text : String} (valid : Valid environment) (named : ValidName name)
    (plain : 0 ∉ utf8 text) : Valid (environment.insert name text) := by
  intro other value present
  rw [StringMap.get?_insert] at present
  split at present
  · next same => exact same ▸ Option.some.inj present ▸ ⟨named, plain⟩
  · exact valid other value present

end Validity

section Collected

variable {environment final : StringMap} {entries : List (Bytes × Bytes)} {name : String}

/-- The last value of a name among the entries; a transient name has none. -/
def lastValue : List (Bytes × Bytes) → String → Option String
  | [], _ => none
  | (nameBytes, valueBytes) :: rest, name =>
      (lastValue rest name).or
        (if nameBytes = utf8 name ∧ nameIsTransient name = false then readUtf8 valueBytes else none)

theorem collectInto_get? (collected : collectInto environment entries = .ok final) :
    final.get? name = (lastValue entries name).or (environment.get? name) := by
  induction entries generalizing environment with
  | nil =>
      rw [← Except.ok.inj collected]
      rfl
  | cons first rest ih =>
      obtain ⟨nameBytes, valueBytes⟩ := first
      rw [collectInto] at collected
      split at collected
      · cases collected
      · next found is_name =>
        have spelled : nameBytes = utf8 found := (readUtf8_eq_some.mp is_name).symm
        split at collected
        · next transient =>
          -- a transient name adds nothing, under its own name or another
          have nothing : ¬ (nameBytes = utf8 name ∧ nameIsTransient name = false) := by
            rintro ⟨same, kept⟩
            have reads := readUtf8_eq_some.mpr same.symm
            rw [is_name] at reads
            rw [Option.some.inj reads, kept] at transient
            cases transient
          rw [lastValue, if_neg nothing, Option.or_none]
          exact ih collected
        · next kept =>
          obtain ⟨_, _, rest_collected⟩ := ok_of_bind collected
          split at rest_collected
          · cases rest_collected
          · next value is_value =>
            rw [ih rest_collected, StringMap.get?_insert, lastValue, Option.or_assoc]
            congr 1
            by_cases same : found = name
            · subst same
              rw [if_pos rfl, if_pos ⟨spelled, by simpa using kept⟩, is_value]
              rfl
            · have differs : ¬ (nameBytes = utf8 name ∧ nameIsTransient name = false) := by
                rintro ⟨spelled_other, _⟩
                have reads := readUtf8_eq_some.mpr spelled_other.symm
                rw [is_name] at reads
                exact same (Option.some.inj reads)
              rw [if_neg same, if_neg differs, Option.none_or]

theorem lastValue_transient (transient : nameIsTransient name = true) :
    lastValue entries name = none := by
  induction entries with
  | nil => rfl
  | cons first rest ih =>
      rw [lastValue, ih, transient]
      simp

theorem collect_ok (collected : collect entries = .ok environment) :
    (∀ name, environment.get? name = lastValue entries name) ∧ Valid environment := by
  obtain ⟨found, into, rest⟩ := ok_of_bind collected
  obtain ⟨_, valid, rest⟩ := ok_of_bind rest
  obtain rfl := Except.ok.inj rest
  refine ⟨fun name => ?_, validate_iff.mp valid⟩
  rw [collectInto_get? into, StringMap.get?_empty, Option.or_none]

end Collected

section Loaded

variable [Codec] {provenance : Provenance} {stored : Except IoError Bytes}
  {environment : StringMap} {bytes : Bytes}

/-- The reader gives back every map of strings that the writer wrote. -/
def ReadsStringMaps : Prop :=
  ∀ map : StringMap, Codec.parse (Codec.encode map.object) = some map.object

/-- No other bytes have the digest of these. -/
def NoCollision (bytes other : Bytes) : Prop :=
  Codec.sha256 other = Codec.sha256 bytes → other = bytes

theorem load_legacy_iff (legacy : provenance.schema = legacyInlineSchemaVersion) :
    load provenance stored = .ok environment ↔
      environment = provenance.environment ∧ Valid provenance.environment := by
  unfold load
  rw [if_pos legacy]
  constructor
  · intro loaded
    obtain ⟨_, valid, rest⟩ := ok_of_bind loaded
    exact ⟨(Except.ok.inj rest).symm, validate_iff.mp valid⟩
  · rintro ⟨rfl, valid⟩
    rw [validate_iff.mpr valid]
    rfl

/-- What a load out of the private file has checked. -/
structure Loaded (provenance : Provenance) (bytes : Bytes) (environment : StringMap) : Prop where
  inline : provenance.environment = .empty
  digest : provenance.environmentSha256 = some (Codec.sha256 bytes)
  parses : Codec.parse bytes = some environment.object
  valid : Valid environment

theorem load_iff (current : provenance.schema ≠ legacyInlineSchemaVersion) :
    load provenance stored = .ok environment ↔
      ∃ bytes, stored = .ok bytes ∧ Loaded provenance bytes environment := by
  unfold load
  rw [if_neg current]
  constructor
  · intro loaded
    split at loaded
    · cases loaded
    · next nothing =>
      split at loaded
      · cases loaded
      · next expected recorded =>
        split at loaded
        · cases loaded
        · next bytes =>
          split at loaded
          · cases loaded
          · next same =>
            split at loaded
            · cases loaded
            · next found reads =>
              obtain ⟨_, valid, rest⟩ := ok_of_bind loaded
              obtain rfl := Except.ok.inj rest
              obtain ⟨object, parses, is_map⟩ := Option.bind_eq_some_iff.mp reads
              rw [StringMap.object_of_ofValue is_map] at parses
              exact ⟨bytes, rfl, StringMap.eq_empty_of_isEmpty (by simpa using nothing),
                recorded.trans (congrArg some (not_not.mp same).symm), parses,
                validate_iff.mp valid⟩
  · rintro ⟨bytes, rfl, inline, digest, parses, valid⟩
    rw [inline, digest]
    simp only [StringMap.isEmpty, StringMap.empty, beq_self_eq_true, Bool.not_true,
      Bool.false_eq_true, if_false, ne_eq, not_true_eq_false, parses, Option.bind_some,
      StringMap.ofValue_object, validate_iff.mpr valid, bind, Except.bind]

theorem load_persisted (codec : ReadsStringMaps) {persisted : Persisted}
    {written : Except IoError Unit} (valid : Valid environment)
    (persists : persist environment written = .ok persisted) :
    load persisted.provenance (.ok persisted.bytes) = .ok environment := by
  unfold persist at persists
  split at persists
  · cases persists
  · obtain rfl := Except.ok.inj persists
    have current : schemaVersion ≠ legacyInlineSchemaVersion := by decide
    exact (load_iff current).mpr ⟨_, rfl, rfl, rfl, codec environment, valid⟩

theorem load_changed {index : Nat} {byte : UInt8}
    (current : provenance.schema ≠ legacyInlineSchemaVersion)
    (loads : load provenance (.ok bytes) = .ok environment)
    (apart : NoCollision bytes (bytes.set index byte)) (changed : bytes.set index byte ≠ bytes) :
    load provenance (.ok (bytes.set index byte)) = .error .digestChanged := by
  obtain ⟨found, same, loaded⟩ := (load_iff current).mp loads
  obtain rfl := Except.ok.inj same
  have differs : Codec.sha256 (bytes.set index byte) ≠ Codec.sha256 bytes := fun collides =>
    changed (apart collides)
  unfold load
  rw [if_neg current, loaded.inline, loaded.digest]
  simp only [StringMap.isEmpty, StringMap.empty, beq_self_eq_true, Bool.not_true,
    Bool.false_eq_true, if_false, ne_eq, differs, not_false_eq_true, if_true]

/-- A capture that succeeds holds the last value of every name that is not transient, loads again as
it was persisted, and names no capability. Out of a private file only the bytes with the recorded
digest are loaded, with nothing inline and every entry valid, so that no single byte of it may
change. A handle of the legacy version loads what its provenance carries, once that is valid. -/
theorem helper_environment_round_trip (codec : ReadsStringMaps) :
    (∀ entries environment, collect entries = .ok environment →
      (∀ name, environment.get? name = lastValue entries name) ∧
      (∀ name ∈ [completionRegistrationAuthorityEnv, ownerSessionIdEnv, ownerInvocationUuidEnv,
        ownerWorkIdEnv], environment.get? name = none) ∧
      ∀ written persisted, persist environment written = .ok persisted →
        load persisted.provenance (.ok persisted.bytes) = .ok environment) ∧
    (∀ provenance stored environment, provenance.schema ≠ legacyInlineSchemaVersion →
      load provenance stored = .ok environment →
        ∃ bytes, stored = .ok bytes ∧ Loaded provenance bytes environment) ∧
    (∀ provenance stored environment, provenance.schema = legacyInlineSchemaVersion →
      (load provenance stored = .ok environment ↔
        environment = provenance.environment ∧ Valid provenance.environment)) ∧
    ∀ provenance bytes environment index byte, provenance.schema ≠ legacyInlineSchemaVersion →
      load provenance (.ok bytes) = .ok environment → NoCollision bytes (bytes.set index byte) →
      bytes.set index byte ≠ bytes →
        load provenance (.ok (bytes.set index byte)) = .error .digestChanged := by
  refine ⟨fun entries environment collected => ?_,
    fun provenance stored environment current => (load_iff current).mp,
    fun provenance stored environment legacy => load_legacy_iff legacy,
    fun provenance bytes environment index byte current loads apart changed =>
      load_changed current loads apart changed⟩
  obtain ⟨lasts, valid⟩ := collect_ok collected
  refine ⟨lasts, fun name inside => ?_, fun written persisted persists =>
    load_persisted codec valid persists⟩
  have transient : nameIsTransient name = true := by
    simp only [List.mem_cons, List.not_mem_nil, or_false] at inside
    rcases inside with rfl | rfl | rfl | rfl <;> decide
  rw [lasts, lastValue_transient transient]

end Loaded

section Samples

/-- What `sha256sum` prints for the environment below, as it is stored. -/
def sampleDigest : String := "ac33ef83f8677dad8eabce1193d7a6e7b0a8aa8aeea8504bf913d23930ba9833"

@[reducible] def sampleCodec : Codec := flatCodec fun _ => sampleDigest

def sampleEntries : List (Bytes × Bytes) :=
  [(utf8 "PATH", utf8 "/bin"), (utf8 ownerSessionIdEnv, utf8 "session"),
    (utf8 "PATH", utf8 "/usr/bin")]

def samplePath : StringMap := (StringMap.empty.insert "PATH" "/bin").insert "PATH" "/usr/bin"

theorem validName_path : ValidName "PATH" where
  named := by decide
  plain := by
    rw [utf8_eq]
    decide +kernel
  unreserved := by decide

theorem collect_sample : collect sampleEntries = .ok samplePath := by
  have path : readUtf8 (utf8 "PATH") = some "PATH" := readUtf8_eq_some.mpr rfl
  have marker : readUtf8 (utf8 ownerSessionIdEnv) = some ownerSessionIdEnv :=
    readUtf8_eq_some.mpr rfl
  have first : readUtf8 (utf8 "/bin") = some "/bin" := readUtf8_eq_some.mpr rfl
  have last : readUtf8 (utf8 "/usr/bin") = some "/usr/bin" := readUtf8_eq_some.mpr rfl
  have kept : nameIsTransient "PATH" = false := by decide
  have transient : nameIsTransient ownerSessionIdEnv = true := by decide
  have into : collectInto .empty sampleEntries = .ok samplePath := by
    simp only [sampleEntries, collectInto, path, marker, first, last, kept, transient,
      validateName_iff.mpr validName_path, bind, Except.bind, if_true, Bool.false_eq_true, if_false]
    rfl
  have valid : Valid samplePath :=
    (valid_empty.insert validName_path (by rw [utf8_eq]; decide +kernel)).insert validName_path
      (by rw [utf8_eq]; decide +kernel)
  unfold collect
  simp only [into, validate_iff.mpr valid, bind, Except.bind]

theorem helper_environment_round_trip_sample : ∃ environment persisted,
    collect sampleEntries = .ok environment ∧ environment.get? "PATH" = some "/usr/bin" ∧
      environment.get? ownerSessionIdEnv = none ∧
      @persist sampleCodec environment (.ok ()) = .ok persisted ∧
      @load sampleCodec persisted.provenance (.ok persisted.bytes) = .ok environment := by
  have reads : @ReadsStringMaps sampleCodec := fun map => parse_flatCodec map.record
  obtain ⟨_, never, round⟩ :=
    (@helper_environment_round_trip sampleCodec reads).1 sampleEntries samplePath collect_sample
  refine ⟨samplePath, _, collect_sample, by decide, never _ (by simp), rfl, ?_⟩
  exact round (.ok ()) _ rfl

/-- A handle of the legacy version, with its environment inline. -/
def legacyProvenance : Provenance where
  schema := legacyInlineSchemaVersion
  environment := StringMap.empty.insert "PATH" "/bin"

/-- An inlined environment is loaded where no private file can be read at all. -/
theorem legacy_environment_loads :
    @load sampleCodec legacyProvenance (.error .missing) = .ok legacyProvenance.environment ∧
      legacyProvenance.environment ≠ .empty ∧ legacyProvenance.environmentSha256 = none := by
  have valid : Valid legacyProvenance.environment :=
    valid_empty.insert validName_path (by rw [utf8_eq]; decide +kernel)
  refine ⟨(@load_legacy_iff sampleCodec _ _ _ rfl).mpr ⟨rfl, valid⟩, ?_, rfl⟩
  intro nothing
  have gone := congrArg (·.get? "PATH") nothing
  revert gone
  decide

end Samples

end HelperEnvironment

end AgentBash
