import AgentBash.Continuation.Acceptance
import AgentBash.Retention.Evidence

/-!
# Acceptance binds a source

Once a reply was accepted the local record of its source holds the fields of that reply, and every
later event keeps them: what differs is refused, what agrees writes the same record once more.
-/

namespace AgentBash

set_option autoImplicit false

open Durable

namespace Acceptance

section Checked

variable [Codec] {dir : StateDirectory} {registration reply : Value} {custody : Custody}

/-- What an acceptance receipt has to say of its source and of the files published there. -/
structure Checked (dir : StateDirectory) (reply : Value) : Prop where
  snapshot : ∃ bytes, (dir.entry SourceFile.snapshot).readBounded (16 * maxSource) = .ok bytes ∧
    reply.get "snapshot_sha256" = .string (Codec.sha256 bytes)
  outcome : ∃ bytes, (dir.entry SourceFile.outcome).readBounded maxSource = .ok bytes ∧
    reply.get "outcome_sha256" = .string (Codec.sha256 bytes)
  payload : ∃ digest, reply.get "payload_sha256" = .string digest
  byteLen : ∃ length : Nat, reply.get "payload_byte_len" = .number length ∧ length < 2 ^ 64

omit [Codec] in
theorem lt_of_asU64 {value : Value} {found : Nat} (present : value.asU64 = some found) :
    found < 2 ^ 64 := by
  rw [number_of_asU64 present, Value.asU64, Option.ite_none_right_eq_some] at present
  obtain ⟨⟨_, bound⟩, _⟩ := present
  exact_mod_cast bound

theorem checked_of_receipt (checks : checkReceipt dir reply = .ok ()) : Checked dir reply := by
  obtain ⟨⟨registration, identity⟩, _, rest⟩ := ok_of_bind checks
  obtain ⟨_, _, rest⟩ := ok_of_bind rest
  unfold exactReceipt at rest
  split at rest
  · obtain ⟨snapshot, snapshotRead, rest⟩ := ok_of_bind rest
    split at rest
    · next snapshotSame =>
      obtain ⟨outcome, outcomeRead, rest⟩ := ok_of_bind rest
      split at rest
      · next agreed =>
        obtain ⟨outcomeSame, named⟩ := agreed
        simp only [namesPayload, Bool.and_eq_true, Option.isSome_iff_exists] at named
        obtain ⟨⟨digest, length, is_length⟩, _⟩ := named
        obtain ⟨found, is_found, _⟩ := (Option.any_eq_true _ _).mp digest
        exact {
          snapshot := ⟨snapshot, snapshotRead, snapshotSame⟩
          outcome := ⟨outcome, outcomeRead, outcomeSame⟩
          payload := ⟨found, string_of_asStr is_found⟩
          byteLen := ⟨length, number_of_asU64 is_length, lt_of_asU64 is_length⟩ }
      · cases rest
    · cases rest
  · cases rest

theorem receipt_checked {identity : Value} {snapshot outcome : Bytes}
    (bound : binding dir = .ok (registration, identity)) (identical : exact identity reply = .ok ())
    (status : (reply.get "status").asStr = some "accepted")
    (snapshotRead : (dir.entry SourceFile.snapshot).readBounded (16 * maxSource) = .ok snapshot)
    (snapshotSame : reply.get "snapshot_sha256" = .string (Codec.sha256 snapshot))
    (outcomeRead : (dir.entry SourceFile.outcome).readBounded maxSource = .ok outcome)
    (outcomeSame : reply.get "outcome_sha256" = .string (Codec.sha256 outcome))
    (named : namesPayload registration reply = true) : checkReceipt dir reply = .ok () := by
  have receipt : exactReceipt dir registration reply = .ok () := by
    unfold exactReceipt
    rw [if_pos (.inl status)]
    simp only [bind, Except.bind, snapshotRead, if_pos snapshotSame, outcomeRead]
    exact if_pos ⟨outcomeSame, named⟩
  unfold checkReceipt
  simp only [bind, Except.bind, bound, identical, receipt]

end Checked

section Fields

variable {reply recorded result : Value} {keys : List String}

/-- A run of the loop gives the record with the reply's fields, where nothing else was held. -/
structure Recorded (reply recorded result : Value) (keys : List String) : Prop where
  record : result.Record
  agreed : ∀ key ∈ keys, ∀ prior, recorded.field? key = some prior → prior = reply.get key
  held : ∀ key ∈ keys, result.field? key = some (reply.get key)
  kept : ∀ key, key ∉ keys → result.field? key = recorded.field? key

theorem recorded_of_fields (record : recorded.Record)
    (scalars : ∀ key ∈ keys, (reply.get key).scalar = true)
    (ends : recordFields reply keys recorded = .ok result) :
    Recorded reply recorded result keys := by
  induction keys generalizing recorded with
  | nil =>
      obtain rfl := Except.ok.inj ends
      exact ⟨record, by simp, by simp, fun _ _ => rfl⟩
  | cons key keys ih =>
      rw [recordFields] at ends
      split at ends
      · cases ends
      · next agrees =>
        rw [record.assign_eq] at ends
        have plain := scalars key List.mem_cons_self
        have rest := ih (record.set plain) (fun other member =>
          scalars other (List.mem_cons_of_mem key member)) ends
        have object := record.isObject
        refine ⟨rest.record, ?_, ?_, ?_⟩
        · intro other member prior before
          by_cases same : key = other
          · subst same
            by_contra differs
            exact agrees ((Option.any_eq_true _ _).mpr ⟨prior, before, decide_eq_true differs⟩)
          · have later := (List.mem_cons.mp member).resolve_left fun head => same head.symm
            refine rest.agreed other later prior ?_
            rw [Value.field?_set_other same]
            exact before
        · intro other member
          by_cases later : other ∈ keys
          · exact rest.held other later
          · have same := (List.mem_cons.mp member).resolve_right later
            rw [rest.kept other later, same, Value.field?_set_same object]
        · intro other outside
          have differs : key ≠ other := fun same => outside (same ▸ List.mem_cons_self)
          have later : other ∉ keys := fun member => outside (List.mem_cons_of_mem key member)
          rw [rest.kept other later, Value.field?_set_other differs]

theorem recordFields_agrees (record : recorded.Record)
    (scalars : ∀ key ∈ keys, (reply.get key).scalar = true)
    (agrees : ∀ key ∈ keys, ∀ prior, recorded.field? key = some prior → prior = reply.get key) :
    ∃ result, recordFields reply keys recorded = .ok result := by
  induction keys generalizing recorded with
  | nil => exact ⟨recorded, rfl⟩
  | cons key keys ih =>
      have here : ¬ ((recorded.field? key).any (· ≠ reply.get key)) = true := by
        intro differs
        obtain ⟨prior, before, apart⟩ := (Option.any_eq_true _ _).mp differs
        exact of_decide_eq_true apart (agrees key List.mem_cons_self prior before)
      rw [recordFields, if_neg here, record.assign_eq]
      refine ih (record.set (scalars key List.mem_cons_self))
        (fun other member => scalars other (List.mem_cons_of_mem key member)) ?_
      intro other member prior before
      rw [Value.field?_set record.isObject] at before
      split at before
      · next same => rw [← same, Option.some.inj before]
      · exact agrees other (List.mem_cons_of_mem key member) prior before

/-- A record that holds the reply's fields already comes out as it went in. -/
theorem recordFields_held (record : recorded.Record)
    (held : ∀ key ∈ keys, recorded.field? key = some (reply.get key)) :
    recordFields reply keys recorded = .ok recorded := by
  induction keys with
  | nil => rfl
  | cons key keys ih =>
      have here := held key List.mem_cons_self
      have agrees : ¬ ((recorded.field? key).any (· ≠ reply.get key)) = true := by
        rw [here]
        simp
      rw [recordFields, if_neg agrees, record.assign_eq]
      simp only [record.set_eq_self here]
      exact ih fun other member => held other (List.mem_cons_of_mem key member)

/-- The loop takes no field that differs from a recorded one, and does not panic on a record. -/
theorem recordFields_conflict (record : recorded.Record)
    (scalars : ∀ key ∈ keys, (reply.get key).scalar = true)
    (conflict : ∃ key ∈ keys, ∃ prior, recorded.field? key = some prior ∧ prior ≠ reply.get key) :
    recordFields reply keys recorded =
      .error (.io (.other "accepted payload conflict")) := by
  induction keys generalizing recorded with
  | nil =>
      obtain ⟨key, member, _⟩ := conflict
      cases member
  | cons key keys ih =>
      rw [recordFields]
      split
      · rfl
      · next agrees =>
        rw [record.assign_eq]
        have plain := scalars key List.mem_cons_self
        refine ih (record.set plain) (fun other member =>
          scalars other (List.mem_cons_of_mem key member)) ?_
        obtain ⟨other, member, prior, before, differs⟩ := conflict
        have apart : key ≠ other := by
          rintro rfl
          exact agrees ((Option.any_eq_true _ _).mpr ⟨prior, before, decide_eq_true differs⟩)
        have later := (List.mem_cons.mp member).resolve_left fun head => apart head.symm
        refine ⟨other, later, prior, ?_, differs⟩
        rw [Value.field?_set_other apart]
        exact before

end Fields

section Custody

variable [Codec] {dir : StateDirectory} {custody : Custody} {reply other recorded result : Value}

/-- The reader gives back every flat record that the writer wrote. -/
def ReadsRecords : Prop :=
  ∀ record : Value, record.Record → Codec.parse (Codec.encode record) = some record

/-- What stands under the name of the local record, where it is readable, is a flat record. -/
def Written (dir : StateDirectory) : Prop :=
  ∀ recorded, (dir.entry SourceFile.local_).value = .ok recorded → recorded.Record

/-- The writing of a record that stands under the name of the local one. -/
def Stored (dir : StateDirectory) (recorded : Value) : Prop :=
  ∃ file, dir.entry SourceFile.local_ = .regular file ∧ file.readable ∧
    file.bytes = Codec.encode recorded

/-- A record of an accepted reply. -/
structure Holds (reply recorded : Value) : Prop where
  record : recorded.Record
  fields : ∀ key ∈ acceptedKeys, recorded.field? key = some (reply.get key)
  enqueue : recorded.field? "enqueue" = some (.string "accepted")

/-- The local record is that of an accepted reply. -/
def Bound (reply : Value) (dir : StateDirectory) : Prop :=
  ∃ recorded, Stored dir recorded ∧ Holds reply recorded

theorem readLocal_ok (read : readLocal dir custody = .ok recorded) :
    (dir.entry SourceFile.local_).value = .ok recorded := by
  unfold readLocal at read
  split at read
  · cases read
  · cases found : (dir.entry SourceFile.local_).value with
    | error error => rw [found] at read; cases read
    | ok value => rw [found] at read; exact congrArg Except.ok (Except.ok.inj read)

theorem readLocal_error {failure : Failure} (read : readLocal dir custody = .error failure) :
    ∃ error, failure = .io error := by
  unfold readLocal at read
  split at read
  · next error _ => exact ⟨error, (Except.error.inj read).symm⟩
  · cases found : (dir.entry SourceFile.local_).value with
    | error error => rw [found] at read; exact ⟨error, (Except.error.inj read).symm⟩
    | ok value => rw [found] at read; cases read

theorem Stored.reads (codec : ReadsRecords) (stored : Stored dir recorded)
    (record : recorded.Record) (read : (dir.entry SourceFile.local_).value = .ok result) :
    result = recorded := by
  obtain ⟨file, stands, readable, is_bytes⟩ := stored
  obtain ⟨bytes, bounded, parses⟩ := Node.value_ok read
  obtain ⟨opened, standsAs, _, is_opened, _⟩ := Node.regular_of_readBounded bounded
  have same : file = opened := Node.regular.inj (stands.symm.trans standsAs)
  rw [← is_opened, ← same, is_bytes, codec recorded record] at parses
  exact (Option.some.inj parses).symm

theorem Stored.value (codec : ReadsRecords) (stored : Stored dir recorded)
    (record : recorded.Record) (bounded : (Codec.encode recorded).length ≤ maxSource) :
    (dir.entry SourceFile.local_).value = .ok recorded := by
  obtain ⟨file, stands, readable, is_bytes⟩ := stored
  rw [stands, Node.value, Node.readBounded, Node.openNoFollow_regular readable]
  simp only [is_bytes, if_pos bounded, codec recorded record]

theorem scalar_of_checked (checks : checkReceipt dir reply = .ok ()) :
    ∀ key ∈ acceptedKeys, (reply.get key).scalar = true := by
  obtain ⟨⟨_, _, snapshot⟩, ⟨_, _, outcome⟩, ⟨_, payload⟩, ⟨length, is_length, fits⟩⟩ :=
    checked_of_receipt checks
  intro key member
  simp only [acceptedKeys, List.mem_cons, List.not_mem_nil, or_false] at member
  rcases member with rfl | rfl | rfl | rfl
  · rw [snapshot]; rfl
  · rw [outcome]; rfl
  · rw [payload]; rfl
  · rw [is_length, Value.scalar]
    exact decide_eq_true ⟨by omega, by exact_mod_cast fits⟩

/-- What an acceptance that reaches its write has checked, read and recorded. -/
structure Accepting (dir : StateDirectory) (reply prior fields : Value) : Prop where
  checks : checkReceipt dir reply = .ok ()
  read : (dir.entry SourceFile.local_).value = .ok prior
  ends : recordFields reply acceptedKeys prior = .ok fields
  recorded : Recorded reply prior fields acceptedKeys

theorem accepting_of_record (written : Written dir)
    (accepts : acceptedRecord dir custody reply = .ok result) :
    ∃ prior fields, Accepting dir reply prior fields ∧
      result = fields.set "enqueue" (.string "accepted") := by
  obtain ⟨_, checks, rest⟩ := ok_of_bind accepts
  obtain ⟨prior, read, rest⟩ := ok_of_bind rest
  obtain ⟨fields, ends, rest⟩ := ok_of_bind rest
  have passes : checkReceipt dir reply = .ok () := by
    cases found : checkReceipt dir reply with
    | error error => rw [found] at checks; cases checks
    | ok _ => rfl
  have recorded := recorded_of_fields (written prior (readLocal_ok read))
    (scalar_of_checked passes) ends
  rw [recorded.record.assign_eq] at rest
  exact ⟨prior, fields, ⟨passes, readLocal_ok read, ends, recorded⟩, (Except.ok.inj rest).symm⟩

theorem Accepting.holds {prior fields : Value} (accepting : Accepting dir reply prior fields) :
    Holds reply (fields.set "enqueue" (.string "accepted")) := by
  have recorded := accepting.recorded
  refine ⟨recorded.record.set rfl, ?_, Value.field?_set_same recorded.record.isObject⟩
  intro key member
  have differs : "enqueue" ≠ key := by
    rintro rfl
    revert member
    decide
  rw [Value.field?_set_other differs]
  exact recorded.held key member

/-- Whatever is accepted after a record was agrees with it, and writes it once more. -/
theorem Accepting.repeats {prior fields : Value} (accepting : Accepting dir other prior fields)
    (holds : Holds reply prior) :
    fields.set "enqueue" (.string "accepted") = prior ∧
      ∀ key ∈ acceptedKeys, other.get key = reply.get key := by
  have agrees : ∀ key ∈ acceptedKeys, other.get key = reply.get key := fun key member =>
    (accepting.recorded.agreed key member _ (holds.fields key member)).symm
  have unchanged : recordFields other acceptedKeys prior = .ok prior := by
    refine recordFields_held holds.record fun key member => ?_
    rw [agrees key member]
    exact holds.fields key member
  have same : prior = fields := Except.ok.inj (unchanged.symm.trans accepting.ends)
  rw [← same]
  exact ⟨holds.record.set_eq_self holds.enqueue, agrees⟩

end Custody

section Runs

variable [Codec] {dir : StateDirectory} {custody : Custody} {reply other recorded result : Value}

/-- The calls that write the local record of a source, in the order of its lock. -/
inductive Event
  | accept (custody : Custody) (reply : Value)
  | confirm (custody : Custody) (registration : String)

def step (dir : StateDirectory) : Event → StateDirectory
  | .accept custody reply => (accept dir custody reply).2
  | .confirm custody registration => confirm dir custody registration

def run (dir : StateDirectory) (events : List Event) : StateDirectory := events.foldl step dir

/-- A directory in which nothing but the local record may have changed. -/
structure SameSource (before after : StateDirectory) : Prop where
  paths : after.paths = before.paths
  entry : ∀ name, name ≠ SourceFile.local_ → after.entry name = before.entry name

omit [Codec] in
theorem SameSource.trans {first second third : StateDirectory} (before : SameSource first second)
    (after : SameSource second third) : SameSource first third where
  paths := after.paths.trans before.paths
  entry := fun name differs => (after.entry name differs).trans (before.entry name differs)

theorem replaced_stored {file : RegularFile} (readable : file.readable = true)
    (is_bytes : file.bytes = Codec.encode recorded) :
    Stored (replaced dir file) recorded ∧ SameSource dir (replaced dir file) := by
  have stands : (replaced dir file).entry SourceFile.local_ = .regular file :=
    Function.update_self (β := fun _ => Node) SourceFile.local_ (.regular file) dir.entry
  have others (name : String) (differs : name ≠ SourceFile.local_) :
      (replaced dir file).entry name = dir.entry name := Function.update_of_ne differs _ _
  exact ⟨⟨file, stands, readable, is_bytes⟩, rfl, others⟩

theorem save_cases (dir : StateDirectory) (custody : Custody) (recorded : Value) :
    (save dir custody recorded).2 = dir ∨
    (Stored (save dir custody recorded).2 recorded ∧
      SameSource dir (save dir custody recorded).2) := by
  unfold save
  cases custody.saving with
  | done => exact .inr (replaced_stored rfl rfl)
  | unchanged error => exact .inl rfl
  | unsynced error => exact .inr (replaced_stored rfl rfl)

/-- An event writes nothing, or a record that `accept` or a confirmation made of the last one. -/
theorem step_cases (written : Written dir) (event : Event) :
    step dir event = dir ∨ (SameSource dir (step dir event) ∧
      ∃ prior result, (dir.entry SourceFile.local_).value = .ok prior ∧
        Stored (step dir event) result ∧
        ((∃ custody reply fields, event = .accept custody reply ∧
            Accepting dir reply prior fields ∧
            result = fields.set "enqueue" (.string "accepted")) ∨
          ∃ registration, result = prior.set "registration" (.string registration))) := by
  cases event with
  | accept custody reply =>
      simp only [step, accept]
      cases accepts : acceptedRecord dir custody reply with
      | error failure => exact .inl rfl
      | ok result =>
          obtain ⟨prior, fields, accepting, is_result⟩ := accepting_of_record written accepts
          rcases save_cases dir custody result with
            same | ⟨stored, source⟩
          · exact .inl same
          · exact .inr ⟨source, prior, result, accepting.read, stored,
              .inl ⟨custody, reply, fields, rfl, accepting, is_result⟩⟩
  | confirm custody registration =>
      simp only [step, confirm]
      cases read : readLocal dir custody with
      | error failure => exact .inl rfl
      | ok prior =>
          have reads := readLocal_ok read
          simp only [(written prior reads).assign_eq]
          rcases save_cases dir custody (prior.set "registration" (.string registration)) with
            same | ⟨stored, source⟩
          · exact .inl same
          · exact .inr ⟨source, prior, _, reads, stored, .inr ⟨registration, rfl⟩⟩

theorem written_of_stored (codec : ReadsRecords) (stored : Stored dir recorded)
    (record : recorded.Record) : Written dir := by
  intro found read
  rw [stored.reads codec record read]
  exact record

theorem written_step (codec : ReadsRecords) (written : Written dir) (event : Event) :
    Written (step dir event) := by
  rcases step_cases written event with same | ⟨_, prior, result, read, stored, made⟩
  · rw [same]
    exact written
  · refine written_of_stored codec stored ?_
    rcases made with ⟨_, _, fields, _, accepting, rfl⟩ | ⟨registration, rfl⟩
    · exact accepting.holds.record
    · exact (written prior read).set rfl

theorem written_run (codec : ReadsRecords) (events : List Event) (written : Written dir) :
    Written (run dir events) := by
  induction events generalizing dir with
  | nil => exact written
  | cons event events ih => exact ih (written_step codec written event)

omit [Codec] in
theorem Holds.confirm (holds : Holds reply recorded) (registration : String) :
    Holds reply (recorded.set "registration" (.string registration)) where
  record := holds.record.set rfl
  fields := by
    intro key member
    have differs : "registration" ≠ key := by
      rintro rfl
      revert member
      decide
    rw [Value.field?_set_other differs]
    exact holds.fields key member
  enqueue := by
    rw [Value.field?_set_other (by decide)]
    exact holds.enqueue

theorem Bound.written (codec : ReadsRecords) (bound : Bound reply dir) : Written dir := by
  obtain ⟨recorded, stored, holds⟩ := bound
  exact written_of_stored codec stored holds.record

theorem bound_step (codec : ReadsRecords) (bound : Bound reply dir) (event : Event) :
    Bound reply (step dir event) := by
  rcases step_cases (bound.written codec) event with same | ⟨_, prior, result, read, stored, made⟩
  · rw [same]
    exact bound
  · obtain ⟨recorded, before, holds⟩ := bound
    obtain rfl := before.reads codec holds.record read
    rcases made with ⟨_, _, fields, _, accepting, rfl⟩ | ⟨registration, rfl⟩
    · rw [(accepting.repeats holds).1] at stored
      exact ⟨prior, stored, holds⟩
    · exact ⟨_, stored, holds.confirm registration⟩

theorem bound_run (codec : ReadsRecords) (events : List Event) (bound : Bound reply dir) :
    Bound reply (run dir events) := by
  induction events generalizing dir with
  | nil => exact bound
  | cons event events ih => exact ih (bound_step codec bound event)

theorem sameSource_run (codec : ReadsRecords) (events : List Event) (written : Written dir) :
    SameSource dir (run dir events) := by
  induction events generalizing dir with
  | nil => exact ⟨rfl, fun _ _ => rfl⟩
  | cons event events ih =>
      have later := ih (written_step codec written event)
      rcases step_cases written event with same | ⟨source, _⟩
      · have source : SameSource dir (step dir event) := same.symm ▸ ⟨rfl, fun _ _ => rfl⟩
        exact source.trans later
      · exact source.trans later

end Runs

section Results

variable [Codec] {dir now : StateDirectory} {custody : Custody} {reply first other : Value}

/-- The bytes that stand under the name of the local record. -/
def localBytes (dir : StateDirectory) : Option Bytes :=
  match dir.entry SourceFile.local_ with
  | .regular file => some file.bytes
  | _ => none

omit [Codec] in
theorem localBytes_of_regular {file : RegularFile}
    (stands : dir.entry SourceFile.local_ = .regular file) : localBytes dir = some file.bytes := by
  rw [localBytes, stands]

theorem Stored.localBytes_eq {recorded : Value} (stored : Stored dir recorded) :
    localBytes dir = some (Codec.encode recorded) := by
  obtain ⟨file, stands, _, is_bytes⟩ := stored
  rw [localBytes_of_regular stands, is_bytes]

theorem SameSource.checkReceipt_eq (source : SameSource dir now) :
    checkReceipt now reply = checkReceipt dir reply := by
  have registration := source.entry SourceFile.registration (by decide)
  have snapshot := source.entry SourceFile.snapshot (by decide)
  have outcome := source.entry SourceFile.outcome (by decide)
  have bindings : binding now = binding dir := by
    unfold binding
    rw [registration, source.paths]
  have receipts (registration : Value) :
      exactReceipt now registration reply = exactReceipt dir registration reply := by
    unfold exactReceipt
    rw [snapshot, outcome]
  unfold checkReceipt
  rw [bindings]
  simp only [receipts]

theorem bound_of_accept (written : Written dir)
    (accepts : accept dir custody first = (.ok (), now)) :
    Bound first now ∧ SameSource dir now ∧ checkReceipt dir first = .ok () := by
  unfold accept at accepts
  cases made : acceptedRecord dir custody first with
  | error failure =>
      rw [made] at accepts
      cases accepts
  | ok result =>
      rw [made] at accepts
      obtain ⟨prior, fields, accepting, rfl⟩ := accepting_of_record written made
      have stored : Stored now (fields.set "enqueue" (.string "accepted")) ∧
          SameSource dir now := by
        have replacing : now = replaced dir { custody.created with
            bytes := Codec.encode (fields.set "enqueue" (.string "accepted")), readable := true } := by
          unfold save at accepts
          cases saving : custody.saving with
          | done => rw [saving] at accepts; exact (Prod.mk.inj accepts).2.symm
          | unchanged error => rw [saving] at accepts; cases (Prod.mk.inj accepts).1
          | unsynced error => rw [saving] at accepts; cases (Prod.mk.inj accepts).1
        rw [replacing]
        exact replaced_stored rfl rfl
      exact ⟨⟨_, stored.1, accepting.holds⟩, stored.2, accepting.checks⟩

/-- A reply that differs from the accepted one is refused, and nothing is written. -/
theorem accept_conflict (codec : ReadsRecords) (bound : Bound first dir)
    (differs : ∃ key ∈ acceptedKeys, other.get key ≠ first.get key) :
    ∃ error, accept dir custody other = (.error (.io error), dir) := by
  obtain ⟨recorded, stored, holds⟩ := bound
  have refuses : ∃ error, acceptedRecord dir custody other = .error (.io error) := by
    unfold acceptedRecord
    cases checks : checkReceipt dir other with
    | error error => exact ⟨error, rfl⟩
    | ok _ =>
        cases read : readLocal dir custody with
        | error failure =>
            obtain ⟨error, rfl⟩ := readLocal_error read
            exact ⟨error, rfl⟩
        | ok prior =>
            obtain rfl := stored.reads codec holds.record (readLocal_ok read)
            obtain ⟨key, member, apart⟩ := differs
            have conflict := @recordFields_conflict other _ _ holds.record
              (scalar_of_checked checks)
              ⟨key, member, first.get key, holds.fields key member, fun same => apart same.symm⟩
            refine ⟨.other "accepted payload conflict", ?_⟩
            simp only [Except.mapError, bind, Except.bind, conflict]
  obtain ⟨error, refused⟩ := refuses
  exact ⟨error, by rw [accept, refused]⟩

theorem accept_again (codec : ReadsRecords) (bound : Bound first dir) :
    localBytes (accept dir custody other).2 = localBytes dir := by
  have written := bound.written codec
  obtain ⟨recorded, stored, holds⟩ := bound
  unfold accept
  cases made : acceptedRecord dir custody other with
  | error failure => rfl
  | ok result =>
      obtain ⟨prior, fields, accepting, rfl⟩ := accepting_of_record written made
      obtain rfl := stored.reads codec holds.record accepting.read
      rw [(accepting.repeats holds).1]
      rcases save_cases dir custody prior with same | ⟨again, _⟩
      · simp only [same]
      · exact again.localBytes_eq.trans stored.localBytes_eq.symm

/-- A receipt that agrees with the record is accepted where nothing fails. -/
theorem accept_ok {recorded : Value} (checks : checkReceipt dir other = .ok ())
    (locks : custody.lock = .ok ()) (saves : custody.saving = .done)
    (reads : (dir.entry SourceFile.local_).value = .ok recorded) (record : recorded.Record)
    (agrees : ∀ key ∈ acceptedKeys, ∀ prior, recorded.field? key = some prior →
      prior = other.get key) :
    ∃ accepted, accept dir custody other = (.ok (), accepted) := by
  obtain ⟨fields, ends⟩ := recordFields_agrees record (scalar_of_checked checks) agrees
  have made := recorded_of_fields record (scalar_of_checked checks) ends
  have found : readLocal dir custody = .ok recorded := by
    rw [readLocal, locks, reads]
    rfl
  have accepted : acceptedRecord dir custody other =
      .ok (fields.set "enqueue" (.string "accepted")) := by
    unfold acceptedRecord
    rw [checks, found]
    simp only [Except.mapError, bind, Except.bind, ends, made.record.assign_eq, Option.elim]
  unfold accept
  rw [accepted]
  simp only [save, saves]
  exact ⟨_, rfl⟩

theorem accept_repeated (codec : ReadsRecords) (bound : Bound first dir)
    (checks : checkReceipt dir first = .ok ()) (locks : custody.lock = .ok ())
    (saves : custody.saving = .done)
    (bounded : ∀ bytes, localBytes dir = some bytes → bytes.length ≤ maxSource) :
    (accept dir custody first).1 = .ok () := by
  obtain ⟨recorded, stored, holds⟩ := bound
  have reads := stored.value codec holds.record (bounded _ stored.localBytes_eq)
  have agrees : ∀ key ∈ acceptedKeys, ∀ prior, recorded.field? key = some prior →
      prior = first.get key := fun key member prior before =>
    Option.some.inj (before.symm.trans (holds.fields key member))
  obtain ⟨accepted, is_accepted⟩ := accept_ok checks locks saves reads holds.record agrees
  exact congrArg Prod.fst is_accepted

/-- One request of the original listener, and of nobody else under its name. -/
structure ActivatedOnce (dir : StateDirectory) (reply : Value) (registration identity : Value)
    (data : Bytes) (owner : String) (dispositions : List Value) (request : Value) : Prop where
  registered : Registered dir registration identity data
  identified : Identified registration (Codec.sha256 data) reply
  status : reply.get "status" = .string "exact_committed"
  committed : reply.get "registration_committed" = .bool true
  owned : registration.get "owner_invocation_uuid" = .string owner
  named : owner ≠ ""
  listed : items (reply.get "notification_dispositions") = some dispositions
  only : dispositions.filter (requested owner) = [request]
  requested_at : ∃ time, request.get "requested_at" = .string time ∧ time ≠ ""
  basis : request.get "request_basis" = .string "explicit_listener_activation_unattributed"

theorem activatedOnce_of_committed (activated : activationCommitted dir reply = .ok true) :
    ∃ registration identity data owner dispositions request,
      ActivatedOnce dir reply registration identity data owner dispositions request := by
  obtain ⟨⟨registration, identity⟩, bound, rest⟩ := ok_of_bind activated
  obtain ⟨_, agrees, rest⟩ := ok_of_bind rest
  obtain ⟨data, registered⟩ := registered_of_binding bound
  have identified : Identified registration (Codec.sha256 data) reply :=
    identified_of_exact (registered.identity ▸ agrees)
  split at rest
  · next committed =>
    obtain ⟨owner, owned, rest⟩ := ok_of_bind rest
    obtain ⟨owns, named⟩ := Option.filter_eq_some_iff.mp (some_of_elim owned)
    split at rest
    · cases rest
    · next dispositions listed =>
      split at rest
      · cases rest
      · next request others only =>
        have agreed := Except.ok.inj rest
        simp only [Bool.and_eq_true, List.isEmpty_iff, beq_iff_eq] at agreed
        obtain ⟨⟨alone, time⟩, basis⟩ := agreed
        obtain ⟨text, is_text, filled⟩ := (Option.any_eq_true _ _).mp time
        rw [alone] at only
        refine ⟨registration, identity, data, owner, dispositions, request, ?_⟩
        exact {
          registered := registered
          identified := identified
          status := committed.1
          committed := committed.2
          owned := string_of_asStr owns
          named := by simpa using named
          listed := listed
          only := only
          requested_at := ⟨text, string_of_asStr is_text, by simpa using filled⟩
          basis := basis }
  · cases rest

/-- Once a reply was accepted, and whatever is written to the local record after that, a reply with
another digest or length is refused and changes nothing, no reply changes the bytes of the record,
and the accepted one is accepted again unless a step fails. An activation is committed only by the
exact source with one request of its own listener. -/
theorem receipts_exact (codec : ReadsRecords) (dir : StateDirectory) :
    (Written dir → ∀ earlier custody first accepted,
      accept (run dir earlier) custody first = (.ok (), accepted) →
      ∀ later,
        (∀ custody other, (∃ key ∈ acceptedKeys, other.get key ≠ first.get key) →
          ∃ error, accept (run accepted later) custody other =
            (.error (.io error), run accepted later)) ∧
        (∀ custody other, localBytes (accept (run accepted later) custody other).2 =
          localBytes (run accepted later)) ∧
        ∀ custody : Custody, custody.lock = .ok () → custody.saving = .done →
          (∀ bytes, localBytes (run accepted later) = some bytes → bytes.length ≤ maxSource) →
          (accept (run accepted later) custody first).1 = .ok ()) ∧
    ∀ reply, activationCommitted dir reply = .ok true →
      ∃ registration identity data owner dispositions request,
        ActivatedOnce dir reply registration identity data owner dispositions request := by
  refine ⟨?_, fun reply activated => activatedOnce_of_committed activated⟩
  intro written earlier custody first accepted accepts later
  obtain ⟨bound, source, checks⟩ := bound_of_accept (written_run codec earlier written) accepts
  have still : Bound first (run accepted later) := bound_run codec later bound
  have same := source.trans (sameSource_run codec later (bound.written codec))
  refine ⟨fun custody other differs => accept_conflict codec still differs,
    fun custody other => accept_again codec still,
    fun custody locks saves bounded => ?_⟩
  have passes : checkReceipt (run accepted later) first = .ok () := same.checkReceipt_eq.trans checks
  exact accept_repeated codec still passes locks saves bounded


end Results

section Sample

def registrationDigest : String :=
  "ea9fc58437979bfe3b616eb002ecd6ff3b8b038891cf99016626153e2fa719e3"

def emptyDigest : String := "ca3d163bab055381827226140568f3bef7eaac187cebd76878e0b63e9e442356"

/-- It digests an empty record and the registration below. -/
@[reducible] def recordCodec : Codec :=
  flatCodec fun bytes =>
    if bytes = Value.recordBytes .empty then emptyDigest else registrationDigest

def sampleRegistration : Value :=
  .field "domain_id" (.string "domain") <| .field "handle" (.string "h") <|
  .field "handle_dir" (.string "/s/h") <| .field "listener_revision" (.number 1) <|
  .field "log_relative" (.string "log") <| .field "meta_relative" (.string "meta.json") <|
  .field "outcome_relative" (.string "source-outcome-v2.json") <|
  .field "protocol" (.string "completion-continuation-v2") <| .field "rc_relative" (.string "rc") <|
  .field "registration_id" (.string "registration") <|
  .field "registration_relative" (.string "source-registration-v2.json") <|
  .field "snapshot_relative" (.string "completion-snapshot-v2.json") <|
  .field "source_evidence_protocol" (.string "completion-continuation-v2") <|
  .field "source_id" (.string "source") <| .field "spool_root" (.string "/s") .empty

def sampleLocal : Value :=
  .field "domain_id" (.string "domain") <| .field "enqueue" (.string "waiting_evidence") <|
  .field "handle" (.string "h") <| .field "protocol" (.string "completion-continuation-v2") <|
  .field "registration" (.string "intent") <|
  .field "registration_digest" (.string registrationDigest) <|
  .field "registration_id" (.string "registration") <|
  .field "source_id" (.string "source") .empty

def sampleReply (byteLen : Nat) : Value :=
  .field "domain_id" (.string "domain") <| .field "handle" (.string "h") <|
  .field "listener_revision" (.number 1) <| .field "outcome_sha256" (.string emptyDigest) <|
  .field "payload_byte_len" (.number byteLen) <|
  .field "payload_sha256" (.string registrationDigest) <|
  .field "protocol" (.string "completion-continuation-v2") <|
  .field "registration_digest" (.string registrationDigest) <|
  .field "registration_id" (.string "registration") <|
  .field "snapshot_sha256" (.string emptyDigest) <| .field "source_id" (.string "source") <|
  .field "status" (.string "accepted") .empty

def sampleEntry (name : String) : Node :=
  if name = SourceFile.registration then .regular { bytes := sampleRegistration.recordBytes }
  else if name = SourceFile.local_ then .regular { bytes := sampleLocal.recordBytes }
  else .regular { bytes := Value.recordBytes .empty }

def sampleSource : StateDirectory where
  paths := ⟨"/s", "/s/h", "h"⟩
  entry := sampleEntry
  sibling := fun _ => .absent

theorem reads_recordCodec : @ReadsRecords recordCodec :=
  fun _ record => parse_flatCodec record

theorem record_sampleRegistration : sampleRegistration.Record := by
  repeat first | exact .single rfl | refine .cons rfl (by decide) ?_

theorem record_sampleLocal : sampleLocal.Record := by
  repeat first | exact .single rfl | refine .cons rfl (by decide) ?_

theorem readBounded_record {record : Value} {max : Nat}
    (bounded : 4 * record.recordText.length ≤ max) :
    (Node.regular { bytes := record.recordBytes }).readBounded max = .ok record.recordBytes := by
  rw [Node.readBounded, Node.openNoFollow_regular rfl]
  exact if_pos ((Value.length_recordBytes record).trans bounded)

theorem digest_sampleRegistration :
    recordCodec.sha256 sampleRegistration.recordBytes = registrationDigest := by
  have apart : sampleRegistration.recordBytes ≠ Value.recordBytes .empty := by
    intro same
    have reads := congrArg Value.ofRecordBytes same
    rw [Value.ofRecordBytes_recordBytes record_sampleRegistration,
      Value.ofRecordBytes_recordBytes .empty] at reads
    exact Value.noConfusion (Option.some.inj reads)
  exact if_neg apart

def sampleIdentity : Value :=
  .field "domain_id" (.string "domain") <| .field "handle" (.string "h") <|
  .field "protocol" (.string "completion-continuation-v2") <|
  .field "registration_digest" (.string registrationDigest) <|
  .field "registration_id" (.string "registration") <|
  .field "source_id" (.string "source") .empty

theorem common_sample : common sampleRegistration registrationDigest = sampleIdentity := by
  decide +kernel

theorem bounded_sampleRegistration : 4 * sampleRegistration.recordText.length ≤ maxSource := by
  decide +kernel

theorem binding_sample :
    @binding recordCodec sampleSource = .ok (sampleRegistration, sampleIdentity) := by
  have stands : sampleEntry SourceFile.registration =
      .regular { bytes := sampleRegistration.recordBytes } := if_pos rfl
  have read : (sampleEntry SourceFile.registration).readBounded maxSource =
      .ok sampleRegistration.recordBytes := by
    rw [stands]
    exact readBounded_record bounded_sampleRegistration
  have identical : exact sampleIdentity sampleIdentity = .ok () := rfl
  rw [← common_sample, ← digest_sampleRegistration] at identical ⊢
  exact @binding_of_fields sampleRegistration recordCodec sampleSource _ read
    (reads_recordCodec _ record_sampleRegistration) rfl identical

theorem checkReceipt_sample (byteLen : Nat) (fits : byteLen < 2 ^ 64) :
    @checkReceipt recordCodec sampleSource (sampleReply byteLen) = .ok () := by
  have digest : recordCodec.sha256 (Value.recordBytes .empty) = emptyDigest := if_pos rfl
  have published {name : String} {max : Nat} (other : name ≠ SourceFile.registration)
      (another : name ≠ SourceFile.local_) (some_ : 12 ≤ max) :
      (sampleEntry name).readBounded max = .ok (Value.recordBytes .empty) := by
    have stands : sampleEntry name = .regular { bytes := Value.recordBytes .empty } :=
      (if_neg other).trans (if_neg another)
    rw [stands]
    exact readBounded_record some_
  have valid : validDigest registrationDigest = true := by
    unfold validDigest
    rw [utf8_eq]
    decide +kernel
  have length : ((sampleReply byteLen).get "payload_byte_len").asU64 = some byteLen := by
    have found : (sampleReply byteLen).get "payload_byte_len" = .number byteLen := rfl
    have range : 0 ≤ (byteLen : Int) ∧ (byteLen : Int) < 2 ^ 64 := by omega
    rw [found, Value.asU64, if_pos range, Int.toNat_natCast]
  have names : namesPayload sampleRegistration (sampleReply byteLen) = true := by
    have found : ((sampleReply byteLen).get "payload_sha256").asStr = some registrationDigest := rfl
    rw [namesPayload, found, Option.any_some, valid, length]
    rfl
  have snapshot : (sampleEntry SourceFile.snapshot).readBounded (16 * maxSource) =
      .ok (Value.recordBytes .empty) :=
    published (by decide) (by decide) (by unfold maxSource; omega)
  have outcome : (sampleEntry SourceFile.outcome).readBounded maxSource =
      .ok (Value.recordBytes .empty) :=
    published (by decide) (by decide) (by unfold maxSource; omega)
  exact @receipt_checked recordCodec sampleSource sampleRegistration (sampleReply byteLen)
    sampleIdentity _ _ binding_sample rfl rfl snapshot (by rw [digest]; rfl) outcome
    (by rw [digest]; rfl) names

theorem bounded_sampleLocal : 4 * sampleLocal.recordText.length ≤ maxSource := by decide +kernel

theorem value_sample :
    @Node.value recordCodec (sampleSource.entry SourceFile.local_) = .ok sampleLocal := by
  have other : SourceFile.local_ ≠ SourceFile.registration := by decide
  have stands : sampleEntry SourceFile.local_ = .regular { bytes := sampleLocal.recordBytes } :=
    (if_neg other).trans (if_pos rfl)
  have stored : @Stored recordCodec sampleSource sampleLocal := ⟨_, stands, rfl, rfl⟩
  refine @Stored.value recordCodec sampleSource sampleLocal reads_recordCodec stored
    record_sampleLocal ?_
  exact (Value.length_recordBytes sampleLocal).trans bounded_sampleLocal

/-- The sample reply is accepted, and after that a reply with another length is refused. -/
theorem receipts_exact_sample : ∃ accepted,
    @accept recordCodec sampleSource {} (sampleReply 12) = (.ok (), accepted) ∧
      ∃ error, @accept recordCodec accepted {} (sampleReply 13) = (.error (.io error), accepted) := by
  have written : @Written recordCodec sampleSource := by
    intro recorded read
    rw [value_sample] at read
    exact Except.ok.inj read ▸ record_sampleLocal
  have fresh : ∀ key ∈ acceptedKeys, sampleLocal.field? key = none := by decide
  obtain ⟨accepted, first⟩ := @accept_ok recordCodec sampleSource {} (sampleReply 12) _
    (checkReceipt_sample 12 (by decide)) rfl rfl value_sample record_sampleLocal
    fun key member prior before => absurd (before.symm.trans (fresh key member)) nofun
  obtain ⟨refuses, _⟩ := (@receipts_exact recordCodec reads_recordCodec sampleSource).1
    written [] {} (sampleReply 12) accepted first []
  have differs : ∃ key ∈ acceptedKeys, (sampleReply 13).get key ≠ (sampleReply 12).get key :=
    ⟨"payload_byte_len", by decide, by decide⟩
  exact ⟨accepted, first, refuses {} (sampleReply 13) differs⟩

end Sample

end Acceptance

end AgentBash
