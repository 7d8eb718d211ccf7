import AgentBash.Retention.ExactRelease
import AgentBash.Retention.Reaper

/-!
# Every veto keeps the directory

What a removal went through is read back condition by condition: the locks, the causal parent,
the release, the private result, the custody markers, the recorded supervisor, the time and
the state. Evidence that nobody can use is then compared with no evidence at all.
-/

namespace AgentBash

set_option autoImplicit false

open Durable

section Removal

/-- No marker, or one that was written in another boot than this. -/
def CustodyOver (marker : Node) (boot : String) : Prop :=
  marker = .absent ∨ marker = .dangling ∨
    ∃ file recorded, marker.read = .ok file ∧ readUtf8 file.bytes = some recorded ∧
      validBootId recorded ∧ validBootId boot ∧ recorded ≠ boot

theorem missing_of_read {node : Node} {error : IoError} (failed : node.read = .error error)
    (kind : error.kind = .notFound) : node = .absent ∨ node = .dangling := by
  have opened : ∀ file, Node.open_ file ≠ .error error := by
    intro file same
    unfold Node.open_ at same
    split at same
    · cases same
    · cases same
      cases kind
  cases node with
  | absent => exact .inl rfl
  | dangling => exact .inr rfl
  | unreachable => cases failed; cases kind
  | directory => cases failed; cases kind
  | special => cases failed; cases kind
  | link file => exact absurd failed (opened file)
  | regular file => exact absurd failed (opened file)

theorem custodyOver_of_not_remain {marker : Node} {boot : String}
    (gone : custodyMayRemain marker boot = false) : CustodyOver marker boot := by
  unfold custodyMayRemain at gone
  split at gone
  · next file readAs =>
    split at gone
    · next recorded decoded =>
      simp only [Bool.or_eq_false_iff, Bool.not_eq_false', beq_eq_false_iff_ne] at gone
      obtain ⟨⟨recordedValid, bootValid⟩, other⟩ := gone
      exact .inr (.inr ⟨file, recorded, readAs, decoded, recordedValid, bootValid, other⟩)
    · cases gone
  · next error failed =>
    have kind : error.kind = .notFound := by simpa using gone
    rcases missing_of_read failed kind with absent | dangling
    · exact .inl absent
    · exact .inr (.inl dangling)

variable [Codec]

/-- An accepted work is a root with its exact private result, or nested without its parent. -/
inductive AcceptanceSettled (dir : StateDirectory) (acceptance : Value) : Prop
  | root (result : Value) : ReapRegistration.ofValue acceptance = some .root →
      (dir.entry EvidenceFile.result).value = .ok result →
      resultIsExact dir.paths.handle acceptance result → AcceptanceSettled dir acceptance
  | nested (parent : String) : ReapRegistration.ofValue acceptance = some (.nested parent) →
      isHandleName parent → siblingRetains (dir.sibling parent) = .ok false →
      AcceptanceSettled dir acceptance

def AcceptanceOver (dir : StateDirectory) : Prop :=
  (dir.entry EvidenceFile.accepted).tryExists = .ok false ∨
    ∃ acceptance, (dir.entry EvidenceFile.accepted).value = .ok acceptance ∧
      acceptanceIsExact dir.paths.handle acceptance ∧ AcceptanceSettled dir acceptance

/-- What the record itself says: nobody is left, long enough, and nothing is still owed. -/
structure RecordOver (dir : StateDirectory) (config : ReapConfig) (record : Meta)
    (table : ProcessTable) (boot : String) : Prop where
  supervisor : record.supervisorPid = none ∨ (record.supervisorEvidence table boot).conclusive
  ttl : config.ttlMs ≤ stateDirReapAgeMs dir record config.nowUnixMs
  settled :
    (terminal record ∧ readySentinelWorkloadMayBeRunning record table boot = false ∧
        record.delivery.completionLifecycle.needsProgress = false) ∨
      (record.state = .running ∧ (record.supervisorEvidence table boot).conclusive ∧
        (record.workloadEvidence table boot).conclusive)

/-- Everything that the removal of a directory needs. -/
structure Removable (locks : ReapLocks) (dir : StateDirectory) (config : ReapConfig)
    (table : ProcessTable) (boot : String) : Prop where
  delivery : locks.delivery = .ok true
  custody : locks.custody = .ok ()
  output : locks.output = .ok true
  acceptance : AcceptanceOver dir
  release : dir.entry SourceFile.registration = .absent ∨
    ∃ registration identity receipt file, ExactRelease dir registration identity receipt file
  physicalCustody : CustodyOver (dir.entry EvidenceFile.physicalCustody) boot
  externalCustody : CustodyOver (dir.entry EvidenceFile.externalTransferCustody) boot
  record : ∃ record, dir.readMeta = .ok record ∧ RecordOver dir config record table boot

omit [Codec] in
theorem clear_of_not_vetoed {reading : Except IoError Bool} (clear : vetoed reading = false) :
    reading = .ok false := by
  cases reading with
  | error error => cases clear
  | ok veto => exact congrArg Except.ok clear

theorem eligible_iff {dir : StateDirectory} {config : ReapConfig} {table : ProcessTable}
    {boot : String} {creates : Bool} :
    stateDirReapEligible dir config table boot creates = true ↔
      causalParentRetains dir = .ok false ∧ retentionWithheld dir creates = false ∧
        acceptedRootResultPending dir = .ok false ∧
        ∃ record, dir.readMeta = .ok record ∧
          recordIsEligible dir config record table boot = true := by
  constructor
  · intro eligible
    unfold stateDirReapEligible at eligible
    split at eligible
    · cases eligible
    · next parent =>
      split at eligible
      · cases eligible
      · next release =>
        split at eligible
        · cases eligible
        · next pending =>
          split at eligible
          · cases eligible
          · next record readAs =>
            exact ⟨clear_of_not_vetoed (by simpa using parent), by simpa using release,
              clear_of_not_vetoed (by simpa using pending), record, readAs, eligible⟩
  · rintro ⟨parent, release, pending, record, readAs, eligible⟩
    simp only [stateDirReapEligible, parent, release, pending, readAs, eligible, vetoed,
      Bool.false_eq_true, if_false]

omit [Codec] in
theorem kind_of_root {acceptance : Value}
    (registration : ReapRegistration.ofValue acceptance = some .root) :
    (acceptance.get "registration").get "kind" = .string "root" := by
  unfold ReapRegistration.ofValue at registration
  simp only at registration
  split at registration
  · exact string_of_asStr (by assumption)
  · cases registration
  · cases registration

omit [Codec] in
theorem kind_of_nested {acceptance : Value} {parent : String}
    (registration : ReapRegistration.ofValue acceptance = some (.nested parent)) :
    (acceptance.get "registration").get "kind" = .string "nested" := by
  unfold ReapRegistration.ofValue at registration
  simp only at registration
  split at registration
  · cases registration
  · exact string_of_asStr (by assumption)
  · cases registration

theorem acceptanceOver {dir : StateDirectory} (parent : causalParentRetains dir = .ok false)
    (pending : acceptedRootResultPending dir = .ok false) : AcceptanceOver dir := by
  obtain ⟨present, presentAs, rest⟩ := ok_of_bind pending
  cases present with
  | false => exact .inl presentAs
  | true =>
      obtain ⟨acceptance, acceptanceAs, rest⟩ := ok_of_bind rest
      obtain ⟨bytes, bounded, parses⟩ := Node.value_ok acceptanceAs
      obtain ⟨file, stands, readable, sameBytes, within⟩ := Node.regular_of_readBounded bounded
      have opened : (dir.entry EvidenceFile.accepted).read = .ok file := by
        simp only [stands, Node.read, Node.open_, readable, if_true]
      obtain ⟨again, againAs, retains⟩ := ok_of_bind parent
      rw [presentAs] at againAs
      cases againAs
      obtain ⟨readFile, readAs, retains⟩ := ok_of_bind retains
      rw [opened] at readAs
      cases readAs
      rw [sameBytes, if_pos within, parses] at retains
      simp only [Option.bind_some] at retains
      split at rest
      · next exactly =>
        refine .inr ⟨acceptance, acceptanceAs, exactly, ?_⟩
        split at retains
        · cases retains
        · next registration =>
          have kind : (acceptance.get "registration").get "kind" = .string "root" :=
            kind_of_root registration
          rw [kind] at rest
          simp only [BEq.rfl, if_true] at rest
          obtain ⟨resultPresent, _, rest⟩ := ok_of_bind rest
          cases resultPresent with
          | false => cases rest
          | true =>
              obtain ⟨result, resultAs, rest⟩ := ok_of_bind rest
              have discharges : resultIsExact dir.paths.handle acceptance result = true := by
                simpa using Except.ok.inj rest
              exact .root result registration resultAs discharges
        · next parent registration =>
          split at retains
          · next named => exact .nested parent registration named retains
          · cases retains
      · cases rest

omit [Codec] in
theorem recordOver {dir : StateDirectory} {config : ReapConfig} {record : Meta}
    {table : ProcessTable} {boot : String}
    (eligible : recordIsEligible dir config record table boot = true) :
    physicalCustodyMayRemain dir boot = false ∧ RecordOver dir config record table boot := by
  unfold recordIsEligible at eligible
  split at eligible
  · cases eligible
  · next custody =>
    split at eligible
    · cases eligible
    · next supervisor =>
      split at eligible
      · cases eligible
      · next young =>
        have gone : record.supervisorPid = none ∨
            (record.supervisorEvidence table boot).conclusive = true := by
          cases recorded : record.supervisorPid with
          | none => exact .inl rfl
          | some pid =>
              refine .inr ?_
              simpa [supervisorMayRemain, recorded, processIsGoneOrReused,
                Meta.supervisorEvidence] using supervisor
        refine ⟨by simpa using custody, gone, by omega, ?_⟩
        split at eligible
        · next settled =>
          simp only [metaIsReapTerminal, Bool.and_eq_true, Bool.not_eq_true'] at settled
          exact .inl ⟨by simpa [terminal] using settled.1, settled.2, by simpa using eligible⟩
        · simp only [Bool.and_eq_true, beq_iff_eq, metaProcessesAreGoneOrReused,
            processIsGoneOrReused] at eligible
          exact .inr ⟨eligible.1, eligible.2.1, eligible.2.2⟩

theorem releaseOver {dir : StateDirectory} {creates : Bool}
    (release : retentionWithheld dir creates = false) :
    dir.entry SourceFile.registration = .absent ∨ retentionReleased dir creates = .ok true := by
  unfold retentionWithheld at release
  rw [Bool.and_eq_false_iff] at release
  rcases release with legacy | released
  · refine .inl ?_
    cases stands : dir.entry SourceFile.registration <;> simp_all [Node.notFound]
  · refine .inr ?_
    split at released
    · next answer answeredAs =>
      rw [answeredAs]
      exact congrArg Except.ok (by simpa using released)
    · cases released

theorem removable_of_attempted {locks : ReapLocks} {dir : StateDirectory} {config : ReapConfig}
    {table : ProcessTable} {boot : String} {creates : Bool} {removal : Except IoError Unit}
    (attempted : (reapStateEntry locks dir config table boot creates removal).attempted) :
    Removable locks dir config table boot := by
  unfold reapStateEntry at attempted
  split at attempted
  · cases attempted
  · cases attempted
  · next delivery =>
    split at attempted
    · cases attempted
    · next custody =>
      split at attempted
      · cases attempted
      · cases attempted
      · next output =>
        split at attempted
        · next eligible =>
          obtain ⟨parent, release, pending, record, readAs, recordEligible⟩ :=
            eligible_iff.mp eligible
          obtain ⟨markers, cleared⟩ := recordOver recordEligible
          simp only [physicalCustodyMayRemain, Bool.or_eq_false_iff] at markers
          have released := (releaseOver release).imp_right exactRelease_of_released
          exact {
            delivery := delivery
            custody := custody
            output := output
            acceptance := acceptanceOver parent pending
            release := released
            physicalCustody := custodyOver_of_not_remain markers.1
            externalCustody := custodyOver_of_not_remain markers.2
            record := ⟨record, readAs, cleared⟩ }
        · cases attempted

end Removal

section Malformed

namespace StateDirectory

def without (dir : StateDirectory) (name : String) : StateDirectory :=
  { dir with entry := fun other => if other = name then .absent else dir.entry other }

theorem without_entry {dir : StateDirectory} {name other : String} (kept : other ≠ name) :
    (dir.without name).entry other = dir.entry other := by
  simp only [without, if_neg kept]

theorem without_self (dir : StateDirectory) (name : String) :
    (dir.without name).entry name = .absent := by
  simp only [without, if_true]

theorem without_absent {dir : StateDirectory} {name : String} (absent : dir.entry name = .absent) :
    dir.without name = dir := by
  have same : (dir.without name).entry = dir.entry := by
    funext other
    by_cases removed : other = name
    · rw [removed, without_self, absent]
    · exact without_entry removed
  cases dir
  simp only [without] at same ⊢
  rw [same]

end StateDirectory

/-- Every entry that the reaper takes as evidence. -/
inductive Evidence
  | acceptance | result | record | physicalCustody | externalCustody | registration | receipt
  | snapshot | outcome | output | release
  deriving DecidableEq, Repr

def Evidence.name : Evidence → String
  | .acceptance => EvidenceFile.accepted
  | .result => EvidenceFile.result
  | .record => EvidenceFile.metaJson
  | .physicalCustody => EvidenceFile.physicalCustody
  | .externalCustody => EvidenceFile.externalTransferCustody
  | .registration => SourceFile.registration
  | .receipt => SourceFile.brokerRetentionRelease
  | .snapshot => SourceFile.snapshot
  | .outcome => SourceFile.outcome
  | .output => SourceFile.output
  | .release => SourceFile.retentionRelease

variable [Codec]

/-- A readable file of the right type that says what such a file has to say. -/
def Evidence.WellFormed (evidence : Evidence) (node : Node) : Prop :=
  match evidence with
  | .acceptance => ∃ value registration, node.value = .ok value ∧
      ReapRegistration.ofValue value = some registration
  | .result | .registration | .snapshot | .outcome | .release => ∃ value, node.value = .ok value
  | .record => ∃ file record, node.openNoFollow = .ok (some file) ∧
      Codec.parseMeta file.bytes = some record
  | .physicalCustody | .externalCustody => ∃ file recorded, node.read = .ok file ∧
      readUtf8 file.bytes = some recorded ∧ validBootId recorded
  | .receipt => ∃ file value, node.openNoFollow = .ok (some file) ∧
      Codec.parse file.bytes = some value
  | .output => ∃ file, node.openNoFollow = .ok (some file)

variable {dir : StateDirectory} {config : ReapConfig} {record : Meta} {table : ProcessTable}
  {boot name : String} {creates : Bool}

theorem causalParentRetains_without (kept : EvidenceFile.accepted ≠ name) :
    causalParentRetains (dir.without name) = causalParentRetains dir := by
  unfold causalParentRetains
  rw [StateDirectory.without_entry kept]
  rfl

theorem acceptedRootResultPending_without (acceptance : EvidenceFile.accepted ≠ name)
    (result : EvidenceFile.result ≠ name) :
    acceptedRootResultPending (dir.without name) = acceptedRootResultPending dir := by
  unfold acceptedRootResultPending
  rw [StateDirectory.without_entry acceptance, StateDirectory.without_entry result]
  rfl

theorem readMeta_without (kept : EvidenceFile.metaJson ≠ name) :
    (dir.without name).readMeta = dir.readMeta := by
  unfold StateDirectory.readMeta
  rw [StateDirectory.without_entry kept]

omit [Codec] in
theorem recordIsEligible_without (physical : EvidenceFile.physicalCustody ≠ name)
    (external : EvidenceFile.externalTransferCustody ≠ name) :
    recordIsEligible (dir.without name) config record table boot =
      recordIsEligible dir config record table boot := by
  unfold recordIsEligible physicalCustodyMayRemain
  rw [StateDirectory.without_entry physical, StateDirectory.without_entry external]
  rfl

theorem sourceStampMatches_without {relative : String} {stamp : Value} {owner : Nat}
    (kept : relative ≠ name) :
    sourceStampMatches (dir.without name) relative stamp owner =
      sourceStampMatches dir relative stamp owner := by
  unfold sourceStampMatches
  rw [StateDirectory.without_entry kept]

theorem filesMatch_without {receipt : Value} {files : List (String × String)}
    (kept : ∀ relative field, (relative, field) ∈ files → relative ≠ name) :
    filesMatch (dir.without name) receipt files = filesMatch dir receipt files := by
  induction files with
  | nil => rfl
  | cons head rest ih =>
      have remaining := ih fun relative field member =>
        kept relative field (List.mem_cons_of_mem head member)
      unfold filesMatch
      rw [remaining]
      have first := kept head.1 head.2 (List.mem_cons_self)
      rw [sourceStampMatches_without first]
      rfl

/-- Nothing but the files of the source and the receipt decides about a release. -/
theorem retentionReleased_without
    (kept : ∀ file ∈ [SourceFile.registration, SourceFile.outcome, SourceFile.snapshot,
      SourceFile.output, SourceFile.retentionRelease, SourceFile.brokerRetentionRelease],
      file ≠ name) :
    retentionReleased (dir.without name) creates = retentionReleased dir creates := by
  have bindings : binding (dir.without name) = binding dir := by
    unfold binding
    rw [StateDirectory.without_entry (kept _ (by simp))]
    rfl
  have receipts : rootReceipt (dir.without name) = rootReceipt dir := by
    unfold rootReceipt
    rw [StateDirectory.without_entry (kept _ (by simp))]
  have stamps (receipt : Value) :
      filesMatch (dir.without name) receipt stampedFiles = filesMatch dir receipt stampedFiles := by
    apply filesMatch_without
    intro relative field member
    apply kept
    simp only [stampedFiles, List.mem_cons, Prod.mk.injEq] at member
    rcases member with ⟨rfl, _⟩ | ⟨rfl, _⟩ | ⟨rfl, _⟩ | none
    · simp
    · simp
    · simp
    · cases none
  have events (identity receipt : Value) :
      eventMatches (dir.without name) identity receipt = eventMatches dir identity receipt := by
    unfold eventMatches
    rw [StateDirectory.without_entry (kept SourceFile.snapshot (by simp)),
      StateDirectory.without_entry (kept SourceFile.outcome (by simp)),
      sourceStampMatches_without (kept SourceFile.output (by simp))]
    rfl
  have records (release : Value) :
      recordRelease (dir.without name) release creates = recordRelease dir release creates := by
    unfold recordRelease
    rw [StateDirectory.without_entry (kept _ (by simp))]
  unfold retentionReleased
  simp only [bindings, receipts, stamps, events, records]
  rfl

theorem without_other
    (acceptance : EvidenceFile.accepted ≠ name) (result : EvidenceFile.result ≠ name)
    (metaJson : EvidenceFile.metaJson ≠ name) (physical : EvidenceFile.physicalCustody ≠ name)
    (external : EvidenceFile.externalTransferCustody ≠ name)
    (withheld : retentionWithheld (dir.without name) creates = retentionWithheld dir creates) :
    stateDirReapEligible (dir.without name) config table boot creates =
      stateDirReapEligible dir config table boot creates := by
  unfold stateDirReapEligible
  rw [causalParentRetains_without acceptance, acceptedRootResultPending_without acceptance result,
    readMeta_without metaJson, withheld]
  simp only [recordIsEligible_without physical external]

/-- A legacy handle has no release to withhold, whatever else lies in its directory. -/
theorem retentionWithheld_legacy (legacy : dir.entry SourceFile.registration = .absent) :
    retentionWithheld dir creates = false := by
  simp only [retentionWithheld, legacy, Node.notFound, Bool.not_true, Bool.false_and]

theorem retentionWithheld_without
    (kept : ∀ file ∈ [SourceFile.registration, SourceFile.outcome, SourceFile.snapshot,
      SourceFile.output, SourceFile.retentionRelease, SourceFile.brokerRetentionRelease],
      file ≠ name) :
    retentionWithheld (dir.without name) creates = retentionWithheld dir creates := by
  unfold retentionWithheld
  rw [retentionReleased_without kept, StateDirectory.without_entry (kept _ (by simp))]

theorem recordRelease_ok {release : Value}
    (recorded : recordRelease dir release creates = .ok true) :
    (∃ value, (dir.entry SourceFile.retentionRelease).value = .ok value) ∨
      dir.entry SourceFile.retentionRelease = .absent := by
  obtain ⟨stored, storedAs, rest⟩ := ok_of_bind recorded
  unfold storedRelease at storedAs
  split at storedAs
  · next missing =>
    refine .inr ?_
    cases stands : dir.entry SourceFile.retentionRelease <;>
      simp_all [Node.notFound]
  · refine .inl ?_
    obtain ⟨file, stands, readable, sameBytes, _⟩ := Node.regular_of_readBounded storedAs
    split at rest
    · obtain ⟨published, publishedAs, _⟩ := ok_of_bind rest
      obtain ⟨bytes, bounded, parses⟩ := Node.value_ok publishedAs
      have read : (dir.entry SourceFile.retentionRelease).readBounded maxSource = .ok bytes := by
        rw [stands]
        simp only [Node.readBounded, Node.openNoFollow_regular readable, sameBytes]
        exact bounded
      exact ⟨published, by simp only [Node.value, read, parses]⟩
    · cases rest

theorem registration_value {registration identity : Value}
    (bound : binding dir = .ok (registration, identity)) :
    ∃ value, (dir.entry SourceFile.registration).value = .ok value := by
  obtain ⟨data, dataAs, rest⟩ := ok_of_bind bound
  obtain ⟨value, parses, _⟩ := ok_of_bind rest
  exact ⟨value, by simp only [Node.value, dataAs, some_of_elim parses]⟩

/-- The entries that only a release looks at. -/
def Evidence.ofRelease : Evidence → Bool
  | .receipt | .snapshot | .outcome | .output | .release => true
  | _ => false

theorem Evidence.wellFormed_of_release {evidence : Evidence} {registration identity receipt : Value}
    {file : RegularFile} (source : evidence.ofRelease)
    (released : ExactRelease dir registration identity receipt file) :
    evidence.WellFormed (dir.entry evidence.name) ∨ dir.entry evidence.name = .absent := by
  cases evidence with
  | receipt =>
      refine .inl ⟨file, receipt, ?_, released.root.parses⟩
      rw [Evidence.name, released.root.stands]
      exact Node.openNoFollow_regular released.root.readable
  | snapshot =>
      obtain ⟨snapshot, _, _, _, snapshotAs, _⟩ := released.event
      exact .inl ⟨snapshot, snapshotAs⟩
  | outcome =>
      obtain ⟨_, outcome, _, _, _, outcomeAs, _⟩ := released.event
      exact .inl ⟨outcome, outcomeAs⟩
  | output =>
      obtain ⟨output, stamped⟩ := released.output
      refine .inl ⟨output, ?_⟩
      rw [Evidence.name, stamped.stands]
      exact Node.openNoFollow_regular stamped.readable
  | release =>
      obtain ⟨creates, recorded⟩ := released.recorded
      exact recordRelease_ok recorded
  | acceptance => cases source
  | result => cases source
  | record => cases source
  | physicalCustody => cases source
  | externalCustody => cases source
  | registration => cases source

theorem eligible_without_source {evidence : Evidence} (source : evidence.ofRelease)
    (unusable : ¬ evidence.WellFormed (dir.entry evidence.name))
    (eligible : stateDirReapEligible dir config table boot creates = true) :
    stateDirReapEligible (dir.without evidence.name) config table boot creates = true := by
  obtain ⟨_, release, _⟩ := eligible_iff.mp eligible
  rcases releaseOver release with legacy | released
  · have registration : SourceFile.registration ≠ evidence.name := by
      cases evidence <;> first | cases source; done | decide
    have withheld : retentionWithheld (dir.without evidence.name) creates =
        retentionWithheld dir creates := by
      rw [retentionWithheld_legacy legacy]
      apply retentionWithheld_legacy
      rwa [StateDirectory.without_entry registration]
    have same : stateDirReapEligible (dir.without evidence.name) config table boot creates =
        stateDirReapEligible dir config table boot creates := by
      cases evidence <;> first
        | cases source; done
        | exact without_other (by decide) (by decide) (by decide) (by decide) (by decide) withheld
    rw [same]
    exact eligible
  · obtain ⟨_, _, _, _, exactly⟩ := exactRelease_of_released released
    rcases evidence.wellFormed_of_release source exactly with usable | absent
    · exact absurd usable unusable
    · rw [StateDirectory.without_absent absent]
      exact eligible

theorem eligible_without_registration
    (unusable : ¬ Evidence.registration.WellFormed (dir.entry SourceFile.registration))
    (eligible : stateDirReapEligible dir config table boot creates = true) :
    stateDirReapEligible (dir.without SourceFile.registration) config table boot creates := by
  obtain ⟨_, release, _⟩ := eligible_iff.mp eligible
  rcases releaseOver release with legacy | released
  · rw [StateDirectory.without_absent legacy]
    exact eligible
  · obtain ⟨registration, identity, _, _, exactly⟩ := exactRelease_of_released released
    exact absurd (registration_value exactly.bound) unusable

theorem pending_of_nested {acceptance : Value} {parent : String}
    (acceptanceAs : (dir.entry EvidenceFile.accepted).value = .ok acceptance)
    (exactly : acceptanceIsExact dir.paths.handle acceptance)
    (nested : ReapRegistration.ofValue acceptance = some (.nested parent)) :
    acceptedRootResultPending dir = .ok false := by
  obtain ⟨bytes, bounded, _⟩ := Node.value_ok acceptanceAs
  obtain ⟨file, stands, _⟩ := Node.regular_of_readBounded bounded
  have present : (dir.entry EvidenceFile.accepted).tryExists = .ok true := by
    rw [stands]
    rfl
  have other : (((acceptance.get "registration").get "kind") == .string "root") = false := by
    rw [kind_of_nested nested]
    decide
  simp only [acceptedRootResultPending, present, acceptanceAs, exactly, other, bind, Except.bind,
    if_true, Bool.false_eq_true, if_false]

theorem eligible_without_acceptance
    (unusable : ¬ Evidence.acceptance.WellFormed (dir.entry EvidenceFile.accepted))
    (eligible : stateDirReapEligible dir config table boot creates = true) :
    stateDirReapEligible (dir.without EvidenceFile.accepted) config table boot creates := by
  obtain ⟨parent, release, pending, record, readAs, cleared⟩ := eligible_iff.mp eligible
  rcases acceptanceOver parent pending with missing | ⟨acceptance, acceptanceAs, _, settled⟩
  · apply eligible_iff.mpr
    have removed := dir.without_self EvidenceFile.accepted
    refine ⟨?_, ?_, ?_, record, ?_, ?_⟩
    · unfold causalParentRetains
      rw [removed]
      rfl
    · rw [retentionWithheld_without (by decide)]
      exact release
    · unfold acceptedRootResultPending
      rw [removed]
      rfl
    · rw [readMeta_without (by decide)]
      exact readAs
    · rw [recordIsEligible_without (by decide) (by decide)]
      exact cleared
  · refine absurd ?_ unusable
    cases settled with
    | root result registration _ _ => exact ⟨acceptance, _, acceptanceAs, registration⟩
    | nested parent registration _ _ => exact ⟨acceptance, _, acceptanceAs, registration⟩

theorem eligible_without_result
    (unusable : ¬ Evidence.result.WellFormed (dir.entry EvidenceFile.result))
    (eligible : stateDirReapEligible dir config table boot creates = true) :
    stateDirReapEligible (dir.without EvidenceFile.result) config table boot creates := by
  obtain ⟨parent, release, pending, record, readAs, cleared⟩ := eligible_iff.mp eligible
  have accepted : (dir.without EvidenceFile.result).entry EvidenceFile.accepted =
      dir.entry EvidenceFile.accepted := StateDirectory.without_entry (by decide)
  have stillOver : acceptedRootResultPending (dir.without EvidenceFile.result) = .ok false := by
    rcases acceptanceOver parent pending with missing | ⟨acceptance, acceptanceAs, exactly, settled⟩
    · simp only [acceptedRootResultPending, accepted, missing, bind, Except.bind,
        Bool.false_eq_true, if_false]
    · cases settled with
      | root result _ resultAs _ => exact absurd ⟨result, resultAs⟩ unusable
      | nested parent nested _ _ =>
          rw [← accepted] at acceptanceAs
          exact pending_of_nested acceptanceAs exactly nested
  apply eligible_iff.mpr
  refine ⟨?_, ?_, stillOver, record, ?_, ?_⟩
  · rw [causalParentRetains_without (by decide)]
    exact parent
  · rw [retentionWithheld_without (by decide)]
    exact release
  · rw [readMeta_without (by decide)]
    exact readAs
  · rw [recordIsEligible_without (by decide) (by decide)]
    exact cleared

theorem eligible_without_record
    (unusable : ¬ Evidence.record.WellFormed (dir.entry EvidenceFile.metaJson))
    (eligible : stateDirReapEligible dir config table boot creates = true) : False := by
  obtain ⟨_, _, _, record, readAs, _⟩ := eligible_iff.mp eligible
  apply unusable
  unfold StateDirectory.readMeta at readAs
  split at readAs
  · cases readAs
  · cases readAs
  · next file opened =>
    split at readAs
    · next found parses => exact ⟨file, found, opened, parses⟩
    · cases readAs

theorem eligible_without_custody {evidence : Evidence}
    (custody : evidence = .physicalCustody ∨ evidence = .externalCustody)
    (eligible : stateDirReapEligible dir config table boot creates = true) :
    stateDirReapEligible (dir.without evidence.name) config table boot creates := by
  obtain ⟨parent, release, pending, record, readAs, cleared⟩ := eligible_iff.mp eligible
  have markers := (recordOver cleared).1
  simp only [physicalCustodyMayRemain, Bool.or_eq_false_iff] at markers
  have absent : custodyMayRemain .absent boot = false := rfl
  have stillOver : recordIsEligible (dir.without evidence.name) config record table boot = true := by
    have unchanged : physicalCustodyMayRemain (dir.without evidence.name) boot =
        physicalCustodyMayRemain dir boot := by
      unfold physicalCustodyMayRemain
      rw [markers.1, markers.2]
      rcases custody with rfl | rfl
      · have external : (dir.without EvidenceFile.physicalCustody).entry
            EvidenceFile.externalTransferCustody =
              dir.entry EvidenceFile.externalTransferCustody :=
          StateDirectory.without_entry (by decide)
        rw [Evidence.name, dir.without_self, absent, external, markers.2]
      · have physical : (dir.without EvidenceFile.externalTransferCustody).entry
            EvidenceFile.physicalCustody = dir.entry EvidenceFile.physicalCustody :=
          StateDirectory.without_entry (by decide)
        rw [Evidence.name, dir.without_self, absent, physical, markers.1]
    unfold recordIsEligible at cleared ⊢
    rw [unchanged]
    exact cleared
  apply eligible_iff.mpr
  rcases custody with rfl | rfl
  all_goals
    refine ⟨?_, ?_, ?_, record, ?_, stillOver⟩
    · rw [causalParentRetains_without (by decide)]
      exact parent
    · rw [retentionWithheld_without (by decide)]
      exact release
    · rw [acceptedRootResultPending_without (by decide) (by decide)]
      exact pending
    · rw [readMeta_without (by decide)]
      exact readAs

/-- Evidence that cannot be used never makes a directory eligible. -/
theorem eligible_without {evidence : Evidence}
    (unusable : ¬ evidence.WellFormed (dir.entry evidence.name))
    (eligible : stateDirReapEligible dir config table boot creates = true) :
    stateDirReapEligible (dir.without evidence.name) config table boot creates := by
  cases evidence with
  | acceptance => exact eligible_without_acceptance unusable eligible
  | result => exact eligible_without_result unusable eligible
  | record => exact (eligible_without_record unusable eligible).elim
  | physicalCustody => exact eligible_without_custody (.inl rfl) eligible
  | externalCustody => exact eligible_without_custody (.inr rfl) eligible
  | registration => exact eligible_without_registration unusable eligible
  | receipt => exact eligible_without_source rfl unusable eligible
  | snapshot => exact eligible_without_source rfl unusable eligible
  | outcome => exact eligible_without_source rfl unusable eligible
  | output => exact eligible_without_source rfl unusable eligible
  | release => exact eligible_without_source rfl unusable eligible

/-- A directory goes only with all three locks, every veto cleared and nobody left, and what
cannot be read never clears a veto that an empty path would not have cleared. -/
theorem reaper_fails_closed (locks : ReapLocks) (dir : StateDirectory) (config : ReapConfig)
    (table : ProcessTable) (boot : String) (creates : Bool) (removal : Except IoError Unit) :
    ((reapStateEntry locks dir config table boot creates removal).attempted →
      Removable locks dir config table boot) ∧
    ∀ evidence : Evidence, ¬ evidence.WellFormed (dir.entry evidence.name) →
      stateDirReapEligible dir config table boot creates →
        stateDirReapEligible (dir.without evidence.name) config table boot creates :=
  ⟨removable_of_attempted, fun _ unusable eligible => eligible_without unusable eligible⟩

end Malformed

section Settled

/-- A codec that knows one record and no JSON. -/
@[reducible] def settledCodec : Codec where
  parse _ := none
  encode _ := []
  parseMeta bytes :=
    if bytes = [1] then
      some { state := .done, completedAt := some 5, updatedAt := 5,
             delivery := { attempted := true } }
    else none
  sha256 _ := ""

/-- A settled legacy handle, with something that is no file where a receipt would be. -/
def settledDirectory : StateDirectory where
  paths := ⟨"/state", "/state/ab_1", "ab_1"⟩
  entry name :=
    if name = EvidenceFile.metaJson then .regular { bytes := [1] }
    else if name = SourceFile.brokerRetentionRelease then .special
    else .absent
  sibling _ := .absent

def heldLocks : ReapLocks := ⟨.ok true, .ok (), .ok true⟩

theorem reaper_fails_closed_settled :
    letI := settledCodec
    reapStateEntry heldLocks settledDirectory ⟨1, 5000⟩ (fun _ => .notFound) "boot" true (.ok ()) =
        .removed ∧
      Removable heldLocks settledDirectory ⟨1, 5000⟩ (fun _ => .notFound) "boot" ∧
      stateDirReapEligible (settledDirectory.without SourceFile.brokerRetentionRelease) ⟨1, 5000⟩
        (fun _ => .notFound) "boot" true := by
  let _ := settledCodec
  obtain ⟨cleared, ignored⟩ := reaper_fails_closed heldLocks settledDirectory ⟨1, 5000⟩
    (fun _ => .notFound) "boot" true (.ok ())
  refine ⟨by decide, cleared (by decide), ignored .receipt ?_ (by decide)⟩
  rintro ⟨file, value, opened, _⟩
  cases opened

end Settled

end AgentBash
