import AgentBash.Custody.Fence
import AgentBash.Durable.Keeping

/-!
# The publication of an observed event

`select_observed_event`, `retain_event`, the output hasher, `advance_publication`, `publish` and
`finish_snapshot` of `continuation.rs`. The event is retained with the selection of its output; the
header is a projection of it, the bundle is made of the header and the output's descriptor, and the
two published files are taken from the bundle.
-/

namespace AgentBash

set_option autoImplicit false

open Durable

namespace SourceCustody

/-- What a live observer saw, or the recovery that found a revoked fence. -/
inductive EventKind
  | live (kind : SourceEventKind)
  | neverLaunched
  deriving DecidableEq, Repr

def EventKind.text : EventKind → String
  | .live .ready => "ready"
  | .live .cancelled => "cancelled"
  | .live .exitRoot => "exit_root"
  | .live .exitTree => "exit_tree"
  | .live .ceasedStatusUnknown => "ceased_status_unknown"
  | .neverLaunched => "never_launched"

structure SourceObservation where
  kind : EventKind
  rootWaitStatus : Option Int
  treeDrained : Bool
  outputClosed : Bool
  readySentinel : Option String
  outputTrusted : Bool
  deriving DecidableEq

/-- `json!` of an optional value. -/
def optionalValue {α : Type} (render : α → Value) : Option α → Value
  | some content => render content
  | none => .null

variable [Codec] (site : Site)

section Cancellation

def markerExists (file : BesideFile) : CustodyScript Bool := ask (.markerExists file)

def readBeside (file : BesideFile) : CustodyScript Bytes := ask (.readBeside file)

def parsed (data : Bytes) : CustodyScript Value := required "malformed JSON" (Codec.parse data)

/-- The accepted work of the root that a cancellation without a request goes back to. -/
structure AcceptedWork where
  accepted : Bytes
  acceptedValue : Value
  intentValue : Value

def workProtocol : String := "original-work-v1"

def acceptedWork : CustodyScript AcceptedWork := do
  let intent ← readBeside .rootWorkIntent
  let accepted ← readBeside .rootWorkAccepted
  let intentValue ← parsed intent
  let acceptedValue ← parsed accepted
  if intentValue.get "protocol" = .string workProtocol ∧
      acceptedValue.get "protocol" = .string workProtocol ∧
      intentValue.get "work_id" = .string site.paths.handle ∧
      acceptedValue.get "work_id" = .string site.paths.handle ∧
      intentValue.get "root_id" = acceptedValue.get "root_id" ∧
      acceptedValue.get "request_sha256" = .string (Codec.sha256 intent) then
    pure ⟨accepted, acceptedValue, intentValue⟩
  else fail "paired cancellation acceptance identity conflict"

def workReceipt (receipt : Value) (work : AcceptedWork) : Value :=
  (receipt.set "accepted_work_sha256" (.string (Codec.sha256 work.accepted))).set "root_id"
    (work.acceptedValue.get "root_id")

def causalReceipt (receipt : Value) : CustodyScript Value := do
  let work ← acceptedWork site
  let causal ← readBeside .rootWorkCancel
  let causalValue ← parsed causal
  if causalValue.get "protocol" = .string workProtocol ∧
      causalValue.get "work_id" = .string site.paths.handle ∧
      causalValue.get "root_id" = work.acceptedValue.get "root_id" ∧
      causalValue.get "cause" = .string "causal_parent_cancelled" ∧
      causalValue.get "requester" = .null then
    pure (((workReceipt receipt work).set "basis" (.string "root_causal_receipt")).set
      "root_cancel_sha256" (.string (Codec.sha256 causal)))
  else fail "causal cancellation receipt identity conflict"

def rootLossReceipt (receipt : Value) : CustodyScript Value := do
  let work ← acceptedWork site
  pure (((workReceipt receipt work).set "basis" (.string "paired_worker_root_loss_observation")).set
    "guardian_identity" (work.intentValue.get "guardian_identity"))

/-- What a cancellation goes back to: a request, the owner's lease, or the root's own receipt. -/
def cancellationReceipt (record : SourceMeta) (receipt : Value) : CustodyScript Value := do
  if ← markerExists .acceptedCancel then do
    let request ← readBeside .acceptedCancel
    pure ((receipt.set "basis" (.string "explicit_request")).set "request_sha256"
      (.string (Codec.sha256 request)))
  else
    match record.completionReason, record.cancelOwner with
    | some .ownerExit, some owner =>
        pure ((receipt.set "basis" (.string "registered_owner_lease")).set "owner_identity"
          owner.value)
    | some .causalParentCancelled, _ => causalReceipt site receipt
    | some .rootAuthorityLost, _ => rootLossReceipt site receipt
    | _, _ => fail "missing accepted cancellation basis"

def cancellationIdentity (record : SourceMeta) : CustodyScript String := do
  let (_, identity) ← binding site
  let receipt ← cancellationReceipt site record identity
  immutable .sourceCancellation receipt
  pure (Codec.sha256 (Codec.encode receipt))

end Cancellation

section Selection

def outcomeIdentityKeys : List String :=
  ["protocol", "domain_id", "source_id", "handle", "registration_id", "registration_digest",
    "completion_revision"]

def outcomeIdentity (outcome : Value) : Value :=
  outcomeIdentityKeys.foldl (fun identity key => identity.set key (outcome.get key)) .empty

/-- The event as its observer describes it. -/
def outcomeValue (identity fence : Value) (observation : SourceObservation)
    (observer : CallerChainEntry) (cancellation : Value) : Value :=
  [("completion_revision", .number 1), ("launch_fence_revision", fence.get "revision"),
    ("kind", .string observation.kind.text),
    ("root_wait_status", optionalValue .number observation.rootWaitStatus),
    ("original_tree_drained", .bool observation.treeDrained),
    ("output_closed", .bool observation.outputClosed), ("observer", observer.value),
    ("ready_sentinel", optionalValue .string observation.readySentinel),
    ("cancellation_id", cancellation)].foldl
      (fun outcome (key, assigned) => outcome.set key assigned) identity

def eventStatus : EventKind → String
  | .live .ready => "ready"
  | .neverLaunched | .live .ceasedStatusUnknown | .live .cancelled => "error"
  | .live .exitRoot | .live .exitTree => "completed"

def snapshotValue (outcome : Value) (record : SourceMeta) (kind : EventKind) : Value :=
  ((outcomeIdentity outcome).set "rc" (optionalValue .number record.rc)).set "status"
    (.string (eventStatus kind))

def stagedEvent (outcome snapshot : Value) : Value :=
  .object [("outcome", outcome), ("snapshot", snapshot)]

def PinnedLog.value (log : PinnedLog) : Value :=
  .object [("byte_len", .number log.byteLen), ("device", .number log.device),
    ("inode", .number log.inode), ("link_count", .number log.linkCount)]

def missingSelection (detail : String) : Value := .object [("missing", .string detail)]

/-- A failed selection is explicit missing evidence, not permission to resample. -/
def selectionBase (outputTrusted : Bool) : CustodyScript Value := do
  if outputTrusted then do
    match ← (ask .pinOutput).attempt with
    | .ok log => pure (PinnedLog.value log)
    | .error error => pure (missingSelection error.detail)
  else pure (missingSelection "output capture incomplete or unverified")

def selectionValue (base staged : Value) (device inode : Nat) : Value :=
  (base.set "observation" staged).set "directory"
    (.object [("device", .number device), ("inode", .number inode)])

def selectEventOutput (staged : Value) (outputTrusted : Bool) : CustodyScript Unit := do
  if ← enabled then do
    if ← tryExists .selection then pure ()
    else do
      let directory : Nat × Nat ← ask .directoryMetadata
      let base ← selectionBase outputTrusted
      immutable .selection (selectionValue base staged directory.1 directory.2)
  else pure ()

def observedEvent (record : SourceMeta) (observation : SourceObservation) :
    CustodyScript Value := do
  let (_, identity) ← binding site
  let fence ← readFence identity
  if observation.kind = .live .cancelled then do
    if observation.treeDrained ∧ observation.outputClosed then do
      let observer : CallerChainEntry ← ask .identity
      let cancellation ← cancellationIdentity site record
      let outcome := outcomeValue identity fence observation observer (.string cancellation)
      pure (stagedEvent outcome (snapshotValue outcome record observation.kind))
    else fail "cancellation observation requires original drain and output close"
  else do
    let observer : CallerChainEntry ← ask .identity
    let outcome := outcomeValue identity fence observation observer .null
    pure (stagedEvent outcome (snapshotValue outcome record observation.kind))

def selectObservedEvent (record : SourceMeta) (observation : SourceObservation) :
    CustodyScript Unit := do
  if ← enabled then do
    if ← tryExists .observation then pure ()
    else do
      if ← tryExists .selection then pure ()
      else do
        let staged ← observedEvent site record observation
        selectEventOutput staged observation.outputTrusted
  else pure ()

def restoreStaged (staged : Value) : CustodyScript Unit := do
  let (_, identity) ← binding site
  Io.ofExcept (exact identity (staged.get "outcome"))
  Io.ofExcept (exact identity (staged.get "snapshot"))
  immutable .observation staged

/-- The header is taken from the selection, never from a later observer. -/
def restoreSelectedEvent : CustodyScript Unit := do
  let selection : Value ← value .selection
  let staged ← required "original selection has no retained event; cannot relabel"
    (selection.field? "observation")
  restoreStaged site staged

def retainEvent (record : SourceMeta) (observation : SourceObservation) : CustodyScript Unit := do
  selectObservedEvent site record observation
  if ← tryExists .observation then pure () else restoreSelectedEvent site

end Selection

section Capture

/-- The caller holds the capture lease. -/
def freeze : CustodyScript Unit := do
  if ← tryExists .output then pure ()
  else do
    if ← tryExists .missingOutput then fail "original output already adjudicated missing"
    else do
      let bytes : Bytes ← ask .capture
      createFile .output bytes
      syncAll

def wouldBlock : IoError := ⟨.wouldBlock, "Resource temporarily unavailable"⟩

def freezeOutput : CustodyScript Unit := tryLocked .sourceCapture (Io.throw wouldBlock) freeze

def missingDetail : String :=
  "Exact original observer is gone. Original selection record and same source directory were " ++
    "inspected; no complete body or in-progress copy survives. Managed retained inode inventory " ++
    "establishes selection loss; later log bytes were not substituted."

def missingProof (outcome : Value) (producer observer : CallerChainEntry)
    (found : LossInventory) : Value :=
  .object [("representation", .string "missing-original-output-v1"),
    ("capture_state", .string "irrecoverable"), ("reason", .string found.reason),
    ("detail", .string missingDetail), ("producer", producer.value),
    ("original_observer", observer.value),
    ("completion_revision", outcome.get "completion_revision"),
    ("outcome_sha256", .string (Codec.sha256 (Codec.encode outcome))),
    ("selection", found.selected), ("observed_byte_len", found.observed)]

def attestFound (staged : Value) (observer : CallerChainEntry) :
    Option LossInventory → CustodyScript (Option Value)
  | none => pure none
  | some found => do
      syncAll
      let producer : CallerChainEntry ← ask .identity
      let proof := missingProof (staged.get "outcome") producer observer found
      immutable .missingOutput proof
      pure (some proof)

/-- The loss is attested by a successor of an observer that is gone, and only where the inventory
of the managed storage, which finds the output where it stands, shows it. -/
def attestLoss (staged : Value) (observer : CallerChainEntry) : CustodyScript (Option Value) := do
  let evidence : ProcessIdentityEvidence ← ask (.processIdentityEvidence observer)
  if evidence.conclusive then do
    let _selection ← value .selection
    if ← tryExists .output then pure none
    else do
      let inventory : Option LossInventory ← ask .loss
      attestFound staged observer inventory
  else pure none

def observeMissing : CustodyScript (Option Value) := do
  if ← tryExists .missingOutput then do
    let proof ← value .missingOutput
    pure (some proof)
  else do
    let staged : Value ← value .observation
    match CallerChainEntry.ofValue ((staged.get "outcome").get "observer") with
    | none => pure none
    | some observer => attestLoss staged observer

end Capture

section Finish

/-- The two published files, made of the retained event and what became of the output. -/
def bundledOutcome (staged : Value) : Bytes := Codec.encode (staged.get "outcome")

def describedSnapshot (staged descriptor : Value) : Value :=
  let snapshot := staged.get "snapshot"
  let snapshot :=
    if descriptor.get "representation" = .string "missing-original-output-v1" then
      snapshot.set "status" (.string "original_output_unavailable")
    else snapshot
  ((snapshot.set "output" descriptor).set "outcome_sha256"
    (.string (Codec.sha256 (bundledOutcome staged)))).set "outcome_byte_len"
      (.number (bundledOutcome staged).length)

def bundleOf (staged descriptor : Value) : SourceBundle where
  outcome := bundledOutcome staged
  snapshot := Codec.encode (describedSnapshot staged descriptor)

def finishBundle (bundle : SourceBundle) : CustodyScript Unit := do
  let snapshot ← parsed bundle.snapshot
  let outcome ← parsed bundle.outcome
  let (_, identity) ← binding site
  Io.ofExcept (exact identity snapshot)
  Io.ofExcept (exact identity outcome)
  if snapshot.get "outcome_sha256" = .string (Codec.sha256 bundle.outcome) ∧
      snapshot.get "outcome_byte_len" = .number bundle.outcome.length then do
    immutable .outcome bundle.outcome
    immutable .snapshot bundle.snapshot
  else fail "snapshot/outcome conflict"

def finishSnapshot : CustodyScript Unit := do
  let bundle : SourceBundle ← value .sourceBundle
  finishBundle site bundle

def finishStaged (staged descriptor : Value) : CustodyScript Unit := do
  let (_, identity) ← binding site
  Io.ofExcept (exact identity (staged.get "outcome"))
  Io.ofExcept (exact identity (staged.get "snapshot"))
  if (bundleOf staged descriptor).snapshot.length ≤ 16 * maxSource then do
    immutable .sourceBundle (bundleOf staged descriptor)
    finishSnapshot site
  else fail "full event snapshot exceeds paired bound; retained source needs disposition"

def finishObservationWithOutput (descriptor : Value) : CustodyScript Unit := do
  let staged : Value ← value .observation
  finishStaged site staged descriptor

end Finish

section Hashing

/-- `hashed` is what went into the digest so far; `count` is how far the file was read. -/
structure OutputHasher where
  expectedLen : Nat
  hashed : Bytes := []
  count : Nat := 0

/-- The work of a live observer that survives its errors. -/
structure Publication where
  hasher : Option OutputHasher := none
  descriptor : Option Value := none

def outputDescriptor (content : Bytes) : Value :=
  .object [("representation", .string "retained-output-v1"),
    ("relative", .string SourceFile.output.name), ("sha256", .string (Codec.sha256 content)),
    ("byte_len", .number content.length), ("encoding", .string "raw")]

def newHasher : CustodyScript OutputHasher := do
  let content ← readFile .output
  pure { expectedLen := List.length content }

/-- The end of the file: its length has not changed. -/
def finishHash (hasher : OutputHasher) : CustodyScript Value := do
  if hasher.count = hasher.expectedLen then do
    let content ← readFile .output
    if List.length content = hasher.count then pure (outputDescriptor hasher.hashed)
    else fail "output artifact length changed while hashing"
  else fail "output artifact length changed while hashing"

abbrev Hashing (α : Type) := Keeping (requests custodyLayout custodyOutside) OutputHasher α

/-- One read of at most 64 KiB; the count is advanced before it is checked. -/
def readBuffer : Hashing Nat := do
  let hasher ← Keeping.now
  let chunk : Bytes ← Keeping.lift (ask (.readOutput hasher.count))
  if chunk.length = 0 then pure 0
  else if hasher.count + chunk.length < 2 ^ 64 then do
    Keeping.modify fun hasher => { hasher with count := hasher.count + chunk.length }
    if hasher.expectedLen < hasher.count + chunk.length then
      Keeping.throw (.other "output artifact grew while hashing")
    else do
      Keeping.modify fun hasher => { hasher with hashed := hasher.hashed ++ chunk }
      pure chunk.length
  else Keeping.throw (.other "output artifact length overflow")

/-- One quantum of a MiB: nothing where the file goes on behind it. A read that is not the last one
brings a byte at least, so there are no more of them than bytes in a quantum. -/
def readQuantum : (fuel quantum : Nat) → Hashing (Option Value)
  | 0, _ => pure none
  | fuel + 1, quantum => do
      if 1024 * 1024 ≤ quantum then pure none
      else do
        let length ← readBuffer
        if length = 0 then do
          let hasher ← Keeping.now
          let descriptor ← Keeping.lift (finishHash hasher)
          pure (some descriptor)
        else readQuantum fuel (quantum + length)

def advanceHash : Hashing (Option Value) := readQuantum (1024 * 1024 + 1) 0

/-- `output_descriptor`: quanta until the end, as many as the file has. -/
def hashAll : Nat → Hashing Value
  | 0 => Keeping.throw (.other "output artifact length changed while hashing")
  | fuel + 1 => do
      match ← advanceHash with
      | some descriptor => pure descriptor
      | none => hashAll fuel

def wholeOutput : CustodyScript Value := do
  let hasher ← newHasher
  let (result, _) ← hashAll (hasher.expectedLen + 1) hasher
  Io.ofExcept result

def finishObservation : CustodyScript Unit := do
  let descriptor ← wholeOutput
  finishObservationWithOutput site descriptor

end Hashing

section Publish

def captureObservation (record : SourceMeta) (observation : SourceObservation) :
    CustodyScript Unit := do
  if ← enabled then do
    if ← tryExists .sourceBundle then finishSnapshot site
    else do
      retainEvent site record observation
      if ← tryExists .output then pure () else freezeOutput
  else pure ()

def publish (record : SourceMeta) (observation : SourceObservation) : CustodyScript Unit := do
  if ← enabled then do
    if ← tryExists .sourceBundle then finishSnapshot site
    else do
      captureObservation site record observation
      finishObservation site
  else pure ()

abbrev Progressing (α : Type) := Keeping (requests custodyLayout custodyOutside) Publication α

/-- The hasher of the progress, a new one where there is none. -/
def hasherOf (progress : Publication) : CustodyScript OutputHasher :=
  match progress.hasher with
  | some hasher => pure hasher
  | none => newHasher

/-- One quantum of the hasher; it is kept whatever it answers, until the descriptor is complete. -/
def advanceDescriptor : Progressing (Option Value) := do
  let progress ← Keeping.now
  match progress.descriptor with
  | some descriptor => pure (some descriptor)
  | none => do
      let hasher ← Keeping.lift (hasherOf progress)
      let (answer, hasher) ← Keeping.lift (advanceHash hasher)
      Keeping.modify fun progress => { progress with hasher := some hasher }
      match answer with
      | .error error => Keeping.throw error
      | .ok none => pure none
      | .ok (some descriptor) => do
          Keeping.modify fun _ => { hasher := none, descriptor := some descriptor }
          pure (some descriptor)

/-- Whether the publication is complete; each call yields after one quantum. -/
def advancePublication (record : SourceMeta) (observation : SourceObservation) :
    Progressing Bool := do
  if ← Keeping.lift enabled then do
    if ← Keeping.lift (tryExists .sourceBundle) then do
      Keeping.lift (finishSnapshot site)
      pure true
    else do
      Keeping.lift (captureObservation site record observation)
      match ← advanceDescriptor with
      | none => pure false
      | some descriptor => do
          Keeping.lift (finishObservationWithOutput site descriptor)
          pure true
  else pure true

end Publish

end SourceCustody

end AgentBash
