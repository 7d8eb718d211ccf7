import AgentBash.Retention.Evidence

/-!
# The release of a v2 source

`retention_released` validates a root-owned receipt against the registration, the release
decision it carries and the exact source files it names, and then records the release.
-/

namespace AgentBash

set_option autoImplicit false

open Durable

def continuationProtocol : String := "completion-continuation-v2"

namespace SourceFile

def registration : String := "source-registration-v2.json"
def outcome : String := "source-outcome-v2.json"
def snapshot : String := "completion-snapshot-v2.json"
def output : String := "completion-output-v2.bin"
def retentionRelease : String := "source-retention-release-v1.json"
def brokerRetentionRelease : String := "broker-source-retention-release-v1.json"

end SourceFile

section Binding

/-- Every field of an identity has to be present, and to be the same in the reply. -/
def exact : Value → Value → Except IoError Unit
  | .field key expected rest, reply =>
      if expected ≠ .null ∧ reply.get key = expected then exact rest reply
      else .error (.other ("continuation identity conflict: " ++ key))
  | .empty, _ => .ok ()
  | _, _ => .error (.other "invalid identity")

variable [Codec]

def common (registration : Value) (digest : String) : Value :=
  ["protocol", "domain_id", "source_id", "handle", "registration_id"].foldl
    (fun identity key => identity.set key (registration.get key))
    (.object [("registration_digest", .string digest)])

/-- What a registration has to say of its source, with the conflict it is otherwise. -/
def registeredFields (paths : StatePaths) : List (String × Value × String) :=
  let source := "registration source binding conflict"
  let relative := fun (key, expected) =>
    (key, Value.string expected, "source path conflict: " ++ key)
  let root := "source root/protocol conflict"
  [("protocol", .string continuationProtocol, source), ("handle", .string paths.handle, source),
    ("handle_dir", .string paths.stateDir, source)] ++
  [("meta_relative", "meta.json"), ("log_relative", "log"), ("rc_relative", "rc"),
    ("registration_relative", SourceFile.registration), ("outcome_relative", SourceFile.outcome),
    ("snapshot_relative", SourceFile.snapshot)].map relative ++
  [("spool_root", .string paths.root, root),
    ("source_evidence_protocol", .string continuationProtocol, root)]

def requireFields (registration : Value) : List (String × Value × String) → Except IoError Unit
  | [] => .ok ()
  | (key, expected, conflict) :: rest =>
      if registration.get key = expected then requireFields registration rest
      else .error (.other conflict)

/-- The registration with the identity that everything about the source has to carry. -/
def binding (dir : StateDirectory) : Except IoError (Value × Value) := do
  let data ← (dir.entry SourceFile.registration).readBounded maxSource
  let registration ← (Codec.parse data).elim (.error (.other "malformed JSON")) .ok
  requireFields registration (registeredFields dir.paths)
  let identity := common registration (Codec.sha256 data)
  exact identity identity
  .ok (registration, identity)

end Binding

section Receipt

variable [Codec]

/-- One published file is still the file the receipt names, and nobody links to it. -/
def sourceStampMatches (dir : StateDirectory) (relative : String) (stamp : Value)
    (ownerUid : Nat) : Except IoError Bool := do
  match ← (dir.entry relative).openNoFollow with
  | none => .ok false
  | some file =>
      .ok (file.uid == ownerUid && file.links == 1 && stamp.get "device" == .number file.device &&
        stamp.get "inode" == .number file.inode &&
        stamp.get "byte_len" == .number file.bytes.length &&
        stamp.get "sha256" == .string (Codec.sha256 file.bytes))

def receiptNamesSource (dir : StateDirectory) (registration identity receipt : Value) : Bool :=
  let directory := receipt.get "source_directory"
  receipt.get "protocol" == .string "broker-bash-source-release-v1" &&
    receipt.get "registration_id" == registration.get "registration_id" &&
    receipt.get "registration_digest" == identity.get "registration_digest" &&
    receipt.get "handle" == .string dir.paths.handle &&
    receipt.get "event_id" == .string dir.paths.handle &&
    receipt.get "listener_revision" == registration.get "listener_revision" &&
    (receipt.get "notification_count").asU64.any (· != 0) &&
    directory.get "device" == .number dir.device &&
    directory.get "inode" == .number dir.inode && directory.get "owner_uid" == .number dir.uid &&
    ["grant_id", "source_generation", "root_id", "owner_generation"].all fun key =>
      (receipt.get key).asStr.isSome

/-- The decision the receipt carries belongs to the acceptance it carries. -/
def decisionMatches (identity receipt acceptance decision : Value)
    (acceptanceJson releaseJson : String) : Bool :=
  receipt.get "acceptance_sha256" == .string (Codec.sha256 (utf8 acceptanceJson)) &&
    receipt.get "release_sha256" == .string (Codec.sha256 (utf8 releaseJson)) &&
    acceptance.get "protocol" == .string "broker-completion-source-acceptance-v1" &&
    decision.get "protocol" == .string "broker-source-retention-release-v1" &&
    decision.get "acceptance_sha256" == receipt.get "acceptance_sha256" &&
    (acceptance.get "state_admission_id").asStr.isSome &&
    acceptance.get "registration_digest" == identity.get "registration_digest" &&
    (acceptance.get "evidence_seal").get "manifest_sha256" == receipt.get "manifest_sha256" &&
    acceptance.get "selected_output" == receipt.get "selected_output" &&
    ["registration_id", "source_generation", "root_id", "owner_generation", "grant_id"].all
      fun key => acceptance.get key == receipt.get key && decision.get key == receipt.get key

def sealMatches (identity receipt acceptance : Value) : Bool :=
  (receipt.get "registration_file").get "sha256" == identity.get "registration_digest" &&
    (receipt.get "snapshot_file").get "sha256" ==
      (acceptance.get "evidence_seal").get "snapshot_sha256" &&
    (receipt.get "outcome_file").get "sha256" ==
      (acceptance.get "evidence_seal").get "outcome_sha256"

/-- The payload that was delivered is the published event, with its complete output. -/
def payloadMatches (paths : StatePaths) (identity receipt snapshot outcome payload : Value)
    (payloadJson : String) : Bool :=
  snapshot.get "status" == .string "completed" &&
    snapshot.get "outcome_sha256" == (receipt.get "outcome_file").get "sha256" &&
    snapshot.get "outcome_byte_len" == (receipt.get "outcome_file").get "byte_len" &&
    snapshot.get "output" == receipt.get "selected_output" &&
    (receipt.get "selected_output").get "representation" == .string "retained-output-v1" &&
    (receipt.get "stable_output").get "sha256" == (receipt.get "selected_output").get "sha256" &&
    (receipt.get "stable_output").get "byte_len" ==
      (receipt.get "selected_output").get "byte_len" &&
    receipt.get "payload_sha256" == .string (Codec.sha256 (utf8 payloadJson)) &&
    receipt.get "payload_byte_len" == .number (utf8 payloadJson).length &&
    payload.get "registration_id" == receipt.get "registration_id" &&
    payload.get "registration_digest" == identity.get "registration_digest" &&
    payload.get "event_id" == .string paths.handle &&
    payload.get "kind" == .string "agent_bash_complete" &&
    payload.get "schema_version" == .number 2 && payload.get "snapshot" == snapshot &&
    payload.get "outcome" == outcome &&
    payload.get "output_artifact" == receipt.get "stable_output"

def artifactMatches (receipt : Value) (outputRelative : String) : Bool :=
  outputRelative == SourceFile.output &&
    (receipt.get "artifact_original").get "sha256" ==
      (receipt.get "selected_output").get "sha256" &&
    (receipt.get "artifact_original").get "byte_len" ==
      (receipt.get "selected_output").get "byte_len"

def text (value : Value) (missing : String) : Except IoError String :=
  value.asStr.elim (.error (.other missing)) .ok

def parsed (json : String) : Except IoError Value :=
  (Codec.parse (utf8 json)).elim (.error (.other "malformed JSON")) .ok

/-- The three published records of a source, with the receipt's field for each. -/
def stampedFiles : List (String × String) :=
  [(SourceFile.registration, "registration_file"), (SourceFile.snapshot, "snapshot_file"),
    (SourceFile.outcome, "outcome_file")]

def filesMatch (dir : StateDirectory) (receipt : Value) :
    List (String × String) → Except IoError Bool
  | [] => .ok true
  | (name, field) :: rest => do
      if ← sourceStampMatches dir name (receipt.get field) dir.uid then
        filesMatch dir receipt rest
      else .ok false

/-- The published event and its artifact, against a receipt whose decision was already read. -/
def eventMatches (dir : StateDirectory) (identity receipt : Value) : Except IoError Bool := do
  let snapshot ← (dir.entry SourceFile.snapshot).value
  let outcome ← (dir.entry SourceFile.outcome).value
  let payloadJson ← text (receipt.get "payload_json") "Broker payload absent from release receipt"
  let payload ← parsed payloadJson
  exact identity snapshot
  exact identity outcome
  if payloadMatches dir.paths identity receipt snapshot outcome payload payloadJson then
    let outputRelative ← text ((receipt.get "selected_output").get "relative")
      "selected output name absent"
    if artifactMatches receipt outputRelative then
      sourceStampMatches dir SourceFile.output (receipt.get "artifact_original") dir.uid
    else .ok false
  else .ok false

def localRelease (identity receipt : Value) (receiptBytes : Bytes) : Value :=
  [("release_protocol", .string "source-retention-release-v1"),
    ("broker_receipt_sha256", .string (Codec.sha256 receiptBytes)),
    ("acceptance_sha256", receipt.get "acceptance_sha256"),
    ("release_sha256", receipt.get "release_sha256")].foldl
    (fun release (key, value) => release.set key value) identity

/-- What `immutable` leaves under the name of the local record; `creates` is whether one that
is not there yet would be written without a fault. A link to nothing stops the new one and
cannot be read. -/
def storedRelease (entry : Node) (data : Bytes) (creates : Bool) : Except IoError Bytes :=
  if entry.notFound then if creates then .ok data else .error (.other "release not recorded")
  else entry.readBounded (32 * maxSource)

/-- The local record of the release is written once and read back. -/
def recordRelease (dir : StateDirectory) (release : Value) (creates : Bool) :
    Except IoError Bool := do
  let data := Codec.encode release
  let stored ← storedRelease (dir.entry SourceFile.retentionRelease) data creates
  if stored = data then
    let published ← (Node.regular { bytes := stored }).value
    .ok (published == release)
  else .error (.other "immutable source conflict: source-retention-release-v1.json")

/-- The receipt that root left, or nothing where it is not one that only root can write. -/
def rootReceipt (dir : StateDirectory) : Except IoError (Option (Value × Bytes)) := do
  match (dir.entry SourceFile.brokerRetentionRelease).openNoFollow with
  | .error error => if error.kind = .notFound then .ok none else .error error
  | .ok none => .ok none
  | .ok (some file) =>
      if file.uid == 0 && file.links == 1 && !file.writable &&
          file.bytes.length ≤ 64 * maxSource then
        let receipt ← (Codec.parse file.bytes).elim (.error (.other "malformed JSON")) .ok
        .ok (some (receipt, file.bytes))
      else .ok none

def retentionReleased (dir : StateDirectory) (creates : Bool) : Except IoError Bool := do
  let (registration, identity) ← binding dir
  if dir.isDirectory && dir.canonical then
    match ← rootReceipt dir with
    | none => .ok false
    | some (receipt, receiptBytes) =>
        if receiptNamesSource dir registration identity receipt then
          let acceptanceJson ← text (receipt.get "acceptance_json") "Broker acceptance JSON absent"
          let releaseJson ← text (receipt.get "release_json") "Broker release JSON absent"
          let acceptance ← parsed acceptanceJson
          let decision ← parsed releaseJson
          if decisionMatches identity receipt acceptance decision acceptanceJson releaseJson then
            if ← filesMatch dir receipt stampedFiles then
              if sealMatches identity receipt acceptance then
                if ← eventMatches dir identity receipt then
                  recordRelease dir (localRelease identity receipt receiptBytes) creates
                else .ok false
              else .ok false
            else .ok false
          else .ok false
        else .ok false
  else .ok false

end Receipt

end AgentBash
