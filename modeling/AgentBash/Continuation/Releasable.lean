import AgentBash.Continuation.CaptureRuns
import AgentBash.Retention.ExactRelease

/-!
# Releasable sources

Retention honours a receipt only for files that have one link. Capture and publication link every
file a second time before they drop its first name, so a source is releasable exactly as long as
no publication is broken off in between: what is left linked twice is never unlinked again.
-/

namespace AgentBash

set_option autoImplicit false

open Durable SourceStorage

namespace Continuation

variable {original : Bytes} {s : SourceStorage} {start final : SourceConfig} {inode : Nat}
  {artifact : SourceName} {document : Document} {name : String}

/-- The names that a release receipt stamps, with the names they are published under. -/
def artifacts : List (String × SourceName) :=
  [(SourceFile.registration, .document .registration), (SourceFile.snapshot, .document .snapshot),
    (SourceFile.outcome, .document .outcome), (SourceFile.output, .output)]

/-- A handle directory shows the published files of its source. -/
structure Shows (dir : StateDirectory) (s : SourceStorage) : Prop where
  file : ∀ {name artifact}, (name, artifact) ∈ artifacts → ∀ {file}, dir.entry name = .regular file →
    ∃ inode, s.find artifact = some inode ∧ file.inode = inode ∧
      file.bytes = (s.nodes inode).content ∧ file.links = (s.metadata inode).nlink

/-- Every published file has one link, and every exact receipt that names them is honoured. -/
structure Releasable (s : SourceStorage) : Prop where
  single : ∀ {name artifact}, (name, artifact) ∈ artifacts → ∀ {inode}, s.find artifact = some inode →
    (s.metadata inode).nlink = 1
  honoured : ∀ (codec : Codec) (dir : StateDirectory) (registration identity receipt : Value)
    (receiptFile : RegularFile), Shows dir s →
    @ExactReceipt codec dir registration identity receipt receiptFile →
    @retentionReleased codec dir true = .ok true

/-- Nobody links to what capture and publication made from another directory. -/
def Unshared (s : SourceStorage) : Prop :=
  ∀ inode, s.selection.inode ≠ some inode → s.outside inode = 0

section Links

theorem stamped_artifacts (stamped : name = SourceFile.output ∨ name ∈ stampedFiles.map Prod.fst) :
    ∃ artifact, (name, artifact) ∈ artifacts := by
  rcases stamped with rfl | listed
  · exact ⟨.output, by simp [artifacts]⟩
  · simp only [stampedFiles, List.map_cons, List.map_nil, List.mem_cons, List.not_mem_nil,
      or_false] at listed
    rcases listed with rfl | rfl | rfl
    · exact ⟨.document .registration, by simp [artifacts]⟩
    · exact ⟨.document .snapshot, by simp [artifacts]⟩
    · exact ⟨.document .outcome, by simp [artifacts]⟩

theorem artifact_kinds (listed : (name, artifact) ∈ artifacts) :
    artifact = .output ∨ ∃ document, artifact = .document document := by
  simp only [artifacts, List.mem_cons, Prod.mk.injEq, List.not_mem_nil, or_false] at listed
  rcases listed with ⟨-, rfl⟩ | ⟨-, rfl⟩ | ⟨-, rfl⟩ | ⟨-, rfl⟩
  · exact .inr ⟨_, rfl⟩
  · exact .inr ⟨_, rfl⟩
  · exact .inr ⟨_, rfl⟩
  · exact .inl rfl

/-- A node with one name that nobody else links to has one link. -/
theorem nlink_one (sane : Sane original s) (unshared : Unshared s) (own : isMade artifact = true)
    (found : s.find artifact = some inode) (only : ∀ other, s.find other = some inode → other = artifact) :
    (s.metadata inode).nlink = 1 := by
  have count : s.links.count inode = 1 := Links.count_eq_one found only
  change s.links.count inode + s.outside inode = 1
  rw [count, unshared inode (sane.apart own found)]

theorem releasable_of_settled (sane : Sane original s) (settled : SourceStorage.Settled s)
    (tidy : ∀ pid, Tidy pid s) (unshared : Unshared s) : Releasable s := by
  have single : ∀ {name artifact}, (name, artifact) ∈ artifacts → ∀ {inode},
      s.find artifact = some inode → (s.metadata inode).nlink = 1 := by
    intro name artifact listed inode found
    rcases artifact_kinds listed with rfl | ⟨document, rfl⟩
    · exact nlink_one sane unshared rfl found fun _ also => settled.single found also
    · refine nlink_one sane unshared rfl found fun other also => ?_
      refine (sane.published found also).resolve_right ?_
      rintro ⟨owner, serial, rfl⟩
      rcases sane.staged also found with same | same
      · cases same
      · cases same
        exact tidy owner document serial inode also found
  refine ⟨single, fun codec dir registration identity receipt receiptFile shows exactly => ?_⟩
  refine @ExactReceipt.released codec _ _ _ _ _ exactly fun name file stamped stands => ?_
  obtain ⟨artifact, listed⟩ := stamped_artifacts stamped
  obtain ⟨inode, found, -, -, links⟩ := shows.file listed stands
  rw [links]
  exact single listed found

end Links

section Runs

/-- No publication is broken off: nothing stops the holder of the lease between the receipt of a
whole copy and the removal of the name it was written under, and nothing stops a publication
between its link and the removal of its temporary name. -/
def unbroken : System.Policy sourceSystem where
  call pid op choice disk := ∀ external answer, op = .external external → choice = .outside answer →
    Uninterrupted pid external answer disk
  kill pid disk := (disk.Newest pid SourceLock.sourceCapture → ¬ Window disk.world) ∧
    Tidy pid disk.world
  change _ _ := True

theorem unbroken_careful : @Careful ⟨True, False⟩ unbroken :=
  @Careful.mk ⟨True, False⟩ unbroken (fun anchored => anchored.elim)
    (fun _ _ op choice _ permitted => permitted op choice rfl rfl) fun _ _ _ permitted => permitted

/-- In every run that breaks no publication off, what is published is releasable once nobody
works on it any more. -/
theorem unbroken_releasable (selected : JustSelected start) (unshared : Unshared start.state.world)
    (run : System.Run unbroken start final) (ended : ∀ pid, ¬ final.state.live pid) :
    Releasable final.state.world := by
  let _ : Unbroken := ⟨True, False⟩
  have _ : Careful unbroken := unbroken_careful
  have good := run_inv selected run
  have free : final.state.held SourceLock.sourceCapture = [] := by
    by_contra held
    obtain ⟨holder, rest, shape⟩ := List.exists_cons_of_ne_nil held
    refine ended holder (good.1.1.alive SourceLock.sourceCapture holder ?_)
    rw [shape]
    exact List.mem_cons_self
  have settled := (good.1.2.settled trivial).resolve_right fun open_ => open_.1 free
  have fixed := run_fixed run
  refine releasable_of_settled good.1.2.sane settled
    (fun pid => good.1.2.tidy trivial pid (ended pid)) fun inode other => ?_
  rw [fixed.selection] at other
  rw [fixed.outside]
  exact unshared inode other

section Broken

def calm : Request.Choice sourceOutside → Bool
  | .fault _ | .outside (.fail _) | .outside (.tear _ _) | .outside (.stop _ _) => false
  | _ => true

def undisturbed : System.Policy sourceSystem where
  call _ _ choice _ := calm choice = true
  kill _ _ := False
  change _ _ := True

def isUndisturbed : Event sourceSystem → Bool
  | .step _ choice => calm choice
  | .kill _ => false
  | _ => true

theorem isUndisturbed_sound (config : SourceConfig) (event : Event sourceSystem)
    (allowed : isUndisturbed event = true) : undisturbed.permits config event := by
  cases event with
  | step pid choice => exact fun _ _ _ => allowed
  | kill pid => cases allowed
  | _ => trivial

/-- A recovery starts, nothing fails from there on, everything is published and nobody is left. -/
structure Recovered (middle final : SourceConfig) : Prop where
  run : ∃ entered, sourceSystem.apply (.enter .recoverOutput) middle = some entered ∧
    System.Run undisturbed entered final
  ended : ∀ pid, ¬ final.state.live pid
  published : ∀ {name artifact}, (name, artifact) ∈ artifacts → final.state.world.find artifact ≠ none

def publication (pid : Nat) : List (Event sourceSystem) :=
  [ask pid .agree, ask pid (.serial 0), ask pid .agree, ask pid .agree, ask pid .agree]

/-- A registration, and a capture up to the link of its output. -/
def linkedCapture : List (Event sourceSystem) :=
  [.enter (.register [1])] ++ publication 0 ++ [.leave 0] ++
  [.enter .freezeOutput, .step 1 .pass] ++ List.replicate 4 (ask 1 .agree) ++
  [ask 1 (.listing [.selectedLog, .document .registration]), ask 1 .agree,
    ask 1 (.listing [.selectedLog, .document .registration])] ++
  List.replicate 11 (ask 1 .agree) ++ [ask 1 (.identity ⟨1, 1, "boot"⟩)] ++
  List.replicate 16 (ask 1 .agree)

def observation (pid : Nat) : List (Event sourceSystem) :=
  [.enter .finishObservation, ask pid (.rendered [2] [3])] ++ publication pid ++
  [ask pid .agree, ask pid .agree] ++ publication pid ++ publication pid ++ [.leave pid]

/-- A recovery that finds the output, and the observation. -/
def recoveredCapture : List (Event sourceSystem) :=
  [ask 2 .agree, .step 2 .pass, ask 2 .agree, .step 2 .pass, .leave 2] ++ observation 3

/-- Whether all processes have ended and everything is published, with the links of the output. -/
def summary (config : SourceConfig) : Bool × Bool × Option Nat :=
  ((List.range config.state.next).all fun pid => (config.state.ended pid).isSome,
    artifacts.all fun published => (config.state.world.find published.2).isSome,
    (config.state.world.find .output).map fun inode => (config.state.world.metadata inode).nlink)

theorem killedCapture_summary :
    ((sourceSystem.play (fun _ _ => true) (linkedCapture ++ [.kill 1]) pinnedLog).bind fun middle =>
      (sourceSystem.apply (.enter .recoverOutput) middle).bind fun entered =>
        (sourceSystem.play (fun _ => isUndisturbed) recoveredCapture entered).map summary) =
      some (true, true, some 2) := by
  decide +kernel

/-- A capture that is killed after its link leaves an output with two links for good. -/
theorem not_releasable :
    ¬ ∀ start middle final, JustSelected start → Unshared start.state.world →
      System.Run (System.Policy.free sourceSystem) start middle → Recovered middle final →
      Releasable final.state.world := by
  intro releases
  obtain ⟨middle, killed, rest⟩ := Option.bind_eq_some_iff.mp killedCapture_summary
  obtain ⟨entered, applied, rest⟩ := Option.bind_eq_some_iff.mp rest
  obtain ⟨final, played, summarised⟩ := Option.map_eq_some_iff.mp rest
  simp only [summary, Prod.mk.injEq, List.all_eq_true, List.mem_range] at summarised
  obtain ⟨ended, published, twice⟩ := summarised
  obtain ⟨inode, found, links⟩ := Option.map_eq_some_iff.mp twice
  have recovered : Recovered middle final := by
    refine ⟨⟨entered, applied, System.Run.of_play isUndisturbed_sound played⟩, fun pid live => ?_,
      fun listed absent => ?_⟩
    · have dead := ended pid live.1
      rw [live.2] at dead
      cases dead
    · have present := published _ listed
      rw [absent] at present
      cases present
  have listed : (SourceFile.output, SourceName.output) ∈ artifacts := by simp [artifacts]
  have single := (releases pinnedLog middle final pinnedLog_selected (fun _ _ => rfl)
    (System.Run.of_play (fun config event _ => System.Policy.free_permits config event) killed)
    recovered).single listed found
  omega

end Broken

section Finished

theorem isUndisturbed_unbroken (config : SourceConfig) (event : Event sourceSystem)
    (allowed : isUndisturbed event = true) : unbroken.permits config event := by
  cases event with
  | step pid choice =>
      rintro op next running external answer rfl rfl
      have whole : ∀ error, answer ≠ .fail error := by
        rintro error rfl
        cases allowed
      exact ⟨fun _ _ _ => whole, fun _ _ _ _ _ _ => whole⟩
  | kill pid => cases allowed
  | _ => trivial

/-- The same capture when nothing stops it. -/
def finishedCapture : List (Event sourceSystem) :=
  linkedCapture ++ List.replicate 3 (ask 1 .agree) ++ [.step 1 .pass, .leave 1] ++ observation 2

theorem finishedCapture_summary :
    (sourceSystem.play (fun _ => isUndisturbed) finishedCapture pinnedLog).map summary =
      some (true, true, some 1) := by
  decide +kernel

theorem unbroken_releasable_finished :
    ∃ final, sourceSystem.play (fun _ => isUndisturbed) finishedCapture pinnedLog = some final ∧
      Releasable final.state.world := by
  obtain ⟨final, played, summarised⟩ := Option.map_eq_some_iff.mp finishedCapture_summary
  refine ⟨final, played, unbroken_releasable pinnedLog_selected (fun _ _ => rfl)
    (System.Run.of_play isUndisturbed_unbroken played) fun pid live => ?_⟩
  simp only [summary, Prod.mk.injEq, List.all_eq_true, List.mem_range] at summarised
  have dead := summarised.1 pid live.1
  rw [live.2] at dead
  cases dead

end Finished

section Honoured

def pinnedPaths : StatePaths := ⟨"/state", "/state/ab_1", "ab_1"⟩

def pinnedIdentity : List (String × Value) :=
  [("protocol", .string continuationProtocol), ("domain_id", .string "domain"),
    ("source_id", .string "source"), ("handle", .string "ab_1"),
    ("registration_id", .string "registration")]

def pinnedRegistration : Value :=
  .object (pinnedIdentity ++ [("handle_dir", .string "/state/ab_1"),
    ("meta_relative", .string "meta.json"), ("log_relative", .string "log"),
    ("rc_relative", .string "rc"), ("registration_relative", .string SourceFile.registration),
    ("outcome_relative", .string SourceFile.outcome),
    ("snapshot_relative", .string SourceFile.snapshot), ("spool_root", .string "/state"),
    ("source_evidence_protocol", .string continuationProtocol), ("listener_revision", .number 1)])

/-- Contents are so short here that they are their own digests. -/
def pinnedDigest (bytes : Bytes) : String :=
  String.ofList (bytes.map fun byte => Char.ofNat byte.toNat)

def pinnedStamp (inode : Nat) (bytes : Bytes) : Value :=
  .object [("device", .number 0), ("inode", .number inode), ("byte_len", .number bytes.length),
    ("sha256", .string (pinnedDigest bytes))]

def pinnedOutput : Value :=
  .object [("representation", .string "retained-output-v1"), ("relative", .string SourceFile.output),
    ("sha256", .string (pinnedDigest [97, 98])), ("byte_len", .number 2)]

def pinnedGrant : List (String × Value) :=
  [("registration_id", .string "registration"), ("source_generation", .string "generation"),
    ("root_id", .string "root"), ("owner_generation", .string "owner"), ("grant_id", .string "grant")]

def carried : List (String × Value) :=
  pinnedIdentity ++ [("registration_digest", .string (pinnedDigest [1]))]

def pinnedOutcome : Value := .object (carried ++ [("rc", .number 0)])

def pinnedSnapshot : Value :=
  .object (carried ++ [("status", .string "completed"),
    ("outcome_sha256", .string (pinnedDigest [2])), ("outcome_byte_len", .number 1),
    ("output", pinnedOutput)])

def pinnedAcceptance : Value :=
  .object (pinnedGrant ++ [("protocol", .string "broker-completion-source-acceptance-v1"),
    ("state_admission_id", .string "admission"), ("registration_digest", .string (pinnedDigest [1])),
    ("evidence_seal", .object [("manifest_sha256", .string "manifest"),
      ("snapshot_sha256", .string (pinnedDigest [3])),
      ("outcome_sha256", .string (pinnedDigest [2]))]),
    ("selected_output", pinnedOutput)])

def pinnedDecision : Value :=
  .object (pinnedGrant ++ [("protocol", .string "broker-source-retention-release-v1"),
    ("acceptance_sha256", .string "a")])

def pinnedArtifact : Value :=
  .object [("sha256", .string (pinnedDigest [97, 98])), ("byte_len", .number 2)]

def pinnedPayload : Value :=
  .object [("registration_id", .string "registration"),
    ("registration_digest", .string (pinnedDigest [1])), ("event_id", .string "ab_1"),
    ("kind", .string "agent_bash_complete"), ("schema_version", .number 2),
    ("snapshot", pinnedSnapshot), ("outcome", pinnedOutcome), ("output_artifact", pinnedArtifact)]

def pinnedReceipt : Value :=
  .object (pinnedGrant ++ [("protocol", .string "broker-bash-source-release-v1"),
    ("registration_digest", .string (pinnedDigest [1])), ("handle", .string "ab_1"),
    ("event_id", .string "ab_1"), ("listener_revision", .number 1), ("notification_count", .number 1),
    ("source_directory", .object [("device", .number 0), ("inode", .number 0),
      ("owner_uid", .number 0)]),
    ("acceptance_json", .string "a"), ("release_json", .string "d"), ("payload_json", .string "p"),
    ("acceptance_sha256", .string "a"), ("release_sha256", .string "d"),
    ("payload_sha256", .string "p"), ("payload_byte_len", .number 1), ("manifest_sha256", .string "manifest"),
    ("selected_output", pinnedOutput), ("stable_output", pinnedArtifact),
    ("registration_file", pinnedStamp 1 [1]), ("snapshot_file", pinnedStamp 7 [3]),
    ("outcome_file", pinnedStamp 6 [2]), ("artifact_original", pinnedStamp 2 [97, 98])])

def pinnedRelease : Value :=
  .object (carried ++ [("release_protocol", .string "source-retention-release-v1"),
    ("broker_receipt_sha256", .string (pinnedDigest [5])), ("acceptance_sha256", .string "a"),
    ("release_sha256", .string "d")])

@[reducible] def pinnedCodec : Codec where
  parse := fun bytes =>
    match bytes with
    | [1] => some pinnedRegistration
    | [2] => some pinnedOutcome
    | [3] => some pinnedSnapshot
    | [5] => some pinnedReceipt
    | [6] => some pinnedRelease
    | [97] => some pinnedAcceptance
    | [100] => some pinnedDecision
    | [112] => some pinnedPayload
    | _ => none
  encode := fun _ => [6]
  parseMeta := fun _ => none
  sha256 := pinnedDigest

def pinnedEntry (name : String) : Node :=
  if name = SourceFile.registration then .regular { bytes := [1], inode := 1 }
  else if name = SourceFile.outcome then .regular { bytes := [2], inode := 6 }
  else if name = SourceFile.snapshot then .regular { bytes := [3], inode := 7 }
  else if name = SourceFile.output then .regular { bytes := [97, 98], inode := 2 }
  else if name = SourceFile.brokerRetentionRelease then .regular { bytes := [5] }
  else .absent

def pinnedDirectory : StateDirectory :=
  { paths := pinnedPaths, entry := pinnedEntry, sibling := fun _ => .absent }

theorem pinnedReceipt_exact :
    @ExactReceipt pinnedCodec pinnedDirectory pinnedRegistration
      (common pinnedRegistration (pinnedDigest [1])) pinnedReceipt { bytes := [5] } := by
  let _ : Codec := pinnedCodec
  have stamps (name field : String) (bytes : Bytes) (inode : Nat)
      (stands : pinnedEntry name = .regular { bytes, inode })
      (stamped : pinnedReceipt.get field = pinnedStamp inode bytes)
      (reads : [("device", .number 0), ("inode", .number inode), ("byte_len", .number bytes.length),
        ("sha256", .string (pinnedDigest bytes))].all
          (fun entry => (pinnedStamp inode bytes).get entry.1 == entry.2) = true) :
      ∃ file, StampNames pinnedDirectory name (pinnedReceipt.get field) file := by
    simp only [List.all_cons, List.all_nil, Bool.and_true, Bool.and_eq_true, beq_iff_eq] at reads
    obtain ⟨device, number, size, digest⟩ := reads
    exact ⟨{ bytes, inode }, stands, rfl, rfl, stamped ▸ device, stamped ▸ number, stamped ▸ size,
      stamped ▸ digest⟩
  exact {
    bound := by decide +kernel
    directory := ⟨rfl, rfl⟩
    root := ⟨rfl, rfl, rfl, rfl, rfl, by decide +kernel, rfl⟩
    names := by decide +kernel
    decision := ⟨"a", "d", pinnedAcceptance, pinnedDecision, by decide +kernel, by decide +kernel,
      by decide +kernel, by decide +kernel, by decide +kernel, by decide +kernel⟩
    files := by
      intro name field member
      simp only [stampedFiles, List.mem_cons, Prod.mk.injEq, List.not_mem_nil, or_false] at member
      rcases member with ⟨rfl, rfl⟩ | ⟨rfl, rfl⟩ | ⟨rfl, rfl⟩
      · exact stamps _ _ [1] 1 (by decide +kernel) (by decide +kernel) (by decide +kernel)
      · exact stamps _ _ [3] 7 (by decide +kernel) (by decide +kernel) (by decide +kernel)
      · exact stamps _ _ [2] 6 (by decide +kernel) (by decide +kernel) (by decide +kernel)
    event := ⟨pinnedSnapshot, pinnedOutcome, pinnedPayload, "p", by decide +kernel,
      by decide +kernel, by decide +kernel, by decide +kernel, by decide +kernel, by decide +kernel,
      by decide +kernel⟩
    artifact := ⟨SourceFile.output, by decide +kernel, by decide +kernel⟩
    output := stamps _ _ [97, 98] 2 (by decide +kernel) (by decide +kernel) (by decide +kernel)
    recorded := by decide +kernel }

theorem finishedCapture_files :
    (sourceSystem.play (fun _ => isUndisturbed) finishedCapture pinnedLog).map (fun final =>
      artifacts.all fun published =>
        (final.state.world.find published.2).map (fun inode => Node.regular {
          bytes := (final.state.world.nodes inode).content
          inode
          links := (final.state.world.metadata inode).nlink }) == some (pinnedEntry published.1)) =
      some true := by
  decide +kernel

/-- The directory of the finished capture meets a receipt that names its files exactly. -/
theorem finishedCapture_exactly :
    ∃ final, sourceSystem.play (fun _ => isUndisturbed) finishedCapture pinnedLog = some final ∧
      Shows pinnedDirectory final.state.world ∧
      @ExactReceipt pinnedCodec pinnedDirectory pinnedRegistration
        (common pinnedRegistration (pinnedDigest [1])) pinnedReceipt { bytes := [5] } := by
  obtain ⟨final, played, files⟩ := Option.map_eq_some_iff.mp finishedCapture_files
  refine ⟨final, played, ⟨fun listed file stands => ?_⟩, pinnedReceipt_exact⟩
  have here := beq_iff_eq.mp (List.all_eq_true.mp files _ listed)
  obtain ⟨inode, found, same⟩ := Option.map_eq_some_iff.mp here
  obtain rfl := Node.regular.inj (same.trans stands)
  exact ⟨inode, found, rfl, rfl, rfl⟩

end Honoured

end Runs

end Continuation

end AgentBash
