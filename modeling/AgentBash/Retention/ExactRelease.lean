import AgentBash.Retention.Release

/-!
# What a release proves

A release that `retention_released` honours is read back field by field: a receipt that only
root can have left, the decision it carries, and every published file with its one link.
-/

namespace AgentBash

set_option autoImplicit false

open Durable

namespace Node

/-- Whatever opens without following a link and is regular stood there itself. -/
theorem regular_of_openNoFollow {node : Node} {file : RegularFile}
    (opened : node.openNoFollow = .ok (some file)) : node = .regular file ∧ file.readable := by
  cases node with
  | regular found =>
      simp only [openNoFollow, open_] at opened
      split at opened
      · next readable =>
        have same : found = file := by simpa [Except.map] using opened
        exact ⟨congrArg Node.regular same, same ▸ readable⟩
      · cases opened
  | absent => cases opened
  | unreachable => cases opened
  | dangling => cases opened
  | link target => cases opened
  | directory => cases opened
  | special => cases opened

theorem regular_of_readBounded {node : Node} {max : Nat} {bytes : Bytes}
    (read : node.readBounded max = .ok bytes) :
    ∃ file, node = .regular file ∧ file.readable ∧ file.bytes = bytes ∧ bytes.length ≤ max := by
  unfold readBounded at read
  split at read
  · cases read
  · cases read
  · next file opened =>
    obtain ⟨stands, readable⟩ := regular_of_openNoFollow opened
    split at read
    · next bounded =>
      have same : file.bytes = bytes := Except.ok.inj read
      exact ⟨file, stands, readable, same, same ▸ bounded⟩
    · cases read

theorem openNoFollow_regular {file : RegularFile} (readable : file.readable) :
    (Node.regular file).openNoFollow = .ok (some file) := by
  simp only [openNoFollow, open_, readable, if_true]
  rfl

variable [Codec]

theorem value_ok {node : Node} {value : Value} (read : node.value = .ok value) :
    ∃ bytes, node.readBounded maxSource = .ok bytes ∧ Codec.parse bytes = some value := by
  unfold Node.value at read
  split at read
  · cases read
  · next bytes bounded =>
    split at read
    · next found parsed => exact ⟨bytes, bounded, parsed.trans (congrArg some (Except.ok.inj read))⟩
    · cases read

end Node

section Release

theorem text_ok {value : Value} {missing found : String} (read : text value missing = .ok found) :
    value = .string found := by
  exact string_of_asStr (some_of_elim read)

variable [Codec]

/-- A published file is the very one its stamp names, and has no other link. -/
structure Stamped (dir : StateDirectory) (relative : String) (stamp : Value)
    (file : RegularFile) : Prop where
  stands : dir.entry relative = .regular file
  readable : file.readable
  owner : file.uid = dir.uid
  links : file.links = 1
  device : stamp.get "device" = .number file.device
  inode : stamp.get "inode" = .number file.inode
  byteLen : stamp.get "byte_len" = .number file.bytes.length
  sha256 : stamp.get "sha256" = .string (Codec.sha256 file.bytes)

theorem stamped_of_matches {dir : StateDirectory} {relative : String} {stamp : Value}
    (matched : sourceStampMatches dir relative stamp dir.uid = .ok true) :
    ∃ file, Stamped dir relative stamp file := by
  obtain ⟨opened, openedAs, rest⟩ := ok_of_bind matched
  cases opened with
  | none => cases rest
  | some file =>
      obtain ⟨stands, readable⟩ := Node.regular_of_openNoFollow openedAs
      have agreed := Except.ok.inj rest
      simp only [Bool.and_eq_true, beq_iff_eq] at agreed
      obtain ⟨⟨⟨⟨⟨owner, links⟩, device⟩, inode⟩, byteLen⟩, sha256⟩ := agreed
      exact ⟨file, stands, readable, owner, links, device, inode, byteLen, sha256⟩

theorem stamped_of_filesMatch {dir : StateDirectory} {receipt : Value}
    {files : List (String × String)} (matched : filesMatch dir receipt files = .ok true) :
    ∀ name field, (name, field) ∈ files → ∃ file, Stamped dir name (receipt.get field) file := by
  induction files with
  | nil => intro name field member; cases member
  | cons head rest ih =>
      obtain ⟨headMatches, found, remaining⟩ := ok_of_bind matched
      cases headMatches with
      | false => cases remaining
      | true =>
          intro name field member
          rcases List.mem_cons.mp member with same | later
          · have headStamped := stamped_of_matches found
            rwa [← same] at headStamped
          · exact ih remaining name field later

/-- The receipt that root left: readable by everyone, written by nobody else. -/
structure RootOwned (dir : StateDirectory) (receipt : Value) (file : RegularFile) : Prop where
  stands : dir.entry SourceFile.brokerRetentionRelease = .regular file
  readable : file.readable
  owner : file.uid = 0
  links : file.links = 1
  sealed : file.writable = false
  bounded : file.bytes.length ≤ 64 * maxSource
  parses : Codec.parse file.bytes = some receipt

theorem rootOwned_of_receipt {dir : StateDirectory} {receipt : Value} {bytes : Bytes}
    (found : rootReceipt dir = .ok (some (receipt, bytes))) :
    ∃ file, RootOwned dir receipt file ∧ file.bytes = bytes := by
  unfold rootReceipt at found
  split at found
  · split at found <;> cases found
  · cases found
  · next file opened =>
    obtain ⟨stands, readable⟩ := Node.regular_of_openNoFollow opened
    split at found
    · next trusted =>
      obtain ⟨parsed, parses, rest⟩ := ok_of_bind found
      have same : parsed = receipt ∧ file.bytes = bytes := by simpa using Except.ok.inj rest
      simp only [Bool.and_eq_true, beq_iff_eq, Bool.not_eq_true', decide_eq_true_eq] at trusted
      obtain ⟨⟨⟨owner, links⟩, sealed⟩, bounded⟩ := trusted
      have parsesReceipt := some_of_elim parses
      rw [same.1] at parsesReceipt
      exact ⟨file, ⟨stands, readable, owner, links, sealed, bounded, parsesReceipt⟩, same.2⟩
    · cases found

/-- The release of a v2 source that a receipt of the root broker proves file by file. -/
structure ExactRelease (dir : StateDirectory) (registration identity receipt : Value)
    (receiptFile : RegularFile) : Prop where
  bound : binding dir = .ok (registration, identity)
  directory : dir.isDirectory ∧ dir.canonical
  root : RootOwned dir receipt receiptFile
  names : receiptNamesSource dir registration identity receipt
  decision : ∃ acceptanceJson releaseJson acceptance decision,
    receipt.get "acceptance_json" = .string acceptanceJson ∧
      receipt.get "release_json" = .string releaseJson ∧
      Codec.parse (utf8 acceptanceJson) = some acceptance ∧
      Codec.parse (utf8 releaseJson) = some decision ∧
      decisionMatches identity receipt acceptance decision acceptanceJson releaseJson ∧
      sealMatches identity receipt acceptance
  files : ∀ name field, (name, field) ∈ stampedFiles →
    ∃ file, Stamped dir name (receipt.get field) file
  event : ∃ snapshot outcome payload payloadJson,
    (dir.entry SourceFile.snapshot).value = .ok snapshot ∧
      (dir.entry SourceFile.outcome).value = .ok outcome ∧
      exact identity snapshot = .ok () ∧ exact identity outcome = .ok () ∧
      receipt.get "payload_json" = .string payloadJson ∧
      Codec.parse (utf8 payloadJson) = some payload ∧
      payloadMatches dir.paths identity receipt snapshot outcome payload payloadJson
  output : ∃ file, Stamped dir SourceFile.output (receipt.get "artifact_original") file
  recorded : ∃ creates,
    recordRelease dir (localRelease identity receipt receiptFile.bytes) creates = .ok true

theorem event_ok {dir : StateDirectory} {identity receipt : Value}
    (matched : eventMatches dir identity receipt = .ok true) :
    (∃ snapshot outcome payload payloadJson,
      (dir.entry SourceFile.snapshot).value = .ok snapshot ∧
        (dir.entry SourceFile.outcome).value = .ok outcome ∧
        exact identity snapshot = .ok () ∧ exact identity outcome = .ok () ∧
        receipt.get "payload_json" = .string payloadJson ∧
        Codec.parse (utf8 payloadJson) = some payload ∧
        payloadMatches dir.paths identity receipt snapshot outcome payload payloadJson) ∧
      ∃ file, Stamped dir SourceFile.output (receipt.get "artifact_original") file := by
  obtain ⟨snapshot, snapshotAs, rest⟩ := ok_of_bind matched
  obtain ⟨outcome, outcomeAs, rest⟩ := ok_of_bind rest
  obtain ⟨payloadJson, hasPayload, rest⟩ := ok_of_bind rest
  obtain ⟨payload, payloadParses, rest⟩ := ok_of_bind rest
  obtain ⟨_, snapshotExact, rest⟩ := ok_of_bind rest
  obtain ⟨_, outcomeExact, rest⟩ := ok_of_bind rest
  split at rest
  · next agreed =>
    obtain ⟨outputRelative, _, rest⟩ := ok_of_bind rest
    split at rest
    · exact ⟨⟨snapshot, outcome, payload, payloadJson, snapshotAs, outcomeAs, snapshotExact,
        outcomeExact, text_ok hasPayload, some_of_elim payloadParses, agreed⟩,
        stamped_of_matches rest⟩
    · cases rest
  · cases rest

theorem exactRelease_of_released {dir : StateDirectory} {creates : Bool}
    (released : retentionReleased dir creates = .ok true) :
    ∃ registration identity receipt file, ExactRelease dir registration identity receipt file := by
  obtain ⟨⟨registration, identity⟩, bound, rest⟩ := ok_of_bind released
  simp only at rest
  split at rest
  · next directory =>
    obtain ⟨found, foundAs, rest⟩ := ok_of_bind rest
    cases found with
    | none => cases rest
    | some pair =>
        obtain ⟨receipt, bytes⟩ := pair
        obtain ⟨file, root, sameBytes⟩ := rootOwned_of_receipt foundAs
        simp only at rest
        split at rest
        · next names =>
          obtain ⟨acceptanceJson, hasAcceptance, rest⟩ := ok_of_bind rest
          obtain ⟨releaseJson, hasRelease, rest⟩ := ok_of_bind rest
          obtain ⟨acceptance, acceptanceParses, rest⟩ := ok_of_bind rest
          obtain ⟨decision, decisionParses, rest⟩ := ok_of_bind rest
          split at rest
          · next agreed =>
            obtain ⟨filesAgree, filesMatched, rest⟩ := ok_of_bind rest
            cases filesAgree with
            | false => cases rest
            | true =>
                simp only [if_true] at rest
                split at rest
                · next seals =>
                  obtain ⟨eventAgrees, eventMatched, rest⟩ := ok_of_bind rest
                  cases eventAgrees with
                  | false => cases rest
                  | true =>
                      simp only [if_true] at rest
                      refine ⟨registration, identity, receipt, file, ?_⟩
                      exact {
                        bound := bound
                        directory := by simpa using directory
                        root := root
                        names := names
                        decision := ⟨acceptanceJson, releaseJson, acceptance, decision,
                          text_ok hasAcceptance, text_ok hasRelease, some_of_elim acceptanceParses,
                          some_of_elim decisionParses, agreed, seals⟩
                        files := stamped_of_filesMatch filesMatched
                        event := (event_ok eventMatched).1
                        output := (event_ok eventMatched).2
                        recorded := ⟨creates, by rw [sameBytes]; exact rest⟩ }
                · cases rest
          · cases rest
        · cases rest
  · cases rest

/-- A stamp that names the file standing there, however many links that has. -/
structure StampNames (dir : StateDirectory) (relative : String) (stamp : Value)
    (file : RegularFile) : Prop where
  stands : dir.entry relative = .regular file
  readable : file.readable
  owner : file.uid = dir.uid
  device : stamp.get "device" = .number file.device
  inode : stamp.get "inode" = .number file.inode
  byteLen : stamp.get "byte_len" = .number file.bytes.length
  sha256 : stamp.get "sha256" = .string (Codec.sha256 file.bytes)

theorem matches_of_stampNames {dir : StateDirectory} {relative : String} {stamp : Value}
    {file : RegularFile} (names : StampNames dir relative stamp file) (single : file.links = 1) :
    sourceStampMatches dir relative stamp dir.uid = .ok true := by
  have opened : (dir.entry relative).openNoFollow = .ok (some file) := by
    rw [names.stands]
    exact Node.openNoFollow_regular names.readable
  unfold sourceStampMatches
  rw [opened, names.device, names.inode, names.byteLen, names.sha256]
  simp [bind, Except.bind, names.owner, single]

theorem filesMatch_of_stampNames {dir : StateDirectory} {receipt : Value}
    {files : List (String × String)}
    (names : ∀ name field, (name, field) ∈ files →
      ∃ file, StampNames dir name (receipt.get field) file ∧ file.links = 1) :
    filesMatch dir receipt files = .ok true := by
  induction files with
  | nil => rfl
  | cons head rest ih =>
      obtain ⟨file, stamped, single⟩ := names head.1 head.2 List.mem_cons_self
      have remaining := ih fun name field later => names name field (List.mem_cons_of_mem _ later)
      rw [filesMatch, matches_of_stampNames stamped single]
      exact remaining

/-- A receipt of the root broker that names the published files of a source exactly; how many
links these have is not its business. -/
structure ExactReceipt (dir : StateDirectory) (registration identity receipt : Value)
    (receiptFile : RegularFile) : Prop where
  bound : binding dir = .ok (registration, identity)
  directory : dir.isDirectory ∧ dir.canonical
  root : RootOwned dir receipt receiptFile
  names : receiptNamesSource dir registration identity receipt
  decision : ∃ acceptanceJson releaseJson acceptance decision,
    receipt.get "acceptance_json" = .string acceptanceJson ∧
      receipt.get "release_json" = .string releaseJson ∧
      Codec.parse (utf8 acceptanceJson) = some acceptance ∧
      Codec.parse (utf8 releaseJson) = some decision ∧
      decisionMatches identity receipt acceptance decision acceptanceJson releaseJson ∧
      sealMatches identity receipt acceptance
  files : ∀ name field, (name, field) ∈ stampedFiles →
    ∃ file, StampNames dir name (receipt.get field) file
  event : ∃ snapshot outcome payload payloadJson,
    (dir.entry SourceFile.snapshot).value = .ok snapshot ∧
      (dir.entry SourceFile.outcome).value = .ok outcome ∧
      exact identity snapshot = .ok () ∧ exact identity outcome = .ok () ∧
      receipt.get "payload_json" = .string payloadJson ∧
      Codec.parse (utf8 payloadJson) = some payload ∧
      payloadMatches dir.paths identity receipt snapshot outcome payload payloadJson
  artifact : ∃ relative, (receipt.get "selected_output").get "relative" = .string relative ∧
    artifactMatches receipt relative
  output : ∃ file, StampNames dir SourceFile.output (receipt.get "artifact_original") file
  recorded : recordRelease dir (localRelease identity receipt receiptFile.bytes) true = .ok true

theorem rootReceipt_of_rootOwned {dir : StateDirectory} {receipt : Value} {file : RegularFile}
    (root : RootOwned dir receipt file) : rootReceipt dir = .ok (some (receipt, file.bytes)) := by
  have opened : (dir.entry SourceFile.brokerRetentionRelease).openNoFollow = .ok (some file) := by
    rw [root.stands]
    exact Node.openNoFollow_regular root.readable
  unfold rootReceipt
  rw [opened]
  simp [root.owner, root.links, root.sealed, root.bounded, root.parses, bind, Except.bind]

omit [Codec] in
theorem text_string {found missing : String} : text (.string found) missing = .ok found := rfl

theorem parsed_of_parse {json : String} {value : Value}
    (parses : Codec.parse (utf8 json) = some value) : parsed json = .ok value := by
  rw [parsed, parses]
  rfl

namespace ExactReceipt

variable {dir : StateDirectory} {registration identity receipt : Value} {receiptFile : RegularFile}

theorem eventMatches (exactly : ExactReceipt dir registration identity receipt receiptFile)
    (single : ∀ file, dir.entry SourceFile.output = .regular file → file.links = 1) :
    AgentBash.eventMatches dir identity receipt = .ok true := by
  obtain ⟨snapshot, outcome, payload, payloadJson, snapshotAs, outcomeAs, snapshotExact,
    outcomeExact, hasPayload, payloadParses, agreed⟩ := exactly.event
  obtain ⟨relative, hasRelative, artifact⟩ := exactly.artifact
  obtain ⟨file, names⟩ := exactly.output
  have stamped := matches_of_stampNames names (single file names.stands)
  unfold AgentBash.eventMatches
  rw [snapshotAs, outcomeAs, hasPayload]
  simp only [bind, Except.bind, text_string, parsed_of_parse payloadParses, snapshotExact,
    outcomeExact, agreed, hasRelative, artifact, if_true]
  exact stamped

/-- What an exact receipt needs to be honoured is that nobody else links to a published file. -/
theorem released (exactly : ExactReceipt dir registration identity receipt receiptFile)
    (single : ∀ name file, name = SourceFile.output ∨ name ∈ stampedFiles.map Prod.fst →
      dir.entry name = .regular file → file.links = 1) : retentionReleased dir true = .ok true := by
  obtain ⟨acceptanceJson, releaseJson, acceptance, decision, hasAcceptance, hasRelease,
    acceptanceParses, decisionParses, agreed, seals⟩ := exactly.decision
  have files : filesMatch dir receipt stampedFiles = .ok true := by
    refine filesMatch_of_stampNames fun name field member => ?_
    obtain ⟨file, names⟩ := exactly.files name field member
    exact ⟨file, names, single name file (.inr (List.mem_map_of_mem member)) names.stands⟩
  have event := exactly.eventMatches fun file => single _ file (.inl rfl)
  unfold retentionReleased
  rw [exactly.bound, rootReceipt_of_rootOwned exactly.root]
  simp only [bind, Except.bind, exactly.directory.1, exactly.directory.2, Bool.and_self, if_true,
    exactly.names, hasAcceptance, hasRelease, text_string, parsed_of_parse acceptanceParses, parsed_of_parse decisionParses,
    agreed, files, seals, event]
  exact exactly.recorded

end ExactReceipt

end Release

end AgentBash
