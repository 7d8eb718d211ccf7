import AgentBash.RetainedOutput.Receipt

/-!
# Atomicity of the local receipt

Whatever fails and wherever a call stops, readers meet the previous receipt or the complete new one;
an answer is given for a receipt that survives.
-/

namespace AgentBash

set_option autoImplicit false

open Durable Durable.Sequential

namespace RetainedOutput

variable {outcomes : Outcomes} {disk : Disk} {encoded : Bytes}

/-- A disk that shows the receipt of the first one or the new one, also once the power went. -/
def Sound (disk : Disk) (encoded : Bytes) (visited : Disk) : Prop :=
  (visited.receipt.entry = disk.receipt.entry ∨ visited.receipt.entry = .file encoded) ∧
    ∀ found, visited.MayShow found → disk.MayShow found ∨ found = .file encoded

def Along (disk : Disk) (encoded : Bytes) (history : History) : Prop :=
  ∀ visited ∈ history.visited, Sound disk encoded visited

/-- Nothing but the staging slot has changed. -/
structure Before (disk : Disk) (encoded : Bytes) (history : History) : Prop where
  receipt : history.now.receipt = disk.receipt
  older : history.now.older = disk.older
  unrenamed : history.renamed = false
  along : Along disk encoded history

/-- The new text is staged, and no power failure takes it. -/
structure Staged (disk : Disk) (encoded : Bytes) (history : History) : Prop
    extends Before disk encoded history where
  staging : history.now.staging = ⟨.file encoded, true⟩

/-- The new text is the receipt; the directory is not known to name it. -/
structure Published (disk : Disk) (encoded : Bytes) (history : History) : Prop where
  receipt : history.now.receipt = ⟨.file encoded, true⟩
  along : Along disk encoded history

def Concluded (outcomes : Outcomes) (disk : Disk) (encoded : Bytes) :
    Except IoError Bool → History → Prop
  | .ok true, history => Published disk encoded history ∧ history.now.older = [] ∧
      history.renamed = true ∧ outcomes.fails .prepareFileSync = none ∧
      outcomes.fails .publishedDirectorySync = none
  | .ok false, history => Published disk encoded history ∧ history.now.older = [] ∧
      history.renamed = false ∧ disk.receipt.entry = .file encoded ∧
      outcomes.fails .duplicateFileSync = none ∧ outcomes.fails .publishedDirectorySync = none
  | .error _, history => Along disk encoded history ∧
      (history.renamed = false → history.now.receipt.entry = disk.receipt.entry)

section Disks

theorem Slot.mayHold_synced {entry found : Entry} (held : Slot.MayHold ⟨entry, true⟩ found) :
    found = entry := by
  obtain same | ⟨unsynced, _⟩ := held
  · exact same
  · cases unsynced

theorem sound_of_same {visited : Disk} (receipt : visited.receipt = disk.receipt)
    (older : visited.older = disk.older) : Sound disk encoded visited := by
  refine ⟨.inl (congrArg Slot.entry receipt), fun found shown => .inl ?_⟩
  rw [Disk.MayShow, receipt, older] at shown
  exact shown

theorem sound_self : Sound disk encoded disk := sound_of_same rfl rfl

theorem sound_of_published {visited : Disk} (receipt : visited.receipt = ⟨.file encoded, true⟩)
    (older : ∀ found, (∃ slot ∈ visited.older, slot.MayHold found) →
      disk.MayShow found ∨ found = .file encoded) : Sound disk encoded visited := by
  refine ⟨.inr (congrArg Slot.entry receipt), fun found => ?_⟩
  rintro ⟨slot, inside, held⟩
  obtain rfl | earlier := List.mem_cons.mp inside
  · rw [receipt] at held
    exact .inr (Slot.mayHold_synced held)
  · exact older found ⟨slot, earlier, held⟩

theorem sound_older {visited : Disk} (sound : Sound disk encoded visited) (found : Entry)
    (held : ∃ slot ∈ visited.older, slot.MayHold found) :
    disk.MayShow found ∨ found = .file encoded := by
  obtain ⟨slot, inside, shown⟩ := held
  exact sound.2 found ⟨slot, List.mem_cons_of_mem _ inside, shown⟩

end Disks

section Operations

variable {P : History → Prop} {phase : Phase} {update : Disk → Disk}

def History.step (history : History) (update : Disk → Disk) : History :=
  { history with now := update history.now, past := history.now :: history.past }

theorem Along.step {history : History} (along : Along disk encoded history)
    (sound : Sound disk encoded (update history.now)) : Along disk encoded (history.step update) := by
  intro visited inside
  obtain rfl | earlier := List.mem_cons.mp inside
  · exact sound
  · exact along visited earlier

theorem Along.now {history : History} (along : Along disk encoded history) :
    Sound disk encoded history.now :=
  along _ List.mem_cons_self

theorem ends_change : Ends P (change update) fun result after =>
    result = .ok () ∧ ∃ before, P before ∧ after = before.step update :=
  fun before holds => ⟨rfl, before, holds, rfl⟩

theorem ends_operation : Ends P (operation outcomes phase update) fun result after =>
    match result with
    | .ok () => outcomes.fails phase = none ∧ ∃ before, P before ∧ after = before.step update
    | .error _ => P after := by
  intro before holds
  unfold operation
  cases fails : outcomes.fails phase with
  | some error => exact holds
  | none => exact ⟨rfl, before, holds, rfl⟩

/-- A sync of the directory fails, or makes it name the visible receipt. -/
theorem ends_syncReceiptDirectory : Ends P (syncReceiptDirectory outcomes) fun result after =>
    match result with
    | .ok () => outcomes.fails .publishedDirectorySync = none ∧
        ∃ before, P before ∧ after = before.step fun disk => { disk with older := [] }
    | .error _ => P after := by
  intro before holds
  unfold syncReceiptDirectory
  cases opened : outcomes.fails .directoryOpen with
  | some error => exact holds
  | none => exact ends_operation before holds

theorem operation_clear (clear : outcomes.fails phase = none) (history : History) :
    operation outcomes phase update history = (.ok (), history.step update) := by
  unfold operation
  rw [clear]
  rfl

theorem openStaging_clear {history : History} (clear : outcomes.fails .prepare = none)
    (plain : history.now.staging.entry ≠ .other) :
    openStaging outcomes history =
      (.ok (), history.step fun disk => { disk with staging := ⟨.file [], false⟩ }) := by
  simp only [openStaging, bind, Sequential.get]
  rw [if_neg plain]
  exact operation_clear clear history

theorem syncReceiptDirectory_clear (clear : ∀ phase, outcomes.fails phase = none)
    (history : History) : syncReceiptDirectory outcomes history =
      (.ok (), history.step fun disk => { disk with older := [] }) := by
  unfold syncReceiptDirectory
  rw [clear]
  exact operation_clear (clear _) history

end Operations

section Stages

theorem ends_openStaging : Ends (Before disk encoded) (openStaging outcomes) fun _ after =>
    Before disk encoded after := by
  refine Ends.bind (Q := fun _ after => Before disk encoded after) ?_ (fun history => ?_)
    fun _ _ held => held
  · exact Ends.get.weaken (fun _ held => held) fun _ _ held => held.2
  · refine Ends.branch (fun _ => ?_) fun _ => ?_
    · exact Ends.ofExcept fun _ held => held
    · refine ends_operation.weaken (fun _ held => held) fun result after reached => ?_
      cases result with
      | error error => exact reached
      | ok _ =>
          obtain ⟨_, before, held, rfl⟩ := reached
          exact ⟨held.receipt, held.older, held.unrenamed,
            held.along.step (sound_of_same held.receipt held.older)⟩

theorem ends_writeAll : Ends (Before disk encoded) (writeAll outcomes encoded) fun result after =>
    match result with
    | .ok () => Before disk encoded after ∧ after.now.staging.entry = .file encoded
    | .error _ => Before disk encoded after := by
  refine Ends.bind (Q := fun _ after => Before disk encoded after) ?_ (fun _ => ?_)
    fun _ _ held => held
  · refine ends_change.weaken (fun _ held => held) fun _ after reached => ?_
    obtain ⟨_, before, held, rfl⟩ := reached
    exact ⟨held.receipt, held.older, held.unrenamed,
      held.along.step (sound_of_same held.receipt held.older)⟩
  · refine ends_operation.weaken (fun _ held => held) fun result after reached => ?_
    cases result with
    | error error => exact reached
    | ok _ =>
        obtain ⟨_, before, held, rfl⟩ := reached
        exact ⟨⟨held.receipt, held.older, held.unrenamed,
          held.along.step (sound_of_same held.receipt held.older)⟩, rfl⟩

theorem ends_syncStaging :
    Ends (fun history => Before disk encoded history ∧ history.now.staging.entry = .file encoded)
      (operation outcomes .prepareFileSync fun disk =>
        { disk with staging := { disk.staging with synced := true } }) fun result after =>
      match result with
      | .ok () => outcomes.fails .prepareFileSync = none ∧ Staged disk encoded after
      | .error _ => Before disk encoded after := by
  refine ends_operation.weaken (fun _ held => held) fun result after reached => ?_
  cases result with
  | error error => exact reached.1
  | ok _ =>
      obtain ⟨synced, before, ⟨held, written⟩, rfl⟩ := reached
      refine ⟨synced, ⟨held.receipt, held.older, held.unrenamed,
        held.along.step (sound_of_same held.receipt held.older)⟩, ?_⟩
      simp only [History.step, written]

/-- The rename moves the staged text in front of what the directory may still name. -/
theorem ends_renameStaging : Ends (Staged disk encoded) (renameStaging outcomes) fun result after =>
    match result with
    | .ok () => Published disk encoded after ∧ after.renamed = true
    | .error _ => Before disk encoded after := by
  refine Ends.bind (Q := fun result after =>
    match result with
    | .ok () => Published disk encoded after
    | .error _ => Before disk encoded after) ?_ (fun _ => ?_) fun _ _ held => held
  · refine ends_operation.weaken (fun _ held => held) fun result after reached => ?_
    cases result with
    | error error => exact reached.toBefore
    | ok _ =>
        obtain ⟨_, before, held, rfl⟩ := reached
        refine ⟨held.staging, held.along.step (sound_of_published held.staging fun found => ?_)⟩
        rintro ⟨slot, inside, shown⟩
        rw [held.receipt, held.older] at inside
        exact .inl ⟨slot, inside, shown⟩
  · exact Ends.modify fun _ held => ⟨⟨held.receipt, held.along⟩, rfl⟩

theorem Published.settle {history : History} (published : Published disk encoded history) :
    Published disk encoded (history.step fun disk => { disk with older := [] }) :=
  ⟨published.receipt, published.along.step
    (sound_of_published published.receipt fun _ held => nomatch held)⟩

theorem Before.concluded {history : History} (before : Before disk encoded history)
    (error : IoError) : Concluded outcomes disk encoded (.error error) history :=
  ⟨before.along, fun _ => congrArg Slot.entry before.receipt⟩

end Stages

section Calls

theorem ends_publishStaged : Ends (Before disk encoded) (publishStaged outcomes encoded)
    (Concluded outcomes disk encoded) := by
  refine Ends.bind ends_openStaging (fun _ => ?_) fun error _ held => held.concluded error
  refine Ends.bind ends_writeAll (fun _ => ?_) fun error _ held => held.concluded error
  refine Ends.bind ends_syncStaging (fun _ => ?_) fun error _ held => held.concluded error
  refine Ends.assume fun synced => ?_
  refine Ends.bind ends_renameStaging (fun _ => ?_) fun error _ held => held.concluded error
  refine Ends.bind ends_syncReceiptDirectory (fun _ => ?_) fun _ _ held => ?_
  · refine Ends.pure fun after reached => ?_
    obtain ⟨settled, before, ⟨published, renamed⟩, rfl⟩ := reached
    exact ⟨published.settle, rfl, renamed, synced, settled⟩
  · obtain ⟨published, renamed⟩ := held
    exact ⟨published.along, fun unrenamed => absurd (renamed.symm.trans unrenamed) nofun⟩

theorem ends_resync (equal : disk.receipt.entry = .file encoded) :
    Ends (Before disk encoded) (resync outcomes) (Concluded outcomes disk encoded) := by
  refine Ends.bind (Q := fun result after =>
    match result with
    | .ok () => outcomes.fails .duplicateFileSync = none ∧ Published disk encoded after ∧
        after.renamed = false
    | .error _ => Before disk encoded after) ?_ (fun _ => ?_) fun error _ held => held.concluded error
  · refine ends_operation.weaken (fun _ held => held) fun result after reached => ?_
    cases result with
    | error error => exact reached
    | ok _ =>
        obtain ⟨synced, before, held, rfl⟩ := reached
        have receipt : Slot.mk before.now.receipt.entry true = ⟨.file encoded, true⟩ := by
          rw [held.receipt, equal]
        exact ⟨synced, ⟨receipt, held.along.step
          (sound_of_published receipt fun found => sound_older held.along.now found)⟩,
          held.unrenamed⟩
  refine Ends.bind ends_syncReceiptDirectory (fun _ => ?_) fun _ _ held => ?_
  · refine Ends.pure fun after reached => ?_
    obtain ⟨settled, before, ⟨synced, published, unrenamed⟩, rfl⟩ := reached
    exact ⟨published.settle, rfl, unrenamed, equal, synced, settled⟩
  · obtain ⟨_, published, _⟩ := held
    exact ⟨published.along, fun _ => (congrArg Slot.entry published.receipt).trans equal.symm⟩

theorem take_succ_eq_iff {content : Bytes} :
    content.take (encoded.length + 1) = encoded ↔ content = encoded := by
  constructor
  · intro taken
    have length := congrArg List.length taken
    rw [List.length_take] at length
    rw [← taken, List.take_of_length_le (by omega)]
  · rintro rfl
    exact List.take_of_length_le (Nat.le_succ _)

theorem openReadNoFollow_eq_ok {opened : Option IoError} {entry : Entry} {content : Bytes}
    (ran : openReadNoFollow opened entry = .ok content) : entry = .file content := by
  cases opened with
  | some error => cases ran
  | none =>
      cases entry with
      | absent => cases ran
      | other => cases ran
      | file held => rw [Except.ok.inj ran]

theorem ends_publishReceipt (directory : String) (identity : Identity) :
    Ends (· = History.start disk) (publishReceipt outcomes directory identity)
      (Concluded outcomes disk identity.encoded) := by
  have started : Before disk identity.encoded (History.start disk) := by
    refine ⟨rfl, rfl, rfl, fun visited inside => ?_⟩
    rw [List.mem_singleton.mp inside]
    exact sound_self
  refine Ends.bind Ends.get (fun history => ?_) nofun
  refine Ends.bind (Q := fun _ after => history = .start disk ∧ Before disk identity.encoded after)
    ?_ (fun _ => ?_) fun error _ held => held.2.concluded error
  · refine Ends.ofExcept fun after held => ?_
    obtain ⟨same, rfl⟩ := held
    exact ⟨Except.ok.inj same, started⟩
  refine Ends.assume fun same => ?_
  subst same
  cases opened : openReadNoFollow (outcomes.fails .opening) (History.start disk).now.receipt.entry with
  | error error =>
      refine Ends.branch (fun _ => ends_publishStaged) fun _ => ?_
      exact Ends.throw fun _ held => held.concluded _
  | ok content =>
      refine Ends.bind (Q := fun _ after => Before disk identity.encoded after)
        (Ends.ofExcept fun _ held => held) (fun _ => ?_) fun error _ held => held.concluded error
      refine Ends.branch (fun taken => ends_resync ?_) fun _ => ends_publishStaged
      rw [← take_succ_eq_iff.mp taken]
      exact openReadNoFollow_eq_ok opened

theorem ends_recordReceipt (consumed : Except IoError Unit) (directory : String)
    (identity : Identity) :
    Ends (· = History.start disk) (recordReceipt consumed outcomes directory identity)
      (Concluded outcomes disk identity.encoded) := by
  refine Ends.bind (Q := fun _ after => after = History.start disk) (Ends.ofExcept fun _ held => held)
    (fun _ => ends_publishReceipt directory identity) fun _ _ held => ?_
  subst held
  refine ⟨fun visited inside => ?_, fun _ => rfl⟩
  rw [List.mem_singleton.mp inside]
  exact sound_self

/-- Where nothing fails and both names can be opened, a call answers whether it changed the
receipt. -/
theorem recordReceipt_answers {consumed : Except IoError Unit} {directory : String}
    {identity : Identity} (clear : rejectLegacy consumed = .ok ())
    (nothing : ∀ phase, outcomes.fails phase = none) (receipt : disk.receipt.entry ≠ .other)
    (staging : disk.staging.entry ≠ .other) :
    (recordReceipt consumed outcomes directory identity (.start disk)).1 =
      .ok (decide (disk.receipt.entry ≠ .file identity.encoded)) := by
  have publishes : ∀ encoded,
      (publishStaged outcomes encoded (.start disk)).1 = .ok true := by
    intro encoded
    have opened := @openStaging_clear outcomes (.start disk) (nothing _) staging
    simp only [publishStaged, bind, opened, writeAll, renameStaging, syncReceiptDirectory_clear nothing,
      operation_clear (nothing _), change, Sequential.modify, pure]
  have ran : recordReceipt consumed outcomes directory identity (.start disk) =
      publishReceipt outcomes directory identity (.start disk) := by
    simp only [recordReceipt, bind, Sequential.ofExcept, clear]
  rw [ran]
  cases held : disk.receipt.entry with
  | other => exact absurd held receipt
  | absent =>
      have opens : publishReceipt outcomes directory identity (.start disk) =
          publishStaged outcomes identity.encoded (.start disk) := by
        simp only [publishReceipt, bind, Sequential.get, reporting, Sequential.ofExcept, nothing,
          openReadNoFollow, durableMarkerExists, Except.mapError, History.start, held]
        rfl
      rw [opens, publishes]
      simp
  | file content =>
      have opens : publishReceipt outcomes directory identity (.start disk) =
          (if content.take (identity.encoded.length + 1) = identity.encoded then resync outcomes
            else publishStaged outcomes identity.encoded) (.start disk) := by
        simp only [publishReceipt, bind, Sequential.get, reporting, Sequential.ofExcept, nothing,
          openReadNoFollow, durableMarkerExists, Except.mapError, History.start, held,
          Option.elim_none]
      rw [opens]
      by_cases same : content = identity.encoded
      · rw [if_pos (take_succ_eq_iff.mpr same)]
        simp only [resync, operation, syncReceiptDirectory, reporting, nothing, Option.elim_none,
          bind, pure, Sequential.ofExcept, Except.mapError, change, Sequential.modify, same]
        simp
      · rw [if_neg fun taken => same (take_succ_eq_iff.mp taken), publishes]
        simp [same]

/-- Readers of the receipt always meet the previous one or the complete new one. An answer is given
for a receipt that survives, and a failure before the rename leaves the previous one. What an
identity names stays valid while the log grows, and nothing else is valid for it. -/
theorem local_receipts [Codec] :
    (∀ consumed outcomes directory identity disk,
      let ended := recordReceipt consumed outcomes directory identity (.start disk)
      (∀ visited ∈ ended.2.visited,
        (visited.receipt.entry = disk.receipt.entry ∨
          visited.receipt.entry = .file identity.encoded) ∧
        ∀ found, visited.MayShow found → disk.MayShow found ∨ found = .file identity.encoded) ∧
      (ended.1 = .ok true → ended.2.now.receipt.entry = .file identity.encoded ∧
        (∀ found, ended.2.now.MayShow found → found = .file identity.encoded) ∧
        outcomes.fails .prepareFileSync = none ∧ outcomes.fails .publishedDirectorySync = none) ∧
      (ended.1 = .ok false → disk.receipt.entry = .file identity.encoded ∧
        ended.2.now.receipt.entry = .file identity.encoded ∧
        (∀ found, ended.2.now.MayShow found → found = .file identity.encoded) ∧
        outcomes.fails .duplicateFileSync = none ∧ outcomes.fails .publishedDirectorySync = none) ∧
      ∀ error, ended.1 = .error error → ended.2.renamed = false →
        ended.2.now.receipt.entry = disk.receipt.entry) ∧
    ∀ recorded bytes snapshot atOpen reads readError,
      acquire (.file atOpen reads readError) recorded bytes = .ok snapshot →
      (∀ openedLater readsLater, reads <+: openedLater → openedLater <+: readsLater →
        validate (.file openedLater readsLater none) recorded snapshot.identity = .ok ()) ∧
      ∃ output, output <+: reads ∧ snapshot.output = hex output ∧
        ∀ later, (∀ found, Covers later found → Codec.sha256 found = Codec.sha256 output →
            found = output) →
          (validate later recorded snapshot.identity = .ok () ↔ Covers later output) := by
  constructor
  · intro consumed outcomes directory identity disk
    have concluded := @ends_recordReceipt outcomes disk consumed directory
      identity _ rfl
    have shows : ∀ history : History, Published disk identity.encoded history →
        history.now.older = [] → ∀ found, history.now.MayShow found →
          found = .file identity.encoded := by
      intro history published settled found
      rintro ⟨slot, inside, held⟩
      rw [settled] at inside
      rw [List.mem_singleton.mp inside, published.receipt] at held
      exact Slot.mayHold_synced held
    revert concluded
    generalize recordReceipt consumed outcomes directory identity (.start disk) = ended
    obtain ⟨result, history⟩ := ended
    intro concluded
    match result, concluded with
    | .ok true, ⟨published, settled, _, synced, named⟩ =>
        refine ⟨published.along, fun _ => ?_, nofun, nofun⟩
        exact ⟨congrArg Slot.entry published.receipt, shows history published settled, synced, named⟩
    | .ok false, ⟨published, settled, _, equal, synced, named⟩ =>
        refine ⟨published.along, nofun, fun _ => ?_, nofun⟩
        exact ⟨equal, congrArg Slot.entry published.receipt, shows history published settled,
          synced, named⟩
    | .error error, ⟨along, kept⟩ => exact ⟨along, nofun, nofun, fun _ _ => kept⟩
  · intro recorded bytes snapshot atOpen reads readError ran
    obtain ⟨output, covers, named, shown⟩ := acquired ran
    rw [named]
    constructor
    · intro openedLater readsLater opened read
      exact validate_identity_eq_ok.mpr ⟨output, covers.append rfl opened read, rfl, rfl⟩
    · obtain ⟨_, _, same, _, inside⟩ := covers
      cases same
      refine ⟨output, inside, shown, fun later apart => ?_⟩
      rw [validate_identity_eq_ok]
      constructor
      · rintro ⟨found, covers, _, digest⟩
        exact apart found covers digest ▸ covers
      · exact fun covers => ⟨output, covers, rfl, rfl⟩

end Calls

end RetainedOutput

end AgentBash
