import AgentBash.Supervisor.Terminal
import AgentBash.State.Alone

/-!
# Reconciling a lost supervisor

A status call and the guardian publish a lost supervisor once the process table shows nobody
under the recorded supervisor and workload pids. The reaper reads the same evidence, but a
reused pid or another boot is conclusive for it as well.
-/

namespace AgentBash

set_option autoImplicit false

open Durable

section Reconciliation

def exactSupervisorAndWorkloadAreGone (record : Meta) : Script Bool :=
  if !runningExitMode record then pure false
  else do
    let boot : String ← outsideAsk .bootId
    if boot.isEmpty then pure false
    else do
      let table : ProcessTable ← outsideAsk .processTable
      if record.supervisorEvidence table boot = .gone then do
        let table : ProcessTable ← outsideAsk .processTable
        pure (record.workloadEvidence table boot == .gone)
      else pure false

/-- A guardian that saw an empty tree settles an accepted cancellation without identities. -/
def lossIsConclusive (record : Meta) (acceptedCancelTreeEmpty : Bool) : Script Bool :=
  if acceptedCancelTreeEmpty then do
    if ← explicitCancelAccepted then pure true else exactSupervisorAndWorkloadAreGone record
  else exactSupervisorAndWorkloadAreGone record

def deliverTerminal (record : Meta) (disposition : CompletionDeliveryDisposition) (role : Bool) :
    Script Meta :=
  if disposition = .claimPending then reconcileCompletionDelivery record role else pure record

def reconcileLostSupervisorLocked (disposition : CompletionDeliveryDisposition)
    (acceptedCancelTreeEmpty role : Bool) : Script Meta := do
  let record ← readMeta
  if terminal record then deliverTerminal record disposition role
  else do
    if ← lossIsConclusive record acceptedCancelTreeEmpty then do
      let published ← publishTerminalWithDeliveryDisposition record false .supervisorLost
        disposition role
      pure published.1
    else pure record

/-- The reconciliation of a targeted status call. -/
def reconcileLostSupervisor (role : Bool) : Script Meta :=
  locked .reconciliation (reconcileLostSupervisorLocked .claimPending false role)

def reconcileLostSupervisorForList (role : Bool) : Script Meta :=
  locked .reconciliation (reconcileLostSupervisorLocked .leavePending false role)

/-- The guardian never waits for the lock; its own polling comes back to it. -/
def reconcileLostSupervisorAfterGuardian (acceptedCancelTreeEmpty role : Bool) :
    Script (Option Meta) := do
  if ← tryLock .reconciliation then
    let result ← (reconcileLostSupervisorLocked .leavePending acceptedCancelTreeEmpty role).attempt
    unlock .reconciliation
    let record ← Io.ofExcept result
    pure (some record)
  else pure none

end Reconciliation

section Agreement

/-- What one status call or one turn of the guardian sees: one boot, one process table and one
time; everything else outside answers as it likes. -/
def observing (boot : String) (table : ProcessTable) (now : Nat) (others : Oracle outside) :
    Oracle outside
  | .bootId => .text boot
  | .processTable => .processes table
  | .unixMs => .time now
  | op => others op

variable {boot : String} {table : ProcessTable} {now pid : Nat} {others : Oracle outside}
  {disk : HandleDisk} {record : Meta}

/-- The persisted record is terminal. -/
def TerminalOnDisk (disk : HandleDisk) : Prop :=
  ∃ record, disk.files File.metaJson = some record ∧ terminal record = true

theorem does_bootId :
    Does (observing boot table now others) pid (outsideAsk .bootId) disk (.ok boot) disk :=
  does_ask rfl

theorem does_processTable :
    Does (observing boot table now others) pid (outsideAsk .processTable) disk (.ok table) disk :=
  does_ask rfl

theorem does_readStamp :
    Does (observing boot table now others) pid readStamp disk (.ok ⟨now, now⟩) disk := by
  have clock : Does (observing boot table now others) pid (outsideAsk .unixMs) disk
      (.ok now) disk := does_ask rfl
  exact Does.bind clock (Does.bind clock (Does.pure _))

/-- Reconciliation only takes evidence of absence, and both identities have to be absent. -/
theorem does_exactSupervisorAndWorkloadAreGone (running : runningExitMode record = true)
    (known : boot.isEmpty = false) {gone : Bool}
    (decided : gone = true ↔ record.supervisorEvidence table boot = .gone ∧
      record.workloadEvidence table boot = .gone) :
    Does (observing boot table now others) pid (exactSupervisorAndWorkloadAreGone record) disk
      (.ok gone) disk := by
  unfold exactSupervisorAndWorkloadAreGone
  rw [running]
  refine Does.bind does_bootId ?_
  rw [known]
  refine Does.bind does_processTable ?_
  by_cases supervisor : record.supervisorEvidence table boot = .gone
  · simp only [supervisor, if_true]
    refine Does.bind does_processTable ?_
    have same : (record.workloadEvidence table boot == .gone) = gone := by
      rw [Bool.eq_iff_iff, decided]
      simp [supervisor]
    rw [same]
    exact Does.pure gone
  · simp only [supervisor, if_false]
    have same : gone = false := by
      by_contra other
      exact supervisor (decided.mp (by simpa using other)).1
    rw [same]
    exact Does.pure false

/-- The publisher writes a terminal record whether or not a cancellation was accepted. -/
theorem does_writeTerminal (proposal : TerminalProposal) :
    ∃ published after, Does (observing boot table now others) pid (writeTerminal record proposal)
      disk (.ok published) after ∧ TerminalOnDisk after := by
  refine ⟨_, _, Does.bind does_readStamp (Does.bind (does_atomicWrite _ _)
    (Does.bind (does_writeMetaAtomic _) (Does.pure _))), ?_⟩
  refine ⟨_, Disk.put_same _ (L := layout) _ _, ?_⟩
  exact TerminalProposal.apply_terminal record ⟨now, now⟩ proposal

/-- A handle that nobody else is publishing or reconciling. -/
structure Unattended (disk : HandleDisk) (record : Meta) : Prop where
  stored : disk.files File.metaJson = some record
  reconciliation : disk.held Lock.reconciliation = []
  completion : disk.held Lock.completion = []

theorem Unattended.completion_free (unattended : Unattended disk record) :
    (disk.acquire (L := layout) Lock.reconciliation pid).held Lock.completion = [] := by
  rw [Disk.acquire_other (L := layout) disk pid (by decide)]
  exact unattended.completion

theorem not_terminal_of_running (running : runningExitMode record = true) :
    terminal record = false := by
  unfold runningExitMode at running
  simp only [Bool.and_eq_true, beq_iff_eq] at running
  unfold terminal
  simp [running.1]

/-- Outside the live loop a lost supervisor is always published, as lost or as cancelled. -/
theorem reaches_publishTerminal {disposition : CompletionDeliveryDisposition} {role : Bool}
    (free : disk.held Lock.completion = []) (stored : disk.files File.metaJson = some record)
    (open_ : terminal record = false) (outside : ∀ empty, disposition ≠ .liveLoop empty) :
    Reaches (observing boot table now others) pid
      (publishTerminalWithDeliveryDisposition record false .supervisorLost disposition role)
      disk TerminalOnDisk := by
  refine Reaches.first (reaches_locked free ?_)
  unfold publishTerminalLocked
  refine Reaches.after (does_readFile stored) ?_
  have fresh : Does (observing boot table now others) pid (alreadyPublished record)
      (disk.acquire (L := layout) Lock.completion pid) (.ok false)
      (disk.acquire (L := layout) Lock.completion pid) := by
    unfold alreadyPublished
    rw [open_]
    exact Does.pure false
  refine Reaches.after fresh ?_
  refine Reaches.after (does_tryExists File.acceptedCancel) ?_
  generalize (((disk.acquire (L := layout) Lock.completion pid).files
    File.acceptedCancel).isSome) = accepted
  have live : (accepted && decide (disposition = .liveLoop false)) = false := by
    simp [outside false]
  simp only [live]
  have writes (proposal : TerminalProposal) : Reaches (observing boot table now others) pid
      (do
        drainBeforePublication accepted disposition proposal
        syncOptionalLog false
        let published ← writeTerminal { record with delivery := record.delivery } proposal
        pure (published, TerminalPublishResult.published))
      (disk.acquire (L := layout) Lock.completion pid) TerminalOnDisk := by
    have undrained : drainBeforePublication accepted disposition proposal = pure () := by
      unfold drainBeforePublication
      simp [outside true]
    rw [undrained]
    refine Reaches.after (Does.pure ()) (Reaches.after (Does.pure ()) ?_)
    obtain ⟨published, after, does, holds⟩ := does_writeTerminal proposal
    exact Reaches.of_does (Does.bind does (Does.pure _)) holds
  cases accepted with
  | true => exact writes (.cancellation .explicitRequest)
  | false => exact writes .supervisorLost

/-- What one reconciliation under its lock does when both identities are absent. -/
theorem reaches_reconcileLostSupervisorLocked {disposition : CompletionDeliveryDisposition}
    {settled role : Bool} (free : disk.held Lock.completion = [])
    (stored : disk.files File.metaJson = some record) (running : runningExitMode record = true)
    (supervisor : record.supervisorEvidence table boot = .gone)
    (workload : record.workloadEvidence table boot = .gone)
    (outside : ∀ empty, disposition ≠ .liveLoop empty) :
    Reaches (observing boot table now others) pid
      (reconcileLostSupervisorLocked disposition settled role) disk TerminalOnDisk := by
  have open_ := not_terminal_of_running running
  have known : boot.isEmpty = false := (boot_of_gone supervisor).2.1
  have gone : Does (observing boot table now others) pid
      (exactSupervisorAndWorkloadAreGone record) disk (.ok true) disk :=
    does_exactSupervisorAndWorkloadAreGone running known ⟨fun _ => ⟨supervisor, workload⟩,
      fun _ => rfl⟩
  have lost : Does (observing boot table now others) pid (lossIsConclusive record settled) disk
      (.ok true) disk := by
    unfold lossIsConclusive
    cases settled with
    | false => exact gone
    | true =>
        refine Does.bind (does_tryExists File.acceptedCancel) ?_
        cases (disk.files File.acceptedCancel).isSome with
        | true => exact Does.pure true
        | false => exact gone
  unfold reconcileLostSupervisorLocked
  refine Reaches.after (does_readFile stored) ?_
  rw [open_]
  refine Reaches.after lost ?_
  exact Reaches.first (reaches_publishTerminal free stored open_ outside)

/-- Evidence of a reused pid or of another boot leaves the record as it is. -/
theorem does_reconcileLostSupervisorLocked {disposition : CompletionDeliveryDisposition}
    {role : Bool} (stored : disk.files File.metaJson = some record)
    (running : runningExitMode record = true) (known : boot.isEmpty = false)
    (present : ¬(record.supervisorEvidence table boot = .gone ∧
      record.workloadEvidence table boot = .gone)) :
    Does (observing boot table now others) pid
      (reconcileLostSupervisorLocked disposition false role) disk (.ok record) disk := by
  have open_ := not_terminal_of_running running
  unfold reconcileLostSupervisorLocked
  refine Does.bind (does_readFile stored) ?_
  rw [open_]
  have kept : Does (observing boot table now others) pid (lossIsConclusive record false) disk
      (.ok false) disk :=
    does_exactSupervisorAndWorkloadAreGone running known ⟨nofun, fun gone => absurd gone present⟩
  exact Does.bind kept (Does.pure record)

theorem boot_of_conclusive {ticks : Option Nat} {number : Option Int} {recorded : Option String}
    (conclusive : processIsGoneOrReused table number ticks recorded boot = true) :
    boot.isEmpty = false := by
  unfold processIsGoneOrReused inspectProcessIdentity at conclusive
  by_contra empty
  simp only [Bool.not_eq_false] at empty
  split at conclusive
  · simp [empty, ProcessIdentityEvidence.conclusive] at conclusive
  · cases conclusive

theorem does_afterGuardian {settled role : Bool} {result : Meta} {after : HandleDisk}
    (free : disk.held Lock.reconciliation = [])
    (does : Does (observing boot table now others) pid
      (reconcileLostSupervisorLocked .leavePending settled role)
      (disk.acquire (L := layout) Lock.reconciliation pid) (.ok result) after) :
    Does (observing boot table now others) pid (reconcileLostSupervisorAfterGuardian settled role)
      disk (.ok (some result)) (after.release (L := layout) Lock.reconciliation pid) :=
  Does.bind (does_tryLock free) (Does.bind (Does.attempt does) (Does.bind (Does.ask rfl)
    (Does.bind (Does.ofExcept _) (Does.pure _))))

theorem reconciliation_keeps {role : Bool} (unattended : Unattended disk record)
    (running : runningExitMode record = true)
    (conclusive : metaProcessesAreGoneOrReused record table boot = true)
    (present : ¬(record.supervisorEvidence table boot = .gone ∧
      record.workloadEvidence table boot = .gone)) :
    (∃ after, Does (observing boot table now others) pid (reconcileLostSupervisor role) disk
      (.ok record) after ∧ after.files = disk.files) ∧
    ∃ after, Does (observing boot table now others) pid
      (reconcileLostSupervisorAfterGuardian false role) disk (.ok (some record)) after ∧
      after.files = disk.files := by
  unfold metaProcessesAreGoneOrReused at conclusive
  simp only [Bool.and_eq_true] at conclusive
  have known := boot_of_conclusive conclusive.1
  constructor
  · exact ⟨_, does_locked unattended.reconciliation
      (does_reconcileLostSupervisorLocked unattended.stored running known present), rfl⟩
  · exact ⟨_, does_afterGuardian unattended.reconciliation
      (does_reconcileLostSupervisorLocked unattended.stored running known present), rfl⟩

/-- The reaper and reconciliation read the same evidence: absence of both processes settles a
running handle for either of them, while evidence of reuse only counts for the reaper. -/
theorem exit_evidence_agreement (others : Oracle outside) (disk : HandleDisk) (record : Meta)
    (table : ProcessTable) (boot : String) (now pid : Nat) (settled role : Bool)
    (unattended : Unattended disk record) (running : runningExitMode record = true)
    (conclusive : metaProcessesAreGoneOrReused record table boot = true) :
    (record.supervisorEvidence table boot = .gone ∧ record.workloadEvidence table boot = .gone →
      Reaches (observing boot table now others) pid (reconcileLostSupervisor role) disk
          TerminalOnDisk ∧
        Reaches (observing boot table now others) pid
          (reconcileLostSupervisorAfterGuardian settled role) disk TerminalOnDisk) ∧
    (¬(record.supervisorEvidence table boot = .gone ∧
        record.workloadEvidence table boot = .gone) →
      (∃ after, Does (observing boot table now others) pid (reconcileLostSupervisor role) disk
        (.ok record) after ∧ after.files = disk.files) ∧
      ∃ after, Does (observing boot table now others) pid
        (reconcileLostSupervisorAfterGuardian false role) disk (.ok (some record)) after ∧
        after.files = disk.files) := by
  have free : (disk.acquire (L := layout) Lock.reconciliation pid).held Lock.completion = [] :=
    unattended.completion_free
  constructor
  · rintro ⟨supervisor, workload⟩
    constructor
    · exact reaches_locked unattended.reconciliation
        (reaches_reconcileLostSupervisorLocked free unattended.stored running supervisor workload
          nofun)
    · refine Reaches.after (does_tryLock unattended.reconciliation) ?_
      exact Reaches.first (Reaches.attempt (reaches_reconcileLostSupervisorLocked free
        unattended.stored running supervisor workload nofun))
  · exact reconciliation_keeps unattended running conclusive

/-- A running handle whose supervisor was pid 40 and whose workload was pid 41. -/
def orphanedRecord : Meta where
  supervisorPid := some 40
  supervisorPidStarttimeTicks := some 7
  workloadPid := some 41
  workloadPidStarttimeTicks := some 8
  processBootId := some "a"

def orphanedHandle : HandleDisk :=
  restingHandle fun | .metaJson => some orphanedRecord | _ => none

theorem orphanedHandle_unattended : Unattended orphanedHandle orphanedRecord := ⟨rfl, rfl, rfl⟩

theorem exit_evidence_agreement_absent :
    Reaches (observing "a" (fun _ => .notFound) 5 fun _ => .agree) 1
        (reconcileLostSupervisor false) orphanedHandle TerminalOnDisk ∧
      Reaches (observing "a" (fun _ => .notFound) 5 fun _ => .agree) 1
        (reconcileLostSupervisorAfterGuardian false false) orphanedHandle TerminalOnDisk :=
  (exit_evidence_agreement (fun _ => .agree) orphanedHandle orphanedRecord (fun _ => .notFound) "a"
    5 1 false false orphanedHandle_unattended rfl (by decide)).1 (by decide)

/-- Both pids now belong to younger processes: the reaper may delete the handle, and neither a
status call nor the guardian ever publishes it. -/
theorem reused_pids_stay_running :
    metaProcessesAreGoneOrReused orphanedRecord (fun _ => .running 900) "a" = true ∧
      terminal orphanedRecord = false ∧
      (∃ after, Does (observing "a" (fun _ => .running 900) 5 fun _ => .agree) 1
        (reconcileLostSupervisor false) orphanedHandle (.ok orphanedRecord) after ∧
        after.files = orphanedHandle.files) ∧
      ∃ after, Does (observing "a" (fun _ => .running 900) 5 fun _ => .agree) 1
        (reconcileLostSupervisorAfterGuardian false false) orphanedHandle
        (.ok (some orphanedRecord)) after ∧ after.files = orphanedHandle.files :=
  ⟨by decide, rfl, reconciliation_keeps orphanedHandle_unattended rfl (by decide) (by decide)⟩

end Agreement

end AgentBash
