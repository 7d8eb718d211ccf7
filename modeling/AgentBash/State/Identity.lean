import AgentBash.State.Meta

/-!
# Process identity evidence

A recorded identity is a pid with its start time and boot. What the process table says of it
now is one of four answers; only two of them are conclusive. The table answers a pid with the
start time that `/proc/<pid>/stat` shows, with its absence, or with nothing readable.
-/

namespace AgentBash

set_option autoImplicit false

inductive ProcStat
  | running (starttimeTicks : Nat)
  | notFound
  | unreadable
  deriving DecidableEq, Repr

abbrev ProcessTable := Int → ProcStat

inductive ProcessIdentityEvidence
  | live | gone | mismatch | unavailable
  deriving DecidableEq, Repr

namespace ProcessIdentityEvidence

/-- What `/proc` says of a pid whose recorded boot is the current one. -/
def ofStat (starttimeTicks : Nat) : ProcStat → ProcessIdentityEvidence
  | .running actual => if actual = starttimeTicks then .live else .mismatch
  | .notFound => .gone
  | .unreadable => .unavailable

def conclusive : ProcessIdentityEvidence → Bool
  | .gone | .mismatch => true
  | .live | .unavailable => false

end ProcessIdentityEvidence

/-- An identity is only compared where all of it was recorded and the boot is known. -/
def inspectProcessIdentity (table : ProcessTable) (pid : Option Int)
    (expectedStarttimeTicks : Option Nat) (expectedBootId : Option String)
    (currentBootId : String) : ProcessIdentityEvidence :=
  match pid, expectedStarttimeTicks, expectedBootId with
  | some pid, some ticks, some boot =>
      if pid ≤ 1 || ticks == 0 || boot.isEmpty || currentBootId.isEmpty then .unavailable
      else if boot ≠ currentBootId then .mismatch
      else .ofStat ticks (table pid)
  | _, _, _ => .unavailable

namespace Meta

def supervisorEvidence (record : Meta) (table : ProcessTable) (boot : String) :
    ProcessIdentityEvidence :=
  inspectProcessIdentity table record.supervisorPid record.supervisorPidStarttimeTicks
    record.processBootId boot

def workloadEvidence (record : Meta) (table : ProcessTable) (boot : String) :
    ProcessIdentityEvidence :=
  inspectProcessIdentity table record.workloadPid record.workloadPidStarttimeTicks
    record.processBootId boot

end Meta

/-- The reaper's reading: a reused pid is as good as a missing one. -/
def processIsGoneOrReused (table : ProcessTable) (pid : Option Int)
    (starttimeTicks : Option Nat) (processBootId : Option String) (boot : String) : Bool :=
  (inspectProcessIdentity table pid starttimeTicks processBootId boot).conclusive

def metaProcessesAreGoneOrReused (record : Meta) (table : ProcessTable) (boot : String) : Bool :=
  processIsGoneOrReused table record.supervisorPid record.supervisorPidStarttimeTicks
      record.processBootId boot &&
    processIsGoneOrReused table record.workloadPid record.workloadPidStarttimeTicks
      record.processBootId boot

/-- Without a boot that is the recorded one, no evidence is ever `gone`. -/
theorem boot_of_gone {table : ProcessTable} {pid : Option Int} {ticks : Option Nat}
    {recorded : Option String} {boot : String}
    (gone : inspectProcessIdentity table pid ticks recorded boot = .gone) :
    recorded = some boot ∧ boot.isEmpty = false ∧
      ∃ number, pid = some number ∧ table number = .notFound := by
  unfold inspectProcessIdentity at gone
  split at gone
  · next number started origin =>
    split at gone
    · cases gone
    · next complete =>
      split at gone
      · cases gone
      · next same =>
        have recordedNow : origin = boot := not_ne_iff.mp same
        have absent : table number = .notFound := by
          cases stat : table number with
          | notFound => rfl
          | running actual =>
              rw [stat] at gone
              simp only [ProcessIdentityEvidence.ofStat] at gone
              split at gone <;> cases gone
          | unreadable =>
              rw [stat] at gone
              cases gone
        have present : boot.isEmpty = false := by
          by_contra empty
          simp only [Bool.not_eq_false] at empty
          simp [empty] at complete
        exact ⟨congrArg some recordedNow, present, number, rfl, absent⟩
  · cases gone

end AgentBash
