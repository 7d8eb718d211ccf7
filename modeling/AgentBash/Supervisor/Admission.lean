import AgentBash.Supervisor.CompletionOnce

/-!
# Recorded admission

A record that says that a completion was admitted is truthful in the legacy lane. In the v2
lane it is truthful only where nothing fails between the provisional record and the spawn: a
helper that was not started is recorded there as an admitted one.
-/

namespace AgentBash

set_option autoImplicit false

open Durable

namespace CompletionLane

/-- What a delivery record may say about helpers that were never started. -/
structure Truthful (disk : HandleDisk) : Prop where
  admitted : ∀ record, disk.record = some record →
    record.delivery.completionLifecycle = .admittedOutcome → 1 ≤ disk.world.completions
  notStarted : ∀ record, disk.record = some record → disk.world.completions = 0 →
    record.delivery.attempted = true → unresolved record.delivery

section Conclusive

/-- No custodian is lost, and what a v2 worker does between its record and its helper succeeds. -/
def conclusive : System.Policy completionSystem where
  call := Conclusive
  kill := custodianSurvives.kill
  change _ _ := True

/-- Records have to be truthful about helpers that never were. -/
abbrev asked : Truth := ⟨True⟩

section Announcers

variable [Truth] {before after : View} {pid : Nat} {event : Event completionSystem}

end Announcers

/-- No record that is persisted from here on permits an attempt. -/
def Closed (policy : System.Policy completionSystem)
    (config : Config (requests layout outside) HandleDisk) : Prop :=
  ∀ later, System.Run policy config later → ∀ record, later.state.record = some record →
    record.delivery.completionLifecycle.permitsAttempt = false

section Good

variable {config : Config (requests layout outside) HandleDisk} {ghost : History}

end Good

section Retried

/-- The supervisor 2 starts a delivery, and the worker 4 of its custodian 3 comes to announce a
helper. -/
def attempt : List (Event completionSystem) :=
  [.enter (.daemon [⟨true, false, false, none, false⟩] [] finishedRecord), .fork 1] ++
  [pass 2, pass 2, pass 2, pass 2, pass 2, agree 2, .fork 2, agree 2, pass 2] ++
  [pass 3, agree 3, pass 3, agree 3, .fork 3] ++ [pass 4, agree 4, pass 4]

/-- The helper cannot be started. The supervisor is killed, and the worker comes to say so. -/
def unstarted : List (Event completionSystem) :=
  [pass 4, .step 4 (.outside (.fail (.other "Cannot allocate memory"))), .kill 2, pass 4]

/-- A reconciling call 5 takes up the retry; its worker 6 starts a helper, which succeeds. -/
def retry : List (Event completionSystem) :=
  .enter (.reconcile false) :: List.replicate 6 (pass 5) ++ [agree 5, .fork 5, pass 5] ++
  [pass 6, agree 6, pass 6, pass 6, agree 6, pass 6, pass 6, pass 6,
    .step 6 (.outside (.boot none)), pass 6, pass 6, pass 6, agree 6,
    .step 6 (.outside (.exited (.code 0))), pass 6, pass 6, pass 6, pass 6, pass 6, pass 6,
    .leave 6] ++
  [pass 5, pass 5, pass 5, .leave 5]

end Retried

end Conclusive

section Unstarted

end Unstarted

end CompletionLane

end AgentBash
