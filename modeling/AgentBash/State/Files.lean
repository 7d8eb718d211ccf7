import AgentBash.State.Handle

/-!
# Reading and writing the handle directory

The scripts of `state.rs`. An atomic write is a rename followed by a directory sync, so it
may report an error after it took effect. Opening the directory changes nothing and may
fail; it is the same request as syncing it.
-/

namespace AgentBash

set_option autoImplicit false

open Durable

section Requests

def outsideAsk (op : Outside) : Script op.Result := Io.ask (L := layout) (E := outside) (.external op)

def readFile (file : File) : Script file.Content := Io.ask (L := layout) (E := outside) (.read file)

def replaceFile (file : File) (content : file.Content) : Script Unit :=
  Io.ask (L := layout) (E := outside) (.replace file content)

def createFile (file : File) (content : file.Content) : Script Unit :=
  Io.ask (L := layout) (E := outside) (.create file content)

def removeFile (file : File) : Script Unit := Io.ask (L := layout) (E := outside) (.remove file)

def syncDirectory : Script Unit := Io.ask (L := layout) (E := outside) .sync

def openDirectory : Script Unit := syncDirectory

def lock (name : Lock) : Script Unit := Io.ask (L := layout) (E := outside) (.lock name)

def tryLock (name : Lock) : Script Bool := Io.ask (L := layout) (E := outside) (.tryLock name)

def unlock (name : Lock) : Script Unit := Io.ask (L := layout) (E := outside) (.unlock name)

def keepOnly (name : Lock) : Script Unit := Io.ask (L := layout) (E := outside) (.keepOnly name)

def waitPid (pid : Nat) : Script (Option Nat) := Io.ask (L := layout) (E := outside) (.wait pid)

def pollPid (pid : Nat) : Script (Option (Option Nat)) :=
  Io.ask (L := layout) (E := outside) (.poll pid)

def enterGate : Script Bool := Io.ask (L := layout) (E := outside) .enter

def admitChild (pid : Nat) : Script Unit := Io.ask (L := layout) (E := outside) (.openGate pid)

def dismissChild (pid : Nat) : Script Unit := Io.ask (L := layout) (E := outside) (.dismiss pid)

def park : Script Unit := Io.ask (L := layout) (E := outside) .park

/-- A lock guard leaves its scope whatever the body answers. -/
def locked {α : Type} (name : Lock) (body : Script α) : Script α := do
  lock name
  let result ← body.attempt
  unlock name
  Io.ofExcept result

end Requests

def atomicWrite (file : File) (content : file.Content) : Script Unit := do
  replaceFile file content
  syncDirectory

/-- `NotFound` is an answer; every other error is handed on. -/
def readOptional (file : File) : Script (Option file.Content) := do
  match ← (readFile file).attempt with
  | .ok content => pure (some content)
  | .error error => if error.kind = .notFound then pure none else Io.throw error

def tryExists (file : File) : Script Bool := do
  return (← readOptional file).isSome

def durableMarkerExists (marker : File) : Script Bool := tryExists marker

def readMeta : Script Meta := readFile .metaJson

def readDeliveryMode : Script DeliveryMode := do
  return (← readOptional .deliveryMode).getD .async

def writeDeliveryModeAtomic (mode : DeliveryMode) : Script Unit :=
  atomicWrite .deliveryMode mode

/-- The mode file is canonical: a readable mode replaces the mirror in the record. -/
def writeMetaAtomic (record : Meta) : Script Unit := do
  match ← readDeliveryMode.attempt with
  | .ok mode => atomicWrite .metaJson { record with deliveryMode := mode }
  | .error _ => atomicWrite .metaJson record

def writeRcAtomic (rc : Int) : Script Unit := atomicWrite .rc rc

def removeOptional (file : File) : Script Unit := do
  match ← (removeFile file).attempt with
  | .ok _ => syncDirectory
  | .error error => if error.kind = .notFound then pure () else Io.throw error

def rollbackCreatedMarker (marker : File) : Script Unit := removeOptional marker

def recordDurableCreateOnceMarker (marker : File) (content : marker.Content) :
    Script Bool := do
  openDirectory
  match ← (createFile marker content).attempt with
  | .ok _ =>
      match ← (do syncDirectory; syncDirectory : Script Unit).attempt with
      | .ok _ => pure true
      | .error publication =>
          match ← (rollbackCreatedMarker marker).attempt with
          | .ok _ => Io.throw publication
          | .error rollback =>
              Io.throw ⟨publication.kind, "failed to publish durable marker: " ++
                publication.detail ++ "; rollback failed: " ++ rollback.detail⟩
  | .error error => if error.kind = .alreadyExists then pure false else Io.throw error

def recordActivationAttempt : Script Bool := recordDurableCreateOnceMarker .activationAttempted ()

def rollbackActivationAttempt : Script Unit := do
  openDirectory
  rollbackCreatedMarker .activationAttempted

def writeActivationOutcome (outcome : ActivationRecord) : Script Unit :=
  atomicWrite .activationOutcome outcome

def removeActivationOutcome : Script Unit := removeOptional .activationOutcome

inductive ActivationTransferOutcome
  | unclaimed
  | claimedWithoutOutcome
  | pending
  | succeeded
  | preAdmissionFailed (error : String)
  | failed (error : String)
  | transferOutcomeUnknown
  deriving DecidableEq, Repr

structure ActivationTransferState where
  mode : DeliveryMode
  outcome : ActivationTransferOutcome
  deriving DecidableEq, Repr

def ActivationRecord.outcome : ActivationRecord → ActivationTransferOutcome
  | .pending => .pending
  | .succeeded => .succeeded
  | .preAdmissionFailed error => .preAdmissionFailed error
  | .failed error => .failed error
  | .transferOutcomeUnknown => .transferOutcomeUnknown

/-- The claim marker only matters while no outcome is recorded. -/
def activationTransferOutcome : Script ActivationTransferOutcome := do
  match ← readOptional .activationOutcome with
  | some record => pure (ActivationRecord.outcome record)
  | none => do
      let claimed ← durableMarkerExists .activationAttempted
      pure (if claimed then .claimedWithoutOutcome else .unclaimed)

def activationTransferState : Script ActivationTransferState := do
  let mode ← readDeliveryMode
  let outcome ← activationTransferOutcome
  pure ⟨mode, outcome⟩

/-- Any unreadable registration is retained, not mistaken for legacy state. -/
def continuationEnabled : Script Bool := do
  match ← (readFile .registration).attempt with
  | .ok _ => pure true
  | .error error => pure (error.kind != .notFound)

/-- Local enqueue duty may end at durable runner custody, never at listener ACK. -/
def handedOff : Script Bool := do
  let record ← readFile .continuationLocal
  if record.registration = .intent then pure false else tryExists .snapshot

section Custody

def recordExplicitCancelAcceptance : Script Bool := recordDurableCreateOnceMarker .acceptedCancel ()

def recordCancellationDrained : Script Unit := do
  let _ ← recordDurableCreateOnceMarker .cancellationDrained ()
  pure ()

/-- A reboot ends the whole former tree; anything unreadable may still be custody. -/
def bootCustodyMayRemain (marker : File) (recorded : marker.Content → BootId) (boot : BootId) :
    Script Bool := do
  match ← (readFile marker).attempt with
  | .ok content =>
      pure ((recorded content).isNone || boot.isNone || recorded content == boot)
  | .error error => pure (error.kind != .notFound)

def externalCustodyRetained (boot : BootId) : Script Bool := do
  if ← durableMarkerExists .externalTransferCustody then
    bootCustodyMayRemain .externalTransferCustody id boot
  else pure false

def beginExternalTransferCustody : Script Bool := do
  let boot ← outsideAsk .currentBootId
  if ← externalCustodyRetained boot then pure false
  else do
    atomicWrite .externalTransferCustody boot
    pure true

def endExternalTransferCustody : Script Unit := do
  openDirectory
  removeOptional .externalTransferCustody

def recordExternalCustodyCleanupError (error : IoError) : Script Unit :=
  atomicWrite .externalTransferCleanupError error.detail

end Custody

end AgentBash
