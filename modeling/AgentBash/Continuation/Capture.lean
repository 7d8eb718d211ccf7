import AgentBash.Continuation.Source
import AgentBash.Durable.Keeping
import AgentBash.Durable.Rules

/-!
# Capture, recovery and loss of the selected output

The scripts that meet in a source directory: the capture of the selected bytes with its named
and its anonymous attempt, the recovery of a completed copy, the missing-output observation and
the immutable publications around them. Capture and loss inventory run under one lease.
-/

namespace AgentBash

set_option autoImplicit false

open Durable

namespace Continuation

def tryExists (name : SourceName) : SourceScript Bool := sourceAsk (.tryExists name)

def symlinkMetadata (name : SourceName) : SourceScript Metadata := sourceAsk (.symlinkMetadata name)

def removeFile (name : SourceName) : SourceScript Unit := sourceAsk (.removeFile name)

def hardLink (source target : SourceName) : SourceScript Unit := sourceAsk (.hardLink source target)

def syncDirectory : SourceScript Unit := sourceAsk .syncDirectory

def readNode (name : SourceName) : SourceScript SourceNode := sourceAsk (.read name)

def openFile (name : SourceName) : SourceScript Nat := sourceAsk (.open_ name)

def createFile (name : SourceName) : SourceScript Nat := sourceAsk (.create name)

def metadata (file : Nat) : SourceScript Metadata := sourceAsk (.metadata file)

def readDir : SourceScript (List SourceName) := sourceAsk .readDir

def sameDirectory : SourceScript Bool := sourceAsk .sameDirectory

def readSelection : SourceScript Selection := sourceAsk .selection

def copyBytes (source target offset limit : Nat) : SourceScript Nat :=
  sourceAsk (.copy source target offset limit)

/-- The lease is taken without waiting for it. -/
def lock : SourceScript Bool := Io.ask (L := sourceLayout) (E := sourceOutside) (.tryLock .sourceCapture)

def unlock : SourceScript Unit := Io.ask (L := sourceLayout) (E := sourceOutside) (.unlock .sourceCapture)

/-- Publishes once: a name that is taken has to hold the same data. -/
def immutable (document : Document) (data : SourceNode) : SourceScript Unit := do
  if ← tryExists (.document document) then
    if (← readNode (.document document)) = data then pure ()
    else Io.throw (.other ("immutable source conflict: " ++ document.name))
  else do
    let temp ← sourceAsk (.stage document data)
    let linked ← (hardLink temp (.document document)).attempt
    removeFile temp
    match linked with
    | .ok _ => syncDirectory
    | .error error =>
        if error.kind ≠ .alreadyExists then Io.throw error
        else if (← readNode (.document document)) ≠ data then Io.throw error
        else syncDirectory

section Receipts

def receipt (copy : Copy) (found : Metadata) (selection : Selection) :
    SourceScript CopyReceipt := do
  match ← readNode (.receipt copy) with
  | .copyReceipt record =>
      if found.isFile && record.inode == found.inode && record.selection == selection &&
          some record.byteLen == selection.byteLen then pure record
      else Io.throw (.other "interrupted copy identity conflict")
  | _ => Io.throw (.other "interrupted copy identity conflict")

/-- A short fragment with a receipt of the lease has no writer any more. -/
def inactiveShortCopy (copy : Copy) (found : Metadata) (selection : Selection) :
    SourceScript Bool := do
  match ← (receipt copy found selection).attempt with
  | .error _ => pure false
  | .ok record =>
      pure (record.writer.isSome && !record.complete &&
        decide (found.len < selection.byteLen.getD 0))

/-- Links what was found as the output, once its handle confirms what the name said. -/
def publishCopy (copy : Copy) (found : Metadata) (selection : Selection) : SourceScript Bool := do
  let file ← openFile (.body copy)
  let actual ← metadata file
  let _ ← receipt copy actual selection
  if actual.len ≠ found.len then Io.throw (.other "completed copy changed")
  else do
    sourceAsk (.syncAll file)
    hardLink (.body copy) .output
    syncDirectory
    pure true

/-- The first completed copy of the selection among the names becomes the output. -/
def recoverFrom (selection : Selection) : List SourceName → SourceScript Bool
  | [] => pure false
  | .body copy :: rest => do
      let found ← symlinkMetadata (.body copy)
      match ← (receipt copy found selection).attempt with
      | .error _ => recoverFrom selection rest
      | .ok record =>
          if !record.complete || record.byteLen != found.len then recoverFrom selection rest
          else publishCopy copy found selection
  | _ :: rest => recoverFrom selection rest

def recoverCopy (selection : Selection) : SourceScript Bool := do
  let names ← readDir
  recoverFrom selection names

end Receipts

section Selected

/-- Names are only candidates: what was opened has to be the selected node, long enough. -/
def selectedAmong (selection : Selection) (length : Nat) : List SourceName → SourceScript Nat
  | [] => Io.throw (.other "no complete original selected inode in managed storage")
  | name :: rest => do
      let found ← symlinkMetadata name
      if selection.inode ≠ some found.inode then selectedAmong selection length rest
      else do
        let file ← openFile name
        let actual ← metadata file
        if actual.isFile && selection.inode == some actual.inode && decide (length ≤ actual.len) then
          pure file
        else selectedAmong selection length rest

def selectedFile (selection : Selection) : SourceScript Nat :=
  match selection.byteLen with
  | none => Io.throw (.other "original output selection missing")
  | some length => do
      if ← sameDirectory then do
        let names ← readDir
        selectedAmong selection length names
      else Io.throw (.other "original source directory changed")

def copySelected (source target length : Nat) : SourceScript Unit := do
  let first ← copyBytes source target 0 (min length 4096)
  let rest ← copyBytes source target first (length - first)
  if first + rest ≠ length then
    Io.throw (.other "original output selection was lost during copy")
  else sourceAsk (.syncAll target)

end Selected

/-- The names that an attempt created, with their nodes; a crash drops this knowledge. -/
abbrev Created := List (SourceName × Nat)

namespace Attempt

abbrev Attempted (α : Type) := Keeping (requests sourceLayout sourceOutside) Created α

def create (name : SourceName) : Attempted Nat := do
  let file ← Keeping.lift (createFile name)
  let _ ← Keeping.lift (metadata file)
  Keeping.modify fun created => created ++ [(name, file)]
  pure file

def saveReceipt (record : CopyReceipt) : Attempted Unit := do
  let file ← create (.pending .slot)
  Keeping.lift (sourceAsk (.write file (.copyReceipt record)))
  Keeping.lift (sourceAsk (.syncAll file))
  Keeping.lift (sourceAsk (.rename (.pending .slot) (.receipt .slot)))
  Keeping.modify fun created => created.dropLast ++ [(.receipt .slot, file)]
  Keeping.lift syncDirectory

def retained : SourceScript Bool := do
  if ← tryExists (.receipt .slot) then pure true else tryExists (.pending .slot)

def capture (source length : Nat) (selection : Selection) : Attempted Unit := do
  if ← Keeping.lift retained then
    Keeping.throw (.other "retained capture slot requires recovery")
  else do
    let file ← create (.body .slot)
    let found ← Keeping.lift (metadata file)
    let writer ← Keeping.lift (sourceAsk .identity)
    let record : CopyReceipt :=
      { inode := found.inode, selection, byteLen := length, writer := some writer, complete := false }
    saveReceipt record
    Keeping.lift (copySelected source file length)
    saveReceipt { record with complete := true }
    Keeping.lift (hardLink (.body .slot) .output)
    Keeping.lift syncDirectory

/-- A completed receipt is kept, and so is a full copy once the original is gone. -/
def disposable (selection : Selection) : SourceScript Bool := do
  match ← (symlinkMetadata (.body .slot)).attempt with
  | .error _ => pure false
  | .ok found =>
      let record ← (receipt .slot found selection).attempt
      if record.toOption.any fun record => record.complete && record.byteLen == found.len then
        pure false
      else if found.len < selection.byteLen.getD 0 then pure true
      else do
        let original ← (selectedFile selection).attempt
        pure original.toOption.isSome

/-- Only what is still the created node is removed, the latest first; a failure leaves it. -/
def cleanup : Created → SourceScript Unit
  | [] => pure ()
  | (name, inode) :: rest => do
      match ← (symlinkMetadata name).attempt with
      | .error _ => cleanup rest
      | .ok found =>
          if found.isFile && found.inode == inode then do
            let _ ← (removeFile name).attempt
            cleanup rest
          else cleanup rest

end Attempt

section Freeze

/-- Whether one of the names of the slot is taken, by whatever it may be. -/
def occupied : List SourceName → SourceScript Bool
  | [] => pure false
  | name :: rest => do
      match ← (symlinkMetadata name).attempt with
      | .ok _ => pure true
      | .error error => if error.kind = .notFound then occupied rest else Io.throw error

def occupiedSlot : SourceScript Bool := occupied [.body .slot, .pending .slot, .receipt .slot]

def captureAnonymous (source length : Nat) : SourceScript Unit := do
  let file ← sourceAsk .createAnonymous
  copySelected source file length
  sourceAsk (.linkAnonymous file .output)
  syncDirectory

/-- Once the copy is public it may have another custodian, and nothing is rolled back. -/
def conclude (selection : Selection) (created : Created) (published done : Bool) :
    SourceScript Unit :=
  if !published then do
    if ← Attempt.disposable selection then Attempt.cleanup created.reverse else pure ()
  else if done then removeFile (.body .slot)
  else pure ()

def captureNamed (source length : Nat) (selection : Selection) : SourceScript Unit := do
  let (result, created) ← Attempt.capture source length selection []
  let published ← (tryExists .output).attempt
  conclude selection created (published.toOption.getD true) result.toOption.isSome
  Io.ofExcept result

/-- Runs under the lease. -/
def freeze : SourceScript Unit := do
  if ← tryExists .output then pure ()
  else if ← tryExists (.document .missingOutput) then
    Io.throw (.other "original output already adjudicated missing")
  else do
    let selection ← readSelection
    if ← sameDirectory then
      if ← recoverCopy selection then pure ()
      else do
        let source ← selectedFile selection
        match selection.byteLen with
        | none => Io.throw (.other "missing selected boundary")
        | some length =>
            if ← occupiedSlot then captureAnonymous source length
            else captureNamed source length selection
    else Io.throw (.other "original source directory changed")

end Freeze

namespace MissingOutput

def inventoryOf : List SourceName → SourceScript (List (SourceName × Metadata))
  | [] => pure []
  | name :: rest => do
      let found ← symlinkMetadata name
      if found.isSymlink then Io.throw (.other "ambiguous source storage alias")
      else do
        let entries ← inventoryOf rest
        pure ((name, found) :: entries)

def inventory : SourceScript (List (SourceName × Metadata)) := do
  let names ← readDir
  inventoryOf names

/-- An output, or a copy that may still be completed, speaks against a loss. -/
def blocked (selection : Selection) : List (SourceName × Metadata) → SourceScript Bool
  | [] => pure false
  | (.output, _) :: _ | (.stray _, _) :: _ => pure true
  | (.body copy, found) :: rest => do
      if ← inactiveShortCopy copy found selection then blocked selection rest else pure true
  | _ :: rest => blocked selection rest

structure Loss where
  reason : LossReason
  selected : Option (Nat × Nat)
  observedByteLen : Option Nat
  deriving DecidableEq, Repr

def loss (selection : Selection) (entries : List (SourceName × Metadata)) : Option Loss :=
  let pin := entries.any (·.1 = .selectedLog)
  match selection with
  | .missing _ => if pin then none else some ⟨.originalSelectionNotRetained, none, none⟩
  | .pinned inode byteLen linkCount =>
      if inode = 0 ∨ linkCount ≠ 2 then none
      else
        let aliases := entries.filter (·.2.inode = inode)
        match aliases with
        | [] => if pin then none else some ⟨.selectedStorageLost, some (inode, byteLen), none⟩
        | (_, found) :: _ =>
            if found.isFile && decide (found.len < byteLen) && found.nlink == aliases.length then
              some ⟨.selectedStorageShort, some (inode, byteLen), some found.len⟩
            else none

def syncShortSelection (selected : Nat × Nat) (observed : Option Nat)
    (entries : List (SourceName × Metadata)) : SourceScript Unit := do
  match entries.find? (·.2.inode = selected.1) with
  | none => Io.throw (.other "selected inode no longer present")
  | some (name, _) => do
      let file ← openFile name
      sourceAsk (.syncAll file)
      let found ← metadata file
      if found.inode = selected.1 ∧ observed = some found.len then pure ()
      else Io.throw (.other "selected inode changed during loss observation")

def syncLoss (found : Loss) (entries : List (SourceName × Metadata)) : SourceScript Unit := do
  match found.reason, found.selected with
  | .selectedStorageShort, some selected =>
      syncShortSelection selected found.observedByteLen entries
  | _, _ => pure ()

/-- Runs under the lease, through the publication of the proof. -/
def observe : SourceScript (Option MissingOutput) := do
  if ← tryExists (.document .missingOutput) then do
    match ← readNode (.document .missingOutput) with
    | .missing proof => pure (some proof)
    | _ => Io.throw (.other "malformed JSON")
  else do
    let staged ← sourceAsk .staged
    match staged.observer with
    | none => pure none
    | some observer => do
        let evidence ← sourceAsk (.processIdentityEvidence observer)
        if !evidence.conclusive then pure none
        else do
          let selection ← readSelection
          if ← sameDirectory then do
            let entries ← inventory
            if ← blocked selection entries then pure none
            else
              match loss selection entries with
              | none => pure none
              | some found => do
                  syncLoss found entries
                  syncDirectory
                  let producer ← sourceAsk .identity
                  let proof : MissingOutput :=
                    { reason := found.reason, producer, originalObserver := observer
                      completionRevision := staged.completionRevision
                      outcomeSha256 := staged.outcomeSha256
                      selected := found.selected, observedByteLen := found.observedByteLen }
                  immutable .missingOutput (.missing proof)
                  pure (some proof)
          else pure none

end MissingOutput

section Publication

def finishSnapshot : SourceScript Unit := do
  match ← readNode (.document .sourceBundle) with
  | .bundle outcome snapshot => do
      sourceAsk .checkBinding
      immutable .outcome (.bytes outcome)
      immutable .snapshot (.bytes snapshot)
  | _ => Io.throw (.other "missing bundled outcome")

/-- The rendering of the bundle from the event and the descriptor is left to the outside. -/
def finishObservationWithOutput : SourceScript Unit := do
  let (outcome, snapshot) ← sourceAsk .renderBundle
  immutable .sourceBundle (.bundle outcome snapshot)
  finishSnapshot

def freezeOutput : SourceScript Unit := do
  if ← lock then do
    let result ← freeze.attempt
    unlock
    Io.ofExcept result
  else Io.throw ⟨.wouldBlock, "Resource temporarily unavailable"⟩

/-- A failed capture is not a loss; only the inventory below it can tell. -/
def recoverLeased : SourceScript Bool := do
  match ← freeze.attempt with
  | .ok _ => pure true
  | .error _ => do
      sourceAsk .recordError
      sourceAsk .recordError
      match ← MissingOutput.observe with
      | none => pure false
      | some _ => do
          finishObservationWithOutput
          pure true

def recoverOutput : SourceScript Bool := do
  if ← tryExists (.document .sourceBundle) then do
    finishSnapshot
    pure true
  else if ← lock then do
    let result ← recoverLeased.attempt
    unlock
    Io.ofExcept result
  else pure false

end Publication

end Continuation

/-- What the launcher, the live observers and the recoveries run on one source directory. -/
inductive SourceEntry
  | register (data : Bytes)
  | retainEvent (data : Bytes)
  | freezeOutput
  | finishObservation
  | recoverOutput

def sourceExit {α : Type} : Except IoError α → Nat
  | .ok _ => 0
  | .error _ => 1

def SourceEntry.program : SourceEntry → Program (requests sourceLayout sourceOutside)
  | .register data => (Continuation.immutable .registration (.bytes data)).program sourceExit
  | .retainEvent data => (Continuation.immutable .observation (.bytes data)).program sourceExit
  | .freezeOutput => Continuation.freezeOutput.program sourceExit
  | .finishObservation => Continuation.finishObservationWithOutput.program sourceExit
  | .recoverOutput => Continuation.recoverOutput.program sourceExit

abbrev sourceSystem : System (requests sourceLayout sourceOutside) SourceDisk :=
  system sourceLayout sourceOutside SourceEntry.program

end AgentBash
