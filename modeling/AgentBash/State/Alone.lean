import AgentBash.State.Files
import AgentBash.Durable.Solo

/-!
# Reading and writing the handle directory alone

What the scripts over one handle do when nobody else runs and nothing fails.
-/

namespace AgentBash

set_option autoImplicit false

open Durable

/-- A directory at rest: these files, no lock held, and one process that was born. -/
def restingHandle (files : (file : File) → Option file.Content) : HandleDisk where
  files := files
  held _ := []
  next := 1
  ended _ := none
  parent _ := none
  gates _ := .waiting
  world := {}

variable {oracle : Oracle outside} {pid : Nat} {α : Type} {disk after : HandleDisk}

theorem does_ask {op : Outside} {answer : Except IoError op.Result}
    (acted : op.act pid (oracle op) disk = some (answer, disk.world)) :
    Does oracle pid (outsideAsk op) disk answer disk := by
  refine Does.ask ?_
  simp only [Oracle.choice, Request.serve, acted]
  rfl

theorem does_readFile {file : File} {content : file.Content}
    (present : disk.files file = some content) :
    Does oracle pid (readFile file) disk (.ok content) disk := by
  refine Does.ask ?_
  simp only [Oracle.choice, Request.serve, Request.perform, present]
  rfl

theorem does_readOptional (file : File) :
    Does oracle pid (readOptional file) disk (.ok (disk.files file)) disk := by
  cases stored : disk.files file with
  | some content =>
      exact Does.bind (Does.attempt (does_readFile stored)) (Does.pure _)
  | none =>
      have missing : Does oracle pid (readFile file) disk
          (.error ⟨.notFound, "No such file or directory"⟩) disk := by
        refine Does.ask ?_
        simp only [Oracle.choice, Request.serve, Request.perform, stored]
        rfl
      exact Does.bind (Does.attempt missing) (Does.pure _)

theorem does_tryExists (file : File) :
    Does oracle pid (tryExists file) disk (.ok (disk.files file).isSome) disk :=
  Does.bind (does_readOptional file) (Does.pure _)

theorem does_atomicWrite (file : File) (content : file.Content) :
    Does oracle pid (atomicWrite file content) disk (.ok ())
      (disk.write (L := layout) file content) :=
  Does.bind (Does.ask rfl) (Does.ask rfl)

theorem does_readDeliveryMode :
    Does oracle pid readDeliveryMode disk (.ok ((disk.files .deliveryMode).getD .async)) disk :=
  Does.bind (does_readOptional .deliveryMode) (Does.pure _)

/-- The record reaches the disk with the canonical mode mirrored into it. -/
theorem does_writeMetaAtomic (record : Meta) :
    Does oracle pid (writeMetaAtomic record) disk (.ok ())
      (disk.write (L := layout) File.metaJson
        { record with deliveryMode := (disk.files .deliveryMode).getD .async }) :=
  Does.bind (Does.attempt does_readDeliveryMode) (does_atomicWrite _ _)

theorem does_lock {name : Lock} (free : disk.held name = []) :
    Does oracle pid (lock name) disk (.ok ()) (disk.acquire name pid) := by
  refine Does.ask ?_
  simp only [Oracle.choice, Request.serve, Request.perform, free]
  rfl

theorem does_tryLock {name : Lock} (free : disk.held name = []) :
    Does oracle pid (tryLock name) disk (.ok true) (disk.acquire name pid) := by
  refine Does.ask ?_
  simp only [Oracle.choice, Request.serve, Request.perform, free]
  rfl

theorem does_locked {name : Lock} {body : Script α} {result : Except IoError α}
    (free : disk.held name = [])
    (does : Does oracle pid body (disk.acquire name pid) result after) :
    Does oracle pid (locked name body) disk result (after.release name pid) :=
  Does.bind (does_lock free) (Does.bind (Does.attempt does)
    (Does.bind (Does.ask rfl) (Does.ofExcept result)))

theorem reaches_locked {name : Lock} {body : Script α} {P : HandleDisk → Prop}
    (free : disk.held name = []) (reaches : Reaches oracle pid body (disk.acquire name pid) P) :
    Reaches oracle pid (locked name body) disk P :=
  Reaches.after (does_lock free) (Reaches.first (Reaches.attempt reaches))


end AgentBash
