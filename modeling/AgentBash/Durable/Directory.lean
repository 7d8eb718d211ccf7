import AgentBash.Durable.Machine

/-!
# A directory of files shared by processes

The kernel of programs that meet in one directory: whole-file reads, replacement by
rename, exclusive creation, removal, a separate directory sync, advisory locks that a
fork shares with its child, one-byte start gates, and exact waits. Every request that
touches the file system may fail without effect. A failure after the effect is a failure
of the `sync` that follows it, and a crash between the two is a kill there.
-/

namespace AgentBash.Durable

set_option autoImplicit false

/-- The names a program uses: its files with what they hold, and its lock files. -/
structure Layout where
  File : Type
  Content : File → Type
  Lock : Type
  fileEq : DecidableEq File
  lockEq : DecidableEq Lock

attribute [instance] Layout.fileEq Layout.lockEq

/-- A child waits at its gate for one byte from its parent; `closed` is end of file. -/
inductive Gate
  | waiting | opened | closed
  deriving DecidableEq, Repr

/-- `held` lists the processes sharing a lock, newest first: a fork puts the child in front. -/
structure Disk (L : Layout) (ω : Type) where
  files : (file : L.File) → Option (L.Content file)
  held : L.Lock → List Nat
  next : Nat
  ended : Nat → Option (Option Nat)
  parent : Nat → Option Nat
  gates : Nat → Gate
  world : ω

/-- What lies outside the directory. Its requests may read everything but change only
the world, and the world may also change by itself. -/
structure Surroundings (L : Layout) where
  World : Type
  Op : Type
  Result : Op → Type
  Choice : Type
  act : Nat → (op : Op) → Choice → Disk L World → Option (Except IoError (Result op) × World)
  Change : Type
  change : Change → Disk L World → Option World

namespace Disk

variable {L : Layout} {ω : Type}

def put (disk : Disk L ω) (file : L.File) (content : Option (L.Content file)) : Disk L ω :=
  { disk with files := Function.update disk.files file content }

def write (disk : Disk L ω) (file : L.File) (content : L.Content file) : Disk L ω :=
  disk.put file (some content)

def erase (disk : Disk L ω) (file : L.File) : Disk L ω := disk.put file none

@[simp] theorem put_same (disk : Disk L ω) (file : L.File) (content : Option (L.Content file)) :
    (disk.put file content).files file = content :=
  Function.update_self _ _ _

theorem put_other (disk : Disk L ω) {file other : L.File} (content : Option (L.Content file))
    (different : other ≠ file) : (disk.put file content).files other = disk.files other :=
  Function.update_of_ne different _ _

def acquire (disk : Disk L ω) (name : L.Lock) (pid : Nat) : Disk L ω :=
  { disk with held := Function.update disk.held name [pid] }

def release (disk : Disk L ω) (name : L.Lock) (pid : Nat) : Disk L ω :=
  { disk with held := Function.update disk.held name ((disk.held name).erase pid) }

@[simp] theorem acquire_same (disk : Disk L ω) (name : L.Lock) (pid : Nat) :
    (disk.acquire name pid).held name = [pid] :=
  Function.update_self _ _ _

theorem acquire_other (disk : Disk L ω) {name other : L.Lock} (pid : Nat)
    (different : other ≠ name) : (disk.acquire name pid).held other = disk.held other :=
  Function.update_of_ne different _ _

@[simp] theorem release_same (disk : Disk L ω) (name : L.Lock) (pid : Nat) :
    (disk.release name pid).held name = (disk.held name).erase pid :=
  Function.update_self _ _ _

theorem release_other (disk : Disk L ω) {name other : L.Lock} (pid : Nat)
    (different : other ≠ name) : (disk.release name pid).held other = disk.held other :=
  Function.update_of_ne different _ _

/-- A process closes every lock file it inherited except one. -/
def keepOnly (disk : Disk L ω) (name : L.Lock) (pid : Nat) : Disk L ω :=
  { disk with held := fun other =>
      if other = name then disk.held other else (disk.held other).erase pid }

def setGate (disk : Disk L ω) (pid : Nat) (gate : Gate) : Disk L ω :=
  { disk with gates := Function.update disk.gates pid gate }

def live (pid : Nat) (disk : Disk L ω) : Prop := pid < disk.next ∧ disk.ended pid = none

def birth (parent : Option Nat) (disk : Disk L ω) : Disk L ω :=
  { disk with
    held := fun name =>
      if parent.any (disk.held name).contains then disk.next :: disk.held name else disk.held name
    next := disk.next + 1
    ended := Function.update disk.ended disk.next none
    parent := Function.update disk.parent disk.next parent
    gates := Function.update disk.gates disk.next .waiting }

def finish (pid : Nat) (status : Option Nat) (disk : Disk L ω) : Disk L ω :=
  { disk with
    held := fun name => (disk.held name).erase pid
    ended := Function.update disk.ended pid (some status) }

/-- End of file at a gate: it was closed, or the process that could write to it is gone. -/
def abandoned (disk : Disk L ω) (pid : Nat) : Bool :=
  match disk.gates pid with
  | .opened => false
  | .closed => true
  | .waiting => (disk.parent pid).all fun parent => (disk.ended parent).isSome

end Disk

/-- An I/O failure is never one of the kinds callers read as an answer. -/
def IoError.plain (error : IoError) : Bool :=
  match error.kind with
  | .notFound | .alreadyExists | .wouldBlock => false
  | .invalidData | .other => true

inductive Request (L : Layout) (E : Surroundings L) where
  | self
  | read (file : L.File)
  | replace (file : L.File) (content : L.Content file)
  | create (file : L.File) (content : L.Content file)
  | remove (file : L.File)
  | sync
  | lock (name : L.Lock)
  | tryLock (name : L.Lock)
  | unlock (name : L.Lock)
  | keepOnly (name : L.Lock)
  | wait (pid : Nat)
  | poll (pid : Nat)
  | openGate (pid : Nat)
  | dismiss (pid : Nat)
  | enter
  | park
  | external (op : E.Op)

namespace Request

variable {L : Layout} {E : Surroundings L}

def Result : Request L E → Type
  | .self => Nat
  | .read file => L.Content file
  | .replace _ _ | .create _ _ | .remove _ | .sync | .lock _ | .unlock _ | .keepOnly _
  | .openGate _ | .dismiss _ | .park => Unit
  | .tryLock _ | .enter => Bool
  | .wait _ => Option Nat
  | .poll _ => Option (Option Nat)
  | .external op => E.Result op

/-- Requests that touch the file system may fail; process bookkeeping does not. -/
def mayFail : Request L E → Bool
  | .read _ | .replace _ _ | .create _ _ | .remove _ | .sync | .lock _ | .tryLock _ => true
  | _ => false

inductive Choice (E : Surroundings L) where
  | pass
  | fault (error : IoError)
  | outside (choice : E.Choice)

/-- The effect of a request that does not fail; `none` while it has to wait. -/
def perform (pid : Nat) : (op : Request L E) → Disk L E.World →
    Option (Except IoError op.Result × Disk L E.World)
  | .self, disk => some (.ok pid, disk)
  | .read file, disk =>
      match disk.files file with
      | some content => some (.ok content, disk)
      | none => some (.error ⟨.notFound, "No such file or directory"⟩, disk)
  | .replace file content, disk => some (.ok (), disk.write file content)
  | .create file content, disk =>
      match disk.files file with
      | some _ => some (.error ⟨.alreadyExists, "File exists"⟩, disk)
      | none => some (.ok (), disk.write file content)
  | .remove file, disk =>
      match disk.files file with
      | some _ => some (.ok (), disk.erase file)
      | none => some (.error ⟨.notFound, "No such file or directory"⟩, disk)
  | .sync, disk => some (.ok (), disk)
  | .lock name, disk =>
      match disk.held name with
      | [] => some (.ok (), disk.acquire name pid)
      | _ :: _ => none
  | .tryLock name, disk =>
      match disk.held name with
      | [] => some (.ok true, disk.acquire name pid)
      | _ :: _ => some (.ok false, disk)
  | .unlock name, disk => some (.ok (), disk.release name pid)
  | .keepOnly name, disk => some (.ok (), disk.keepOnly name pid)
  | .wait child, disk =>
      match disk.ended child with
      | some status => some (.ok status, disk)
      | none => none
  | .poll child, disk => some (.ok (disk.ended child), disk)
  | .openGate child, disk => some (.ok (), disk.setGate child .opened)
  | .dismiss child, disk => some (.ok (), disk.setGate child .closed)
  | .enter, disk =>
      match disk.gates pid with
      | .opened => some (.ok true, disk)
      | _ => if disk.abandoned pid then some (.ok false, disk) else none
  | .park, _ => none
  | .external _, _ => none

def serve (pid : Nat) : (op : Request L E) → Choice E → Disk L E.World →
    Option (Except IoError op.Result × Disk L E.World)
  | .external op, .outside choice, disk =>
      (E.act pid op choice disk).map fun acted => (acted.1, { disk with world := acted.2 })
  | op, .pass, disk => op.perform pid disk
  | op, .fault error, disk =>
      if op.mayFail && error.plain then some (.error error, disk) else none
  | _, .outside _, _ => none

end Request

def requests (L : Layout) (E : Surroundings L) : Interface where
  Op := Request L E
  Answer op := Except IoError op.Result

variable {L : Layout} {E : Surroundings L}

/-- A request reports its own failure, so its answer is already a script's result. -/
def Io.ask (op : Request L E) : Io (requests L E) op.Result := fun next => .call op next

namespace Request

/-- No request touches process bookkeeping, and only the outside changes the world. -/
theorem perform_frame {pid : Nat} {op : Request L E} {disk after : Disk L E.World}
    {answer : Except IoError op.Result} (performed : op.perform pid disk = some (answer, after)) :
    after.next = disk.next ∧ after.ended = disk.ended ∧ after.parent = disk.parent ∧
      after.world = disk.world := by
  cases op <;> simp only [perform] at performed <;> (repeat' split at performed) <;>
    simp only [Option.some.injEq, Prod.mk.injEq, reduceCtorEq] at performed <;>
    obtain ⟨-, rfl⟩ := performed <;> exact ⟨rfl, rfl, rfl, rfl⟩

/-- The three ways a request is answered: its effect, a failure without effect, the outside. -/
theorem serve_cases {pid : Nat} {op : Request L E} {choice : Choice E}
    {disk after : Disk L E.World} {answer : Except IoError op.Result}
    (served : op.serve pid choice disk = some (answer, after)) :
    (choice = .pass ∧ op.perform pid disk = some (answer, after)) ∨
    (∃ error, op.mayFail = true ∧ error.plain = true ∧ answer = .error error ∧ after = disk ∧
      choice = .fault error) ∨
    (∃ external choice' answer' world, ∃ _ : op = .external external,
      E.act pid external choice' disk = some (answer', world) ∧
      after = { disk with world := world } ∧ HEq answer answer' ∧
        choice = .outside choice') := by
  cases choice with
  | pass =>
      refine .inl ⟨rfl, ?_⟩
      cases op <;> exact served
  | fault error =>
      right; left
      have unfolded : (if op.mayFail && error.plain then some (Except.error error, disk) else none)
          = some (answer, after) := by
        cases op <;> exact served
      split at unfolded
      · next both =>
        simp only [Bool.and_eq_true] at both
        obtain ⟨same, rfl⟩ := Prod.mk.inj (Option.some.inj unfolded)
        exact ⟨error, both.1, both.2, same.symm, rfl, rfl⟩
      · cases unfolded
  | outside choice =>
      right; right
      cases op with
      | external external =>
          simp only [serve, Option.map_eq_some_iff] at served
          obtain ⟨⟨answer', world⟩, acted, same⟩ := served
          obtain ⟨rfl, rfl⟩ := Prod.mk.inj same
          exact ⟨external, choice, _, world, rfl, acted, rfl, HEq.rfl, rfl⟩
      | _ => cases served

end Request

def directory (L : Layout) (E : Surroundings L) : Kernel (requests L E) (Disk L E.World) where
  Choice := Request.Choice E
  serve := Request.serve
  next := Disk.next
  birth := Disk.birth
  finish := Disk.finish
  Change := E.Change
  change what disk := (E.change what disk).map fun world => { disk with world }
  live := Disk.live
  live_lt live := live.1
  serve_live {pid op choice before answer after other} served live := by
    rcases Request.serve_cases served with ⟨-, performed⟩ | ⟨_, _, _, _, rfl, _⟩ |
        ⟨_, _, _, _, _, _, rfl, _⟩
    · obtain ⟨next, ended, -, -⟩ := Request.perform_frame performed
      exact ⟨next ▸ live.1, (congrFun ended other).trans live.2⟩
    · exact live
    · exact live
  birth_live {parent state other} live := by
    refine ⟨Nat.lt_succ_of_lt live.1, ?_⟩
    simp only [Disk.birth, Function.update_of_ne (Nat.ne_of_lt live.1)]
    exact live.2
  born_live parent state := ⟨Nat.lt_succ_self _, by simp [Disk.birth]⟩
  finish_live {pid status state other} different live := by
    refine ⟨live.1, ?_⟩
    simp only [Disk.finish, Function.update_of_ne different]
    exact live.2
  change_live {what before after other} changed live := by
    simp only [Option.map_eq_some_iff] at changed
    obtain ⟨world, -, rfl⟩ := changed
    exact live

end AgentBash.Durable
