import AgentBash.Delivery.Activation
import AgentBash.Delivery.Rules
import AgentBash.Durable.Requested

/-!
# External-transfer custody

Every helper of an external caller runs between a custody marker and its removal, under the
delivery lock. The lane follows the marker together with the process that wrote it last and
the number of helpers for which that process had not waited then.
-/

namespace AgentBash

set_option autoImplicit false

open Durable

/-- Completion retries and structured helpers, activations and readbacks. -/
inductive TransferEntry
  | command (operation : HelperOperation)
  | structured (operation : HelperOperation)
  | required (operation : HelperOperation)
  deriving DecidableEq, Repr

def TransferEntry.program : TransferEntry → HandleProgram
  | .command operation =>
      (locked .delivery (runDeliveryHelperCommand operation true)).program softwareExit
  | .structured operation =>
      (locked .delivery (runStructuredHelper operation true)).program softwareExit
  | .required operation =>
      (locked .delivery (runRequiredDeliveryHelperCommandDetailed operation true)).program
        softwareExit

def transferSystem : System (requests layout outside) HandleDisk :=
  system layout outside TransferEntry.program

namespace ExternalCustody

/-- Who wrote the marker, and how many of its helpers were unwaited then. -/
structure Creation where
  pid : Nat
  unwaited : Nat
  deriving DecidableEq, Repr

abbrev View := HandleDisk × Option Creation

structure Custody where
  marker : Option BootId
  creation : Option Creation
  unwaited : List Nat

/-- No marker at all, or a valid one of another valid boot. -/
def Replaceable (marker : Option BootId) (boot : BootId) : Prop :=
  marker = none ∨ ∃ recorded current, marker = some (some recorded) ∧ boot = some current ∧
    recorded ≠ current

/-- What the holder of the delivery lock may do about the marker. -/
inductive Moves (pid : Nat) : Custody → Custody → Prop
  | created (before : Custody) (boot : BootId) : Replaceable before.marker boot →
      Moves pid before
        { before with
          marker := some boot
          creation := some ⟨pid, before.unwaited.count pid⟩ }
  | removed (before : Custody) : before.creation = some ⟨pid, before.unwaited.count pid⟩ →
      Moves pid before { before with marker := none }
  | helper (before : Custody) (unwaited : List Nat) :
      Moves pid before { before with unwaited := unwaited }

def custodyOf (files : (file : File) → Option file.Content) (world : World)
    (creation : Option Creation) : Custody where
  marker := files .externalTransferCustody
  creation := creation
  unwaited := world.unwaited

def owned : Owned layout outside (Option Creation) where
  name := Lock.delivery
  Resource := Custody
  resource := custodyOf
  Log := Unit
  log _ _ := ()
  Valid _ _ := True
  Moves := Moves
  Drops _ _ := False
  growth := .none _ _
  Depth count := count ≤ 1
  shallow := @shallow_alone
  one := alone_one
  taken valid := valid
  left {_ _ ghost} valid := ⟨ghost, valid, .inl rfl⟩

abbrev discipline : Discipline transferSystem (Option Creation) :=
  owned.discipline TransferEntry.program

abbrev Fact := Custody → Prop

variable {policy : System.Policy transferSystem} {pid : Nat} {α : Type} {fact : Fact}

abbrev Bottom (pid : Nat) : View → Prop := owned.Bottom pid

abbrev Free (pid : Nat) : View → Prop := owned.Free pid

abbrev Holds (pid : Nat) (fact : Fact) : View → Prop := owned.Holds pid (Bottom pid) fact

abbrev Stays (pid : Nat) : View → Prop := owned.Stays pid (Bottom pid)

theorem holds_local : owned.Local TransferEntry.program pid (Holds pid fact) :=
  Owned.Holds.local_ Owned.Bottom.frame

def margin : Margin where
  files file := file ≠ .externalTransferCustody
  ops
    | .spawnHelper _ | .waitHelper _ | .waitHelperOutput _ => False
    | _ => True

theorem act_unwaited {caller : Nat} {op : Outside} {choice : Decision} {disk : HandleDisk}
    {answer : Except IoError op.Result} {world : World} (free : margin.ops op)
    (acted : op.act caller choice disk = some (answer, world)) :
    world.unwaited = disk.world.unwaited := by
  cases op with
  | spawnHelper operation => exact free.elim
  | waitHelper operation => exact free.elim
  | waitHelperOutput operation => exact free.elim
  | _ =>
      cases choice <;> simp only [Outside.act, reduceCtorEq] at acted <;>
        (try split at acted) <;> cases acted <;> rfl

theorem blind : Blind owned margin where
  writes {file} content view free := by
    refine ⟨?_, rfl⟩
    have kept : (view.1.put (L := layout) file content).files File.externalTransferCustody =
        view.1.files File.externalTransferCustody :=
      view.1.put_other (L := layout) content (Ne.symm free)
    simp only [Owned.value, owned, custodyOf, kept]
    rfl
  asks view free acted := by
    refine ⟨?_, rfl⟩
    simp only [Owned.value, owned, custodyOf, act_unwaited free acted]

theorem spectator : Spectator owned.lane TransferEntry.program margin pid (Holds pid fact) :=
  blind.spectator holds_local

section Helper

/-- `started` helpers of an owned marker were not waited for since it was written. -/
def since (owner : Bool) (pid started : Nat) : Fact := fun custody =>
  owner = true → ∃ count, custody.creation = some ⟨pid, count⟩ ∧
    custody.unwaited.count pid = count + started

/-- Every result but an admission says that no helper is left running. -/
def concluded {ρ : Type} (owner : Bool) (pid : Nat) :
    Except IoError (Except DeliveryHelperCommandError ρ) → Fact
  | .ok (.error (.admitted _)) => fun _ => True
  | .ok _ => since owner pid 0
  | .error _ => fun _ => True

def spawnedFact (owner : Bool) (pid : Nat) : Except IoError Unit → Fact
  | .ok _ => since owner pid 1
  | .error _ => since owner pid 0

theorem unwaited_spawned (world : World) (pid : Nat) (operation : HelperOperation) :
    (world.spawned pid operation).unwaited = pid :: world.unwaited := by
  cases operation <;> rfl

theorem unwaited_reported (world : World) (pid : Nat) (operation : HelperOperation)
    (status : ExitStatus) :
    (world.reported pid operation status).unwaited = world.unwaited.erase pid := by
  unfold World.reported
  split <;> rfl

theorem keeps_helper {view : View} {world : World} {D : Fact} (inv : owned.Inv view)
    (holds : Holds pid fact view)
    (known : D { owned.value view with unwaited := world.unwaited }) :
    owned.lane.Keeps pid view { view.1 with world := world } (Holds pid D) := by
  have moves : owned.Moves pid (owned.value view)
      (owned.value ({ view.1 with world := world }, view.2)) :=
    Moves.helper (owned.value view) world.unwaited
  have moved : owned.Moved pid view ({ view.1 with world := world }, view.2) :=
    ⟨holds.1, moves, rfl⟩
  have frame : owned.Frame TransferEntry.program pid (Bottom pid) := Owned.Bottom.frame
  exact Owned.keeps_moved inv rfl moved trivial
    ⟨holds.1, frame.same rfl rfl (moved.passed trivial) holds.2.1, known⟩

theorem spawnHelper_spec (owner : Bool) (operation : HelperOperation) :
    Spec discipline policy pid (Holds pid (since owner pid 0))
      (outsideAsk (.spawnHelper operation)) fun result => Holds pid (spawnedFact owner pid result) := by
  refine Lane.external holds_local.stable ?_
  intro view choice answer world _ inv holds _ _ acted
  cases choice with
  | agree =>
      obtain ⟨rfl, rfl⟩ := Prod.mk.inj (Option.some.inj acted)
      refine keeps_helper inv holds fun owner => ?_
      obtain ⟨count, creation, unwaited⟩ := holds.2.2 owner
      refine ⟨count, creation, ?_⟩
      simp only [unwaited_spawned, List.count_cons_self]
      exact congrArg Nat.succ unwaited
  | fail error =>
      obtain ⟨rfl, rfl⟩ := Prod.mk.inj (Option.some.inj acted)
      exact Owned.keeps_quiet inv rfl (.of_disk rfl rfl) holds
  | _ => cases acted

theorem since_waited {owner : Bool} {custody : Custody} (known : since owner pid 1 custody) :
    since owner pid 0 { custody with unwaited := custody.unwaited.erase pid } := by
  intro mine
  obtain ⟨count, creation, unwaited⟩ := known mine
  refine ⟨count, creation, ?_⟩
  simp only [List.count_erase_self]
  omega

def waitedFact {ρ : Type} (owner : Bool) (pid : Nat) : Except IoError ρ → Fact
  | .ok _ => since owner pid 0
  | .error _ => fun _ => True

theorem waitHelper_spec (owner : Bool) (operation : HelperOperation) :
    Spec discipline policy pid (Holds pid (since owner pid 1))
      (outsideAsk (.waitHelper operation)) fun result => Holds pid (waitedFact owner pid result) := by
  refine Lane.external holds_local.stable ?_
  intro view choice answer world _ inv holds _ _ acted
  cases choice with
  | exited status =>
      obtain ⟨rfl, rfl⟩ := Prod.mk.inj (Option.some.inj acted)
      refine keeps_helper inv holds ?_
      rw [unwaited_reported]
      exact since_waited holds.2.2
  | fail error =>
      obtain ⟨rfl, rfl⟩ := Prod.mk.inj (Option.some.inj acted)
      exact Owned.keeps_quiet inv rfl (.of_disk rfl rfl) holds.stays
  | _ => cases acted

theorem waitHelperOutput_spec (owner : Bool) (operation : HelperOperation) :
    Spec discipline policy pid (Holds pid (since owner pid 1))
      (outsideAsk (.waitHelperOutput operation))
      fun result => Holds pid (waitedFact owner pid result) := by
  refine Lane.external holds_local.stable ?_
  intro view choice answer world _ inv holds _ _ acted
  cases choice with
  | output status detail =>
      obtain ⟨rfl, rfl⟩ := Prod.mk.inj (Option.some.inj acted)
      refine keeps_helper inv holds ?_
      rw [unwaited_reported]
      exact since_waited holds.2.2
  | fail error =>
      obtain ⟨rfl, rfl⟩ := Prod.mk.inj (Option.some.inj acted)
      exact Owned.keeps_quiet inv rfl (.of_disk rfl rfl) holds.stays
  | _ => cases acted

/-- What the result of a helper says about the helpers of an owned marker. -/
abbrev Concludes {ρ : Type} (policy : System.Policy transferSystem) (pid : Nat) (owner : Bool)
    (operation : Script (Except DeliveryHelperCommandError ρ)) : Prop :=
  Spec discipline policy pid (Holds pid (since owner pid 0)) operation
    fun result => Holds pid (concluded owner pid result)

theorem waitHelperProcess_spec (owner : Bool) (kind : String) (operation : HelperOperation) :
    Concludes policy pid owner (waitHelper kind operation) := by
  refine Spec.handle (spawnHelper_spec owner operation) fun started => ?_
  cases started with
  | error _ => exact .pure fun _ _ holds => holds
  | ok _ =>
      refine Spec.handle (waitHelper_spec owner operation) fun status => ?_
      cases status with
      | error _ => exact .pure fun _ _ holds => holds
      | ok _ => exact .pure fun _ _ holds => holds

theorem waitRequiredDeliveryHelper_spec (owner : Bool) (operation : HelperOperation) :
    Concludes policy pid owner (waitRequiredDeliveryHelper operation) := by
  refine Spec.handle (spawnHelper_spec owner operation) fun started => ?_
  cases started with
  | error _ => exact .pure fun _ _ holds => holds
  | ok _ =>
      refine Spec.handle (waitHelperOutput_spec owner operation) fun output => ?_
      cases output with
      | error _ => exact .pure fun _ _ holds => holds
      | ok _ => exact .pure fun _ _ holds => holds

theorem structuredHelper_spec (owner : Bool) (operation : HelperOperation) :
    Concludes policy pid owner (structuredHelper operation) := by
  have evidence : margin.ops (.system .attemptEvidence) := trivial
  have prepares : Steady discipline policy pid (Holds pid (since owner pid 0)) prepareAttempt :=
    .bind (spectator.outsideAsk trivial) fun _ => .bind (spectator.readFile _) fun _ =>
      .bind (spectator.outsideAsk evidence) fun _ => .pure
  refine Spec.handle prepares fun prepared => ?_
  cases prepared with
  | error _ => exact .pure fun _ _ holds => holds
  | ok retained =>
      refine Spec.bind (waitHelperProcess_spec owner _ operation) (fun answer => ?_)
        fun _ _ _ holds => holds
      cases answer with
      | error error => cases error <;> exact .pure fun _ _ holds => holds
      | ok status =>
          have records : Steady discipline policy pid (Holds pid (since owner pid 0))
              (recordAttempt retained status) :=
            .bind (spectator.outsideAsk evidence) fun _ =>
              .branch (spectator.outsideAsk evidence) .throw
          refine Spec.handle records fun receipt => ?_
          cases receipt with
          | error _ => exact .pure fun _ _ holds => Owned.Holds.stays holds
          | ok _ => exact .pure fun _ _ holds => holds

end Helper

section Marker

/-- An owned marker was written by this process, which started nothing yet. -/
def begun (pid : Nat) : Except IoError Bool → Fact
  | .ok owner => since owner pid 0
  | .error _ => fun _ => True

def replaceable (boot : BootId) : Fact := fun custody => Replaceable custody.marker boot

/-- What a marker that does not remain is. -/
def retainedFact (boot : BootId) : Except IoError Bool → Fact
  | .ok false => replaceable boot
  | _ => fun _ => True

theorem retained_of_content {content boot : BootId} {custody : Custody}
    (marker : custody.marker = some content) :
    retainedFact boot (.ok (content.isNone || boot.isNone || content == boot)) custody := by
  cases content with
  | none => trivial
  | some recorded =>
      cases boot with
      | none => trivial
      | some current =>
          by_cases same : recorded = current
          · subst same
            simp [retainedFact]
          · simp only [Option.isNone_some, Bool.or_self, Option.some_beq_some,
              beq_eq_false_iff_ne.mpr same]
            exact .inr ⟨recorded, current, marker, rfl, same⟩

theorem retained_of_error {error : IoError} {boot : BootId} {custody : Custody}
    (absent : error.kind = .notFound → custody.marker = none) :
    retainedFact boot (.ok (error.kind != .notFound)) custody := by
  by_cases missing : error.kind = .notFound
  · simp only [missing, bne_self_eq_false]
    exact .inl (absent missing)
  · simp [retainedFact, missing]

/-- A marker that may not remain is absent or belongs to another boot. -/
theorem externalCustodyRetained_spec (boot : BootId) :
    Spec discipline policy pid (Stays pid) (externalCustodyRetained boot)
      fun result => Holds pid (retainedFact boot result) := by
  have known {fact : Fact} : owned.Local TransferEntry.program pid (Holds pid fact) := holds_local
  refine Spec.bind (Q := fun
    | .ok present => Holds pid fun custody => custody.marker.isSome = present
    | .error _ => Stays pid) ?_ (fun present => ?_) fun _ _ _ holds => holds
  · exact Spec.bind (readOptional_spec (Q := fun
      | .ok marker => Holds pid fun custody => custody.marker = marker
      | .error _ => Stays pid) known.stable (fun _ _ holds => ⟨holds.1, holds.2.1, rfl⟩)
      fun _ _ _ holds => holds)
      (fun _ => .pure fun _ _ holds =>
        Owned.Holds.imp holds fun _ known => congrArg Option.isSome known)
      fun _ _ _ holds => holds
  · refine .branch (fun _ => ?_) fun missing => .pure fun view _ holds => ?_
    · refine Spec.handle (Q := fun
        | .ok content => Holds pid fun custody => custody.marker = some content
        | .error error => Holds pid fun custody =>
            error.kind = .notFound → custody.marker = none) ?_ fun answer => ?_
      · refine readFile_spec known.stable (fun view content _ holds found => ?_)
          (fun view _ holds absent => ?_) fun error view plain _ holds => ?_
        · exact ⟨holds.1, holds.2.1, found⟩
        · exact ⟨holds.1, holds.2.1, fun _ => absent⟩
        · refine ⟨holds.1, holds.2.1, fun same => ?_⟩
          simp [IoError.plain, same] at plain
      · cases answer with
        | ok content =>
            exact .pure fun _ _ holds => Owned.Holds.imp holds fun _ marker =>
              retained_of_content marker
        | error error =>
            exact .pure fun _ _ holds => Owned.Holds.imp holds fun _ absent =>
              retained_of_error absent
    · have known : Holds pid (fun custody => custody.marker.isSome = present) view := holds
      refine known.imp fun custody known => .inl ?_
      rw [← known] at missing
      simpa using missing

theorem writeMarker_spec (boot : BootId) :
    Spec discipline policy pid (Holds pid (replaceable boot))
      (atomicWrite .externalTransferCustody boot) fun
        | .ok _ => Holds pid (since true pid 0)
        | .error _ => Stays pid := by
  refine Spec.bind (Q := fun
    | .ok _ => Holds pid (since true pid 0)
    | .error _ => Stays pid) ?_ (fun _ => ?_) fun _ _ _ holds => holds
  · refine Lane.replace holds_local.stable (fun view _ inv holds _ _ => ?_)
      fun _ _ _ _ holds => holds.stays
    have moves : owned.Moves pid (owned.value view)
        (owned.value (view.1.write (L := layout) File.externalTransferCustody boot,
          some ⟨pid, view.1.world.unwaited.count pid⟩)) := by
      have created : Moves pid (owned.value view) _ :=
        Moves.created (owned.value view) boot holds.2.2
      have written : (view.1.write (L := layout) File.externalTransferCustody boot).files
          File.externalTransferCustody = some boot := Disk.put_same _ _ _
      simp only [Owned.value, owned, custodyOf, written]
      exact created
    have moved : owned.Moved pid view (view.1.write (L := layout) File.externalTransferCustody boot,
        some ⟨pid, view.1.world.unwaited.count pid⟩) := ⟨holds.1, moves, rfl⟩
    have frame : owned.Frame TransferEntry.program pid (Bottom pid) := Owned.Bottom.frame
    exact Owned.keeps_moved inv rfl moved trivial
      ⟨holds.1, frame.same rfl rfl (moved.passed trivial) holds.2.1, fun _ => ⟨_, rfl, rfl⟩⟩
  · have written : Steady discipline policy pid (Holds pid (since true pid 0)) syncDirectory :=
      spectator.syncDirectory
    refine written.relax fun result _ _ holds => ?_
    cases result with
    | ok _ => exact holds
    | error _ => exact holds.stays

theorem beginExternalTransferCustody_spec :
    Spec discipline policy pid (Stays pid) beginExternalTransferCustody
      fun result => Holds pid (begun pid result) := by
  have boots : margin.ops .currentBootId := trivial
  refine Steady.before (spectator.outsideAsk boots) (fun boot => ?_) fun _ _ _ holds => holds
  refine Spec.bind (externalCustodyRetained_spec boot) (fun retained => ?_) fun _ _ _ holds => holds
  cases retained with
  | true => exact .pure fun _ _ holds => Owned.Holds.imp holds fun _ _ => nofun
  | false =>
      exact Spec.bind (writeMarker_spec boot) (fun _ => .pure fun _ _ holds => holds)
        fun _ _ _ holds => holds

theorem endExternalTransferCustody_spec :
    Spec discipline policy pid (Holds pid (since true pid 0)) endExternalTransferCustody
      fun _ => Stays pid := by
  have opened : Steady discipline policy pid (Holds pid (since true pid 0)) openDirectory :=
    spectator.syncDirectory
  refine Steady.before opened (fun _ => ?_) fun _ _ _ holds => holds.stays
  have update : Update owned policy pid (.remove File.externalTransferCustody)
      .externalTransferCustody none (since true pid 0) fun _ => True := by
    intro view _ _ known
    obtain ⟨count, creation, unwaited⟩ := known rfl
    have erased : (view.1.put (L := layout) File.externalTransferCustody none).files
        File.externalTransferCustody = none := Disk.put_same _ _ _
    have moves : Moves pid (owned.value view) { owned.value view with marker := none } :=
      .removed _ (by rw [creation, unwaited]; rfl)
    refine ⟨?_, rfl, trivial, trivial, trivial⟩
    simp only [Owned.value, owned, custodyOf, erased]
    exact moves
  exact (removeOptional_spec blind Owned.Bottom.frame update fun _ _ _ => trivial).relax
    fun _ _ _ holds => holds.stays

theorem reportExternalCustodyCleanup_spec (cleanup : Except IoError Unit) :
    Steady discipline policy pid (Stays pid) (reportExternalCustodyCleanup cleanup) := by
  have free : margin.files .externalTransferCleanupError := by exact nofun
  cases cleanup with
  | ok _ => exact .pure
  | error _ => exact .bind (.attempt (spectator.atomicWrite free)) fun _ => .pure

/-- The whole of an operation, whatever it does about its helper. -/
theorem withExternalTransferCustody_steady {ρ : Type}
    {operation : Script (Except DeliveryHelperCommandError ρ)}
    (concludes : ∀ owner, Concludes policy pid owner operation) :
    Steady discipline policy pid (Stays pid) (withExternalTransferCustody true operation) := by
  refine Spec.branch (fun _ => ?_) fun other => absurd rfl other
  refine Spec.handle beginExternalTransferCustody_spec fun owner => ?_
  cases owner with
  | error _ => exact .pure fun _ _ holds => holds
  | ok owner =>
      refine Spec.bind (concludes owner) (fun result => ?_) fun _ _ _ holds => holds
      refine .branch (fun discharges => ?_) fun _ => .pure fun _ _ holds => Owned.Holds.stays holds
      simp only [Bool.and_eq_true, Bool.not_eq_true'] at discharges
      obtain ⟨rfl, conclusive⟩ := discharges
      refine Spec.strengthen (P := Holds pid (since true pid 0)) ?_ fun view _ holds => ?_
      · refine Spec.handle endExternalTransferCustody_spec fun cleanup => ?_
        exact Steady.bind (reportExternalCustodyCleanup_spec cleanup) fun _ => Steady.pure
      · match result with
        | .ok _ => exact holds
        | .error (.notStarted _) => exact holds
        | .error (.admitted _) => cases conclusive

end Marker

section Run

theorem program_safe (entry : TransferEntry) (born : Nat) (view : View)
    (inv : discipline.Inv view) (free : Free born view) :
    Safe discipline policy entry.program born view := by
  have leaves : ∀ view, Free born view → AtEdge born (view.1.held owned.name) :=
    fun _ free => .inl free.1
  have known : owned.Local TransferEntry.program born (Free born) := Owned.Free.frame.local_
  cases entry with
  | command operation =>
      have steady : Steady discipline policy born (Stays born)
          (runDeliveryHelperCommand operation true) :=
        withExternalTransferCustody_steady fun owner => waitHelperProcess_spec owner _ operation
      exact Owned.safe_of_spec known leaves (lockedOwn_spec rfl steady) inv free
  | structured operation =>
      have steady : Steady discipline policy born (Stays born)
          (runStructuredHelper operation true) :=
        withExternalTransferCustody_steady fun owner => structuredHelper_spec owner operation
      exact Owned.safe_of_spec known leaves (lockedOwn_spec rfl steady) inv free
  | required operation =>
      have steady : Steady discipline policy born (Stays born)
          (runRequiredDeliveryHelperCommandDetailed operation true) := by
        refine Steady.bind (withExternalTransferCustody_steady fun owner =>
          waitRequiredDeliveryHelper_spec owner operation) fun answer => ?_
        cases answer <;> exact Steady.pure
      exact Owned.safe_of_spec known leaves (lockedOwn_spec rfl steady) inv free

theorem closed : discipline.Closed policy :=
  Owned.closed (fun _ _ inv _ => .of_length (inv.depth.trans (by decide))) nofun program_safe

abbrev Handle := Config (requests layout outside) HandleDisk

def marker (config : Handle) : Option BootId := config.state.files File.externalTransferCustody

def unwaited (config : Handle) (pid : Nat) : Nat := config.state.world.unwaited.count pid

/-- The marker reads the same from one configuration to another. -/
inductive Standing (boot : BootId) (first : Handle) : Handle → Prop
  | here : marker first = some boot → Standing boot first first
  | step {before after : Handle} (event : Event transferSystem) : Standing boot first before →
      transferSystem.apply event before = some after → marker after = some boot →
      Standing boot first after

/-- The marker that stands now was written by `pid`, while that many of its helpers were
unwaited; it replaced nothing but an earlier boot's. -/
def CreatedBy (start : Handle) (creation : Creation) (boot : BootId) (now : Handle) : Prop :=
  ∃ before choice after, System.Run (System.Policy.free transferSystem) start before ∧
    transferSystem.apply (.step creation.pid choice) before = some after ∧
    Replaceable (marker before) boot ∧ unwaited after creation.pid = creation.unwaited ∧
    Standing boot after now

theorem files_of_apply {event : Event transferSystem} {before after : Handle}
    (applied : transferSystem.apply event before = some after) :
    (∃ pid choice, event = .step pid choice) ∨ after.state.files = before.state.files := by
  cases event with
  | step pid choice => exact .inl ⟨pid, choice, rfl⟩
  | enter entry =>
      simp only [System.apply, Option.some.injEq] at applied
      subst applied
      exact .inr rfl
  | change what => cases what
  | fork pid =>
      simp only [System.apply] at applied
      split at applied <;> cases applied
      exact .inr rfl
  | refuse pid =>
      simp only [System.apply] at applied
      split at applied <;> cases applied
      exact .inr rfl
  | leave pid =>
      simp only [System.apply] at applied
      split at applied <;> cases applied
      exact .inr rfl
  | kill pid =>
      simp only [System.apply] at applied
      split at applied <;> cases applied
      exact .inr rfl

/-- What one event may do about the marker, and about who wrote it. -/
inductive Turn (event : Event transferSystem) (before after : Handle × Option Creation) : Prop
  | same : marker after.1 = marker before.1 → after.2 = before.2 → Turn event before after
  | created (pid : Nat) (choice : Request.Choice outside) (boot : BootId) :
      event = .step pid choice → Replaceable (marker before.1) boot →
      marker after.1 = some boot → after.2 = some ⟨pid, unwaited after.1 pid⟩ →
      Turn event before after
  | removed (pid : Nat) (choice : Request.Choice outside) : event = .step pid choice →
      marker after.1 = none → before.2 = some ⟨pid, unwaited before.1 pid⟩ →
      Turn event before after

theorem replaceable_differs {boot : BootId} {found : Option BootId}
    (replaceable : Replaceable found boot) : found ≠ some boot := by
  rcases replaceable with none | ⟨recorded, current, rfl, rfl, differ⟩
  · rw [none]
    exact nofun
  · intro same
    exact differ (Option.some.inj (Option.some.inj same))

theorem turn_of_moves {event : Event transferSystem} {before after : Handle}
    {ghost ghost' : Option Creation} (applied : transferSystem.apply event before = some after)
    (moves : discipline.Moves event (before.state, ghost) (after.state, ghost')) :
    Turn event (before, ghost) (after, ghost') := by
  have quiet (same : owned.Same (before.state, ghost) (after.state, ghost')) :
      Turn event (before, ghost) (after, ghost') :=
    .same (congrArg Custody.marker same.value) (congrArg Custody.creation same.value)
  have promised (pid : Nat) (acts : ∀ other choice, event = .step other choice → other = pid)
      (promise : owned.Promise pid (before.state, ghost) (after.state, ghost')) :
      Turn event (before, ghost) (after, ghost') := by
    cases promise with
    | same same => exact quiet same
    | left left => exact left.drops.elim
    | noted noted => exact noted.adds.elim
    | moved moved =>
        have files := files_of_apply applied
        have moves : Moves pid (owned.value (before.state, ghost))
            (owned.value (after.state, ghost')) := moved.moves
        generalize first : owned.value (before.state, ghost) = custody at moves
        generalize second : owned.value (after.state, ghost') = custody' at moves
        have markerBefore : marker before = custody.marker := congrArg Custody.marker first
        have markerAfter : marker after = custody'.marker := congrArg Custody.marker second
        have ghostBefore : ghost = custody.creation := congrArg Custody.creation first
        have ghostAfter : ghost' = custody'.creation := congrArg Custody.creation second
        have countBefore : unwaited before pid = custody.unwaited.count pid :=
          congrArg (fun custody => custody.unwaited.count pid) first
        have countAfter : unwaited after pid = custody'.unwaited.count pid :=
          congrArg (fun custody => custody.unwaited.count pid) second
        cases moves with
        | created boot replaceable =>
            rcases files with ⟨other, choice, rfl⟩ | files
            · obtain rfl := acts other choice rfl
              refine .created other choice boot rfl (markerBefore ▸ replaceable) markerAfter ?_
              rw [ghostAfter, countAfter]
            · have same : marker after = marker before :=
                congrFun files File.externalTransferCustody
              refine absurd ?_ (replaceable_differs replaceable)
              rw [← markerBefore, ← same, markerAfter]
        | removed creation =>
            rcases files with ⟨other, choice, rfl⟩ | files
            · obtain rfl := acts other choice rfl
              refine .removed other choice rfl markerAfter ?_
              rw [ghostBefore, countBefore]
              exact creation
            · exact .same (congrFun files File.externalTransferCustody)
                (ghostAfter.trans ghostBefore.symm)
        | helper _ =>
            exact .same (markerAfter.trans markerBefore.symm) (ghostAfter.trans ghostBefore.symm)
  cases event with
  | enter entry => exact quiet moves.2.2
  | change what => exact nomatch what
  | refuse pid =>
      have same : (before.state, ghost) = (after.state, ghost') := moves
      exact quiet (same ▸ ⟨rfl, rfl⟩)
  | step pid choice =>
      exact promised pid (fun _ _ same => by injection same with same; exact same.symm) moves.2
  | fork pid => exact promised pid nofun moves.2
  | leave pid => exact promised pid nofun moves.2
  | kill pid => exact promised pid nofun moves.2

/-- A handle with whatever marker, nobody at work. -/
structure Resting (config : Handle) : Prop where
  idle : ∀ pid, config.procs pid = none
  free : ∀ name, config.state.held name = []

theorem created_of_run {start final : Handle} (resting : Resting start)
    (run : System.Run (System.Policy.free transferSystem) start final) :
    ∃ ghost, discipline.Good (System.Policy.free transferSystem) final ghost ∧
      ∀ creation boot, ghost = some creation → marker final = some boot →
        CreatedBy start creation boot final := by
  induction run with
  | start =>
      refine ⟨none, Owned.good_of_idle resting.idle resting.free trivial trivial, ?_⟩
      intro creation boot named
      cases named
  | step event before permitted applied ih =>
      obtain ⟨ghost, good, named⟩ := ih
      obtain ⟨ghost', moves, good'⟩ := Discipline.apply_good closed event good permitted applied
      refine ⟨ghost', good', fun creation boot creator stands => ?_⟩
      cases turn_of_moves applied moves with
      | same kept unchanged =>
          obtain ⟨first, choice, second, earlier, wrote, replaceable, count, standing⟩ :=
            named creation boot (unchanged.symm.trans creator) (kept.symm.trans stands)
          exact ⟨first, choice, second, earlier, wrote, replaceable, count,
            .step event standing applied stands⟩
      | created pid choice boot' acted replaceable written creator' =>
          obtain rfl : boot' = boot := Option.some.inj (written.symm.trans stands)
          obtain rfl : (⟨pid, unwaited _ pid⟩ : Creation) = creation :=
            Option.some.inj (creator'.symm.trans creator)
          exact ⟨_, choice, _, before, acted ▸ applied, replaceable, rfl, .here stands⟩
      | removed pid choice acted gone creator' =>
          rw [show marker _ = none from gone] at stands
          cases stands

end Run

section Unreadable

abbrev Leaves {ρ : Type} (out : Except IoError ρ → Prop) (script : Script ρ) : Prop :=
  Io.Leaves (L := layout) (E := outside) File.externalTransferCustody out script

abbrev Heeds {ρ : Type} (out : Except IoError ρ → Prop) (script : Script ρ) : Prop :=
  Io.Heeds (L := layout) (E := outside) File.externalTransferCustody out script

/-- An operation between the marker and its removal never looks at the marker itself. -/
structure Indifferent {ρ : Type} (script : Script ρ) : Prop where
  leaves : ∀ out : Except IoError ρ → Prop, (∀ result, out result) → Leaves out script
  heeds : ∀ out, Heeds out script

namespace Indifferent

variable {ρ σ : Type}

theorem pure {value : ρ} : Indifferent (Pure.pure value : Script ρ) :=
  ⟨fun _ all => .pure (all _), fun _ => .pure⟩

theorem throw {error : IoError} : Indifferent (Io.throw error : Script ρ) :=
  ⟨fun _ all => .throw (all _), fun _ => .throw⟩

theorem ask {op : Request layout outside} (quiet : ¬ op.Changes File.externalTransferCustody)
    (other : op ≠ .read File.externalTransferCustody) :
    Indifferent (Io.ask (L := layout) (E := outside) op) :=
  ⟨fun _ all => Io.Leaves.ask quiet all, fun _ => Io.Heeds.ask other⟩

theorem outsideAsk (op : Outside) : Indifferent (outsideAsk op) :=
  ask (fun changes => changes) (by exact nofun)

theorem readFile {file : File} (other : file ≠ .externalTransferCustody) :
    Indifferent (readFile file) := by
  refine ask (fun changes => changes) fun same => other ?_
  injection same

theorem bind {script : Script ρ} {rest : ρ → Script σ} (first : Indifferent script)
    (value : ∀ value, Indifferent (rest value)) : Indifferent (script >>= rest) where
  leaves out all :=
    .bind (first.leaves (fun _ => True) fun _ => trivial) (fun found _ => (value found).leaves out all)
      fun error _ => all (.error error)
  heeds out :=
    .seq (first.heeds _) fun found => (value found).heeds out

theorem attempt {script : Script ρ} (first : Indifferent script) : Indifferent script.attempt :=
  ⟨fun _ all => .attempt (first.leaves _ fun result => all (.ok result)),
    fun _ => .attempt (first.heeds _)⟩

theorem branch {c : Prop} [Decidable c] {yes no : Script ρ} (left : Indifferent yes)
    (right : Indifferent no) : Indifferent (if c then yes else no) :=
  ⟨fun out all => .branch (fun _ => left.leaves out all) fun _ => right.leaves out all,
    fun out => .branch (fun _ => left.heeds out) fun _ => right.heeds out⟩

theorem waitHelper (kind : String) (operation : HelperOperation) :
    Indifferent (waitHelper kind operation) := by
  refine .bind (.attempt (.outsideAsk _)) fun started => ?_
  cases started with
  | error _ => exact .pure
  | ok _ =>
      refine .bind (.attempt (.outsideAsk _)) fun status => ?_
      cases status <;> exact .pure

theorem waitRequiredDeliveryHelper (operation : HelperOperation) :
    Indifferent (waitRequiredDeliveryHelper operation) := by
  refine .bind (.attempt (.outsideAsk _)) fun started => ?_
  cases started with
  | error _ => exact .pure
  | ok _ =>
      refine .bind (.attempt (.outsideAsk _)) fun output => ?_
      cases output <;> exact .pure

theorem structuredHelper (operation : HelperOperation) :
    Indifferent (structuredHelper operation) := by
  refine .bind (.attempt (.bind (.outsideAsk _) fun _ => .bind (.readFile (by exact nofun)) fun _ =>
    .bind (.outsideAsk _) fun _ => .pure)) fun prepared => ?_
  cases prepared with
  | error _ => exact .pure
  | ok retained =>
      refine .bind (.waitHelper _ operation) fun answer => ?_
      cases answer with
      | error _ => exact .pure
      | ok status =>
          refine .bind (.attempt (.bind (.outsideAsk _) fun _ =>
            .branch (.outsideAsk _) .throw)) fun receipt => ?_
          cases receipt <;> exact .pure

end Indifferent

/-- Where a reading that told nothing may lead `begin_external_transfer_custody`. -/
def unowned : Except IoError Bool → Prop
  | .ok owner => owner = false
  | .error _ => True

def retained : Except IoError Bool → Prop
  | .ok retained => retained = true
  | .error _ => True

def failed {ρ : Type} : Except IoError ρ → Prop
  | .ok _ => False
  | .error _ => True

theorem readOptional_heeds : Heeds failed (readOptional File.externalTransferCustody) := by
  have reads : Heeds (fun result => ∃ error : IoError, result = .ok (.error error) ∧
      error.kind ≠ .notFound) (readFile File.externalTransferCustody).attempt :=
    .attempt (.read fun error other => ⟨error, rfl, other⟩)
  refine .bind reads (fun answer => ?_) (fun answer told => ?_) fun error told => ?_
  · cases answer with
    | ok _ => exact .pure
    | error _ => exact .branch (fun _ => .pure) fun _ => .throw
  · obtain ⟨error, same, other⟩ := told
    obtain rfl : answer = .error error := Except.ok.inj same
    exact .branch (fun missing => absurd missing other) fun _ => .throw trivial
  · obtain ⟨_, same, _⟩ := told
    cases same

theorem bootCustodyMayRemain_heeds (boot : BootId) :
    Heeds retained (bootCustodyMayRemain .externalTransferCustody id boot) := by
  have reads : Heeds (fun result => ∃ error : IoError, result = .ok (.error error) ∧
      error.kind ≠ .notFound) (readFile File.externalTransferCustody).attempt :=
    .attempt (.read fun error other => ⟨error, rfl, other⟩)
  refine .bind reads (fun answer => ?_) (fun answer told => ?_) fun error told => ?_
  · cases answer <;> exact .pure
  · obtain ⟨error, same, other⟩ := told
    obtain rfl : answer = .error error := Except.ok.inj same
    exact .pure (by simpa [retained] using other)
  · obtain ⟨_, same, _⟩ := told
    cases same

theorem externalCustodyRetained_heeds (boot : BootId) :
    Heeds retained (externalCustodyRetained boot) := by
  have exists_ : Heeds failed (durableMarkerExists .externalTransferCustody) :=
    .bind readOptional_heeds (fun _ => .pure) (fun _ impossible => impossible.elim)
      fun _ _ => trivial
  refine .bind exists_ (fun _ => ?_) (fun _ impossible => impossible.elim) fun _ _ => trivial
  exact .branch (fun _ => bootCustodyMayRemain_heeds boot) fun _ => .pure

theorem replaceFile_heeds (boot : BootId) :
    Heeds (fun _ => False) (replaceFile .externalTransferCustody boot) := by
  have other : (Request.replace File.externalTransferCustody boot : Request layout outside) ≠
      .read File.externalTransferCustody := nofun
  exact Io.Heeds.ask other

theorem syncDirectory_indifferent : Indifferent syncDirectory :=
  Indifferent.ask (fun changes => changes) (by exact nofun)

theorem beginExternalTransferCustody_heeds : Heeds unowned beginExternalTransferCustody := by
  refine .seq ((Indifferent.outsideAsk .currentBootId).heeds _) fun boot => ?_
  refine .bind (externalCustodyRetained_heeds boot) (fun retained => ?_) (fun kept told => ?_)
    fun _ _ => trivial
  · refine .branch (fun _ => .pure) fun _ => ?_
    have writes : Heeds (fun _ => False) (atomicWrite .externalTransferCustody boot) :=
      .seq (replaceFile_heeds boot) fun _ => syncDirectory_indifferent.heeds _
    exact .seq writes fun _ => .pure
  · exact .branch (fun _ => .pure rfl) fun gone => absurd told gone

theorem reportExternalCustodyCleanup_heeds (cleanup : Except IoError Unit) :
    Heeds (fun _ => False) (reportExternalCustodyCleanup cleanup) := by
  cases cleanup with
  | ok _ => exact .pure
  | error error =>
      have replace : (Request.replace File.externalTransferCleanupError error.detail :
          Request layout outside) ≠ .read File.externalTransferCustody := nofun
      have replaces : Heeds (fun _ => False)
          (replaceFile .externalTransferCleanupError error.detail) := Io.Heeds.ask replace
      have writes : Heeds (fun _ => False) (recordExternalCustodyCleanupError error).attempt :=
        .attempt (.seq replaces fun _ => syncDirectory_indifferent.heeds _)
      exact .seq writes fun _ => .pure

theorem endExternalTransferCustody_heeds :
    Heeds (fun _ => False) endExternalTransferCustody := by
  have remove : (Request.remove File.externalTransferCustody : Request layout outside) ≠
      .read File.externalTransferCustody := nofun
  have removes {out : Except IoError Unit → Prop} :
      Heeds out (removeFile File.externalTransferCustody) := Io.Heeds.ask remove
  have removal : Heeds (fun _ => False) (removeFile File.externalTransferCustody).attempt :=
    .attempt removes
  refine .seq (syncDirectory_indifferent.heeds _) fun _ => .seq removal fun answer => ?_
  cases answer with
  | ok _ => exact syncDirectory_indifferent.heeds _
  | error _ => exact .branch (fun _ => .pure) fun _ => .throw

/-- An operation that could not read the marker neither replaces nor removes it. -/
theorem withExternalTransferCustody_heeds {ρ : Type}
    {operation : Script (Except DeliveryHelperCommandError ρ)}
    (indifferent : Indifferent operation) :
    Heeds (fun _ => True) (withExternalTransferCustody true operation) := by
  refine Io.Heeds.branch (fun _ => ?_) fun other => absurd rfl other
  have begins : Heeds (fun result => ∃ begun, result = .ok begun ∧ unowned begun)
      beginExternalTransferCustody.attempt := by
    apply Io.Heeds.attempt
    intro next after quiet
    exact beginExternalTransferCustody_heeds next after
      fun result told => quiet result ⟨result, rfl, told⟩
  refine .bind begins (fun begun => ?_) (fun begun told => ?_) fun _ _ => trivial
  · cases begun with
    | error _ => exact .pure
    | ok owner =>
        refine .seq (indifferent.heeds _) fun result => .branch (fun _ => ?_) fun _ => .pure
        have discharge : Heeds (fun _ => False) endExternalTransferCustody.attempt :=
          .attempt endExternalTransferCustody_heeds
        exact .seq discharge fun cleanup =>
          .seq (reportExternalCustodyCleanup_heeds cleanup) fun _ => .pure
  · obtain ⟨begun', same, unowned⟩ := told
    obtain rfl : begun = begun' := Except.ok.inj same
    cases begun with
    | error _ => exact .pure trivial
    | ok owner =>
        obtain rfl : owner = false := unowned
        refine .bind (indifferent.leaves (fun _ => True) fun _ => trivial) (fun result _ => ?_)
          fun _ _ => trivial
        exact .branch (fun owned => by simp at owned) fun _ => .pure trivial

theorem locked_heeds {ρ : Type} {body : Script ρ} (heeds : Heeds (fun _ => True) body)
    (status : Except IoError ρ → Nat) :
    Program.Heeds (L := layout) (E := outside) File.externalTransferCustody
      ((locked .delivery body).program status) := by
  have takes : (Request.lock Lock.delivery : Request layout outside) ≠
      .read File.externalTransferCustody := nofun
  have gives : Indifferent (unlock .delivery) :=
    Indifferent.ask (fun changes => changes) (by exact nofun)
  have enters {out : Except IoError Unit → Prop} : Heeds out (lock .delivery) :=
    Io.Heeds.ask takes
  have attempts : Heeds (fun _ => True) body.attempt := .attempt heeds
  have script : Heeds (fun _ => True) (locked .delivery body) := by
    refine .seq enters fun _ => .bind attempts (fun result => ?_) (fun result _ => ?_)
      fun _ _ => trivial
    · exact .seq (gives.heeds _) fun _ => .ofExcept
    · exact .bind (gives.leaves (fun _ => True) fun _ => trivial) (fun _ _ => .ofExcept trivial)
        fun _ _ => trivial
  exact script _ (fun _ => trivial) fun _ _ => trivial

theorem program_heeds (entry : TransferEntry) :
    Program.Heeds (L := layout) (E := outside) File.externalTransferCustody entry.program := by
  cases entry with
  | command operation =>
      exact locked_heeds (withExternalTransferCustody_heeds (.waitHelper _ operation)) _
  | structured operation =>
      exact locked_heeds (withExternalTransferCustody_heeds (.structuredHelper operation)) _
  | required operation =>
      have wrapped := withExternalTransferCustody_heeds (.waitRequiredDeliveryHelper operation)
      refine locked_heeds (.bind wrapped (fun answer => ?_) (fun answer _ => ?_)
        fun _ _ => trivial) _
      · cases answer <;> exact .pure
      · cases answer <;> exact .pure trivial

end Unreadable

section Result

/-- What follows an operation before its own result is handed on: the discharge of an owned
marker and the report of a failed one. Its only continuation is the rest of the program. -/
def afterOperation {ρ : Type} (owner : Bool) (result : Except DeliveryHelperCommandError ρ)
    (rest : HandleProgram) : HandleProgram :=
  if owner && !wasAdmitted result then
    endExternalTransferCustody fun cleanup => reportExternalCustodyCleanup cleanup fun _ => rest
  else rest

/-- Whatever the cleanup answers, what goes on is what would go on from the result itself. -/
theorem result_unchanged {ρ : Type} (operation : Script (Except DeliveryHelperCommandError ρ))
    (next : Except IoError (Except DeliveryHelperCommandError ρ) → HandleProgram) :
    withExternalTransferCustody true operation next =
      beginExternalTransferCustody fun
        | .error error => next (.ok (.error (.notStarted error)))
        | .ok owner => operation fun
            | .error error => next (.error error)
            | .ok result => afterOperation owner result (next (.ok result)) := by
  change (beginExternalTransferCustody fun begun => _) = _
  congr 1
  funext begun
  cases begun with
  | error error => rfl
  | ok owner =>
      change (operation fun result => _) = _
      congr 1
      funext result
      cases result with
      | error error => rfl
      | ok result =>
          unfold afterOperation
          by_cases discharges : (owner && !wasAdmitted result) = true
          · simp only [if_pos discharges]
            change (endExternalTransferCustody fun cleanup => _) = _
            congr 1
            funext cleanup
            cases cleanup <;> rfl
          · simp only [if_neg discharges]
            rfl

end Result

section Evidence

/-- The marker changes in two ways only: an operation writes it where none of this boot can
remain, and the operation that wrote it removes it once no helper of it is unwaited. After a
reading that told nothing an operation leaves it alone, and its own result is what goes on. -/
theorem external_custody_evidence {start final after : Handle} {event : Event transferSystem}
    (resting : Resting start)
    (run : System.Run (System.Policy.free transferSystem) start final)
    (applied : transferSystem.apply event final = some after) :
    (marker after = marker final ∨
      (∃ pid choice boot, event = .step pid choice ∧ marker after = some boot ∧
        Replaceable (marker final) boot) ∨
      ∃ pid choice boot count, event = .step pid choice ∧ marker final = some boot ∧
        marker after = none ∧ CreatedBy start ⟨pid, count⟩ boot final ∧
        unwaited final pid = count) ∧
    (∀ entry : TransferEntry, Program.Heeds (L := layout) (E := outside)
      File.externalTransferCustody entry.program) ∧
    ∀ (ρ : Type) (operation : Script (Except DeliveryHelperCommandError ρ))
      (next : Except IoError (Except DeliveryHelperCommandError ρ) → HandleProgram),
      withExternalTransferCustody true operation next =
        beginExternalTransferCustody fun
          | .error error => next (.ok (.error (.notStarted error)))
          | .ok owner => operation fun
              | .error error => next (.error error)
              | .ok result => afterOperation owner result (next (.ok result)) := by
  refine ⟨?_, program_heeds, fun _ => result_unchanged⟩
  obtain ⟨ghost, good, named⟩ := created_of_run resting run
  obtain ⟨ghost', moves, _⟩ :=
    Discipline.apply_good closed event good (System.Policy.free_permits final event) applied
  cases turn_of_moves applied moves with
  | same kept _ => exact .inl kept
  | created pid choice boot acted replaceable written _ =>
      exact .inr (.inl ⟨pid, choice, boot, acted, written, replaceable⟩)
  | removed pid choice acted gone creator =>
      cases stands : marker final with
      | none => exact .inl gone
      | some boot =>
          have created := named _ boot creator stands
          exact .inr (.inr ⟨pid, choice, boot, _, acted, rfl, gone, created, rfl⟩)

def unmarkedHandle : Handle where
  state :=
    { files := fun _ => none
      held := fun _ => []
      next := 1
      ended := fun _ => none
      parent := fun _ => none
      gates := fun _ => .waiting
      world := {} }
  procs _ := none

abbrev pass (pid : Nat) : Event transferSystem := .step pid .pass

/-- An operation writes its marker in boot 7, runs its helper and stands before the removal. -/
def beforeRemoval : List (Event transferSystem) :=
  [.enter (.command .complete), pass 1, .step 1 (.outside (.boot (some 7))), pass 1, pass 1, pass 1,
    .step 1 (.outside .agree), .step 1 (.outside (.exited (.code 0))), pass 1]

theorem beforeRemoval_state :
    (transferSystem.play (fun _ _ => true) beforeRemoval unmarkedHandle).bind (fun before =>
      (transferSystem.apply (pass 1) before).map fun after => (marker before, marker after)) =
        some (some (some 7), none) := by
  rfl

theorem external_custody_evidence_removal :
    ∃ final after, transferSystem.apply (pass 1) final = some after ∧
      marker final = some (some 7) ∧ marker after = none ∧
      ∃ pid boot count, CreatedBy unmarkedHandle ⟨pid, count⟩ boot final := by
  obtain ⟨final, played, known⟩ := Option.bind_eq_some_iff.mp beforeRemoval_state
  obtain ⟨after, applied, known⟩ := Option.map_eq_some_iff.mp known
  obtain ⟨stands, gone⟩ := Prod.mk.inj known
  have run : System.Run (System.Policy.free transferSystem) unmarkedHandle final :=
    System.Run.of_play (fun config event _ => System.Policy.free_permits config event) played
  have resting : Resting unmarkedHandle := ⟨fun _ => rfl, fun _ => rfl⟩
  refine ⟨final, after, applied, stands, gone, ?_⟩
  rcases (external_custody_evidence resting run applied).1 with kept | created | removed
  · rw [gone, stands] at kept
    cases kept
  · obtain ⟨_, _, boot, _, written, _⟩ := created
    rw [gone] at written
    cases written
  · obtain ⟨pid, _, boot, count, _, _, _, created, _⟩ := removed
    exact ⟨pid, boot, count, created⟩

end Evidence

end ExternalCustody

end AgentBash
