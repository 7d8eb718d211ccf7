import AgentBash.Custody.LaunchEvents

/-!
# The processes of a launch

A workload executes only what was released to it, a supervisor releases only the child whose launch
it published, and whoever comes in at the start of a directory keeps to the discipline of the
launch.
-/

namespace AgentBash

set_option autoImplicit false

open Durable

namespace SourceCustody

/-- What a supervisor and its guardian go by. -/
def supervising : Known := fun fence log => registered fence log ∧ admitted fence log

theorem supervising_lasting : launching.Lasting supervising :=
  both_lasting registered_lasting admitted_lasting

theorem noted_world {view : View} {world : CustodyWorld} {log : LaunchLog}
    (identities : world.identityOf = view.1.world.identityOf)
    (same : launchLog view.1.files world = log)
    (records : LaunchLog.Adds (launching.value view) (launching.notes view) log) :
    launching.Noted view ({ view.1 with world := world }, view.2) := by
  constructor
  · change fenceOf _ _ _ = fenceOf _ _ _
    simp only [fenceOf, identities]
  · change LaunchLog.Adds _ _ (launchLog _ _)
    exact same ▸ records

variable [Codec] {site : Site} {policy : System.Policy (custodySystem site)} {pid child : Nat}
  {known : Known} {record : SourceMeta} {turns guardian : List Turn} {scope : String}

section Workload

theorem outside_local (lasting : launching.Lasting known) :
    launching.Local (CustodyEntry.program site) pid (Outside pid known) :=
  (Owned.Apart.frame (within_beside lasting)).local_

omit [Codec] in
theorem released_of_gate {disk : CustodyDisk}
    (answered : CustodyOp.gateAnswer pid disk = some true) : pid ∈ disk.world.released := by
  unfold CustodyOp.gateAnswer at answered
  split at answered
  · assumption
  · split at answered <;> cases answered

theorem waits_release : Spec (launchDiscipline site) policy pid (Outside pid fun _ _ => True)
    (ask .waitForWorkloadRelease)
    (byResult (fun (answer : Bool) =>
      Outside pid fun fence log => answer = true → released pid fence log)
      fun _ => Outside pid fun _ _ => True) := by
  refine Lane.external (outside_local Owned.Lasting.top).stable ?_
  intro view choice answer world _ inv holds _ _ acted
  rcases CustodyOp.act_cases acted with ⟨_, rfl, rfl⟩ | performed
  · exact Owned.keeps_quiet inv rfl (.of_disk rfl rfl) holds
  · cases choice with
    | agree =>
        obtain ⟨open_, answered, same⟩ := Option.map_eq_some_iff.mp performed
        obtain ⟨rfl, rfl⟩ := Prod.mk.inj same
        exact Owned.keeps_quiet inv rfl (.of_disk rfl rfl)
          ⟨holds.1, holds.2.1, fun free => released_of_gate (free ▸ answered)⟩
    | _ => cases performed

theorem executes : Steady (launchDiscipline site) policy pid (Outside pid (released pid))
    (ask .exec) := by
  have here : launching.Frame (CustodyEntry.program site) pid (Outside pid (released pid)) :=
    Owned.Apart.frame (within_beside released_lasting)
  refine Lane.external here.stable ?_
  intro view choice answer world _ inv holds _ _ acted
  rcases CustodyOp.act_cases acted with ⟨_, rfl, rfl⟩ | performed
  · exact Owned.keeps_quiet inv rfl (.of_disk rfl rfl) holds
  · cases choice with
    | agree =>
        obtain ⟨rfl, rfl⟩ := Prod.mk.inj (Option.some.inj performed)
        have noted : launching.Noted view ({ view.1 with
            world := { view.1.world with executed := pid :: view.1.world.executed } }, view.2) :=
          noted_world rfl rfl (.execute _ pid holds.2.2)
        exact keeps_noted inv rfl noted (here.same rfl rfl noted.passed holds)
    | _ => cases performed

theorem workloadChild_spec : Spec (launchDiscipline site) policy pid
    (Outside pid fun _ _ => True) workloadChild fun _ => Outside pid fun _ _ => True := by
  have here : launching.Local (CustodyEntry.program site) pid (Outside pid fun _ _ => True) :=
    outside_local Owned.Lasting.top
  apply Spec.bind waits_release
  · intro (answer : Bool)
    cases answer with
    | true =>
        apply Spec.weaken executes
        · exact fun view _ holds => ⟨holds.1, holds.2.imp fun _ _ free => free rfl⟩
        · exact fun _ view _ holds => ⟨holds.1, holds.2.imp fun _ _ _ => trivial⟩
    | false =>
        apply Spec.strengthen (Owned.exit_spec here fun _ holds => .inl holds.1)
        exact fun view _ holds => ⟨holds.1, holds.2.imp fun _ _ _ => trivial⟩
  · exact fun _ _ _ holds => holds

end Workload

section Supervisor

omit [Codec] in
theorem outside_of_free {view : View} (free : launching.Free pid view)
    (holds : launching.Knows known view) : Outside pid known view :=
  ⟨free.1, free.2, holds⟩

theorem spawn_outside {program : Program (requests custodyLayout custodyOutside)}
    (lasting : launching.Lasting known)
    (safe : ∀ born view, (launchDiscipline site).Inv view → Outside born known view →
      Safe (launchDiscipline site) policy program born view) :
    Steady (launchDiscipline site) policy pid (Outside pid known) (Io.spawn program) :=
  (Owned.spawnKnowing_spec lasting fun born view inv free holds =>
    safe born view inv (outside_of_free free holds)).weaken
      (fun _ _ holds => ⟨⟨holds.1, holds.2.1⟩, holds.2.2⟩)
      fun _ _ _ holds => ⟨holds.1.1, holds.1.2, holds.2⟩

theorem workload_safe {view : View} (inv : (launchDiscipline site).Inv view)
    (outside : Outside pid known view) :
    Safe (launchDiscipline site) policy workloadProgram pid view :=
  Owned.safe_of_spec (outside_local Owned.Lasting.top) (fun _ holds => .inl holds.1)
    workloadChild_spec inv ⟨outside.1, outside.2.imp fun _ _ _ => trivial⟩

theorem releases (lasting : launching.Lasting known)
    (launched : ∀ fence log, known fence log → launchedAs child fence log) :
    Steady (launchDiscipline site) policy pid (Outside pid known)
      (ask (.releaseWorkload child)) := by
  have here : launching.Frame (CustodyEntry.program site) pid (Outside pid known) :=
    Owned.Apart.frame (within_beside lasting)
  refine Lane.external here.stable ?_
  intro view choice answer world _ inv holds _ _ acted
  rcases CustodyOp.act_cases acted with ⟨_, rfl, rfl⟩ | performed
  · exact Owned.keeps_quiet inv rfl (.of_disk rfl rfl) holds
  · cases choice with
    | agree =>
        obtain ⟨rfl, rfl⟩ := Prod.mk.inj (Option.some.inj performed)
        have noted : launching.Noted view ({ view.1 with
            world := { view.1.world with released := child :: view.1.world.released } }, view.2) :=
          noted_world rfl rfl (.release _ child (launched _ _ holds.2.2))
        exact keeps_noted inv rfl noted (here.same rfl rfl noted.passed holds)
    | _ => cases performed

theorem releaseWorkload_steady {published : Bool} (lasting : launching.Lasting known)
    (launched : published = true → ∀ fence log, known fence log → launchedAs child fence log) :
    Steady (launchDiscipline site) policy pid (Outside pid known)
      (releaseWorkload child published) := by
  have calm : Calm launching.lane (CustodyEntry.program site) besideLaunch pid (Outside pid known) :=
    outside_calm lasting
  have closes : Steady (launchDiscipline site) policy pid (Outside pid known)
      (ask (.closeLaunchGate child)) := calm.ask (.closeLaunchGate child) trivial
  apply Spec.branch
  · intro publishes
    have opens : Steady (launchDiscipline site) policy pid (Outside pid known)
        (ask (.releaseWorkload child)) := releases lasting (launched publishes)
    exact Steady.bind (.attempt opens) fun _ => closes
  · exact fun _ => closes

theorem runSupervisor_spec : Spec (launchDiscipline site) policy pid (Outside pid supervising)
    (runSupervisor site record turns) fun _ => Aware pid supervising := by
  have lasting := supervising_lasting
  have calm : Calm launching.lane (CustodyEntry.program site) besideLaunch pid
      (Outside pid supervising) := outside_calm lasting
  have failed : ∀ (error : IoError) (view : View), (launchDiscipline site).Inv view →
      Outside pid supervising view → Aware pid supervising view :=
    fun _ _ _ holds => aware_of_outside holds
  have observes : Spec (launchDiscipline site) policy pid (Outside pid supervising)
      ((ask (.writeMeta record)).attempt >>= fun _ => observe site turns {})
      fun _ => Aware pid supervising := by
    apply Steady.before (.attempt (calm.ask (.writeMeta record) trivial)) _ failed
    exact fun _ => (observe_steady registered_lasting).strengthen
      fun _ _ holds => aware_of_outside holds
  apply Steady.before calm.enabled _ failed
  intro _
  apply Steady.before (calm.ask .supervisorStartup trivial) _ failed
  intro _
  apply Steady.before (spawn_outside lasting fun born view inv outside => workload_safe inv outside) _
    failed
  intro born
  cases born with
  | none => exact .throw fun view inv holds => failed (.other "") view inv holds
  | some child =>
      apply Spec.handle (launched_spec lasting fun _ _ both => both.1)
      intro launch
      cases launch with
      | ok _ =>
          have lasting' : launching.Lasting fun fence log =>
              supervising fence log ∧ launchedAs child fence log :=
            both_lasting lasting launchedAs_lasting
          apply Steady.before (.attempt (releaseWorkload_steady lasting' fun _ _ _ both => both.2))
          · exact fun _ => observes.strengthen fun _ _ holds =>
              ⟨holds.1, holds.2.imp fun _ _ both => both.1⟩
          · exact fun error view inv holds =>
              failed error view inv ⟨holds.1, holds.2.imp fun _ _ both => both.1⟩
      | error _ =>
          have closes : Steady (launchDiscipline site) policy pid (Outside pid supervising)
              (releaseWorkload child false) :=
            releaseWorkload_steady lasting fun published => by cases published
          apply Steady.before (.attempt closes) _ failed
          exact fun _ => observes

theorem supervisor_safe {view : View} (inv : (launchDiscipline site).Inv view)
    (outside : Outside pid supervising view) :
    Safe (launchDiscipline site) policy ((runSupervisor site record turns).program exitStatus)
      pid view :=
  Owned.safe_of_spec (aware_local supervising_lasting) (fun _ holds => .inl holds.1)
    runSupervisor_spec inv outside

theorem daemonizationChild_spec : Spec (launchDiscipline site) policy pid
    (Outside pid supervising) (daemonizationChild site record turns guardian)
    fun _ => Aware pid supervising := by
  have lasting := supervising_lasting
  have here : launching.Local (CustodyEntry.program site) pid (Outside pid supervising) :=
    outside_local lasting
  have calm : Calm launching.lane (CustodyEntry.program site) besideLaunch pid
      (Outside pid supervising) := outside_calm lasting
  have failed : ∀ (error : IoError) (view : View), (launchDiscipline site).Inv view →
      Outside pid supervising view → Aware pid supervising view :=
    fun _ _ _ holds => aware_of_outside holds
  apply Steady.before (calm.ask .daemonize trivial) _ failed
  intro _
  apply Steady.before (spawn_outside lasting fun born view inv outside =>
    supervisor_safe inv outside) _ failed
  intro born
  cases born with
  | none => exact .throw fun view inv holds => failed (.other "") view inv holds
  | some supervisor =>
      apply Steady.before (Lane.wait here.stable fun _ _ _ _ holds _ _ => holds) _ failed
      exact fun _ => (observe_steady registered_lasting).strengthen
        fun _ _ holds => aware_of_outside holds

end Supervisor

section Registration

/-- What a registration came to is known as it is answered. -/
def registeredAs : RegistrationOutcome → Known
  | .registered => supervising
  | _ => fun _ _ => True

omit [Codec] in
theorem registeredAs_lasting {outcome : RegistrationOutcome} :
    launching.Lasting (registeredAs outcome) := by
  cases outcome with
  | registered => exact supervising_lasting
  | _ => exact Owned.Lasting.top

theorem register_spec : Spec (launchDiscipline site) policy pid (Outside pid registered)
    (register site) (byResult (fun outcome => Outside pid fun fence log =>
      registered fence log ∧ registeredAs outcome fence log) fun _ => Outside pid registered) := by
  have calm : Calm launching.lane (CustodyEntry.program site) besideLaunch pid
      (Outside pid registered) := outside_calm registered_lasting
  apply Steady.before (.attempt (calm.ask .registrationHelper trivial)) _ fun _ _ _ holds => holds
  intro answer
  have refused (outcome : RegistrationOutcome) (plain : registeredAs outcome = fun _ _ => True) :
      Spec (launchDiscipline site) policy pid (Outside pid registered)
        (pure outcome : CustodyScript RegistrationOutcome)
        (byResult (fun outcome => Outside pid fun fence log =>
          registered fence log ∧ registeredAs outcome fence log) fun _ => Outside pid registered) :=
    .pure fun view _ holds => ⟨holds.1, holds.2.imp fun _ _ there => ⟨there, plain ▸ trivial⟩⟩
  cases answer with
  | error error => exact refused _ rfl
  | ok answer =>
      cases answer with
      | notStarted error => exact refused _ rfl
      | admitted error => exact refused _ rfl
      | response reply =>
          apply Spec.handle (confirmLaunch_spec registered_lasting)
          intro confirmed
          cases confirmed with
          | error error => exact refused _ rfl
          | ok _ =>
              exact .pure fun view _ holds =>
                ⟨holds.1, holds.2.imp fun _ _ both => ⟨both.1, both⟩⟩

theorem registerSource_spec : Spec (launchDiscipline site) policy pid
    (Outside pid fun _ _ => True) (registerSource site record scope)
    (byResult (fun outcome => Outside pid (registeredAs outcome))
      fun _ => Outside pid fun _ _ => True) := by
  have forgets {known : Known} {view : View} (holds : Outside pid known view) :
      Outside pid (fun _ _ => True) view := ⟨holds.1, holds.2.imp fun _ _ _ => trivial⟩
  have calm : Calm launching.lane (CustodyEntry.program site) besideLaunch pid
      (Outside pid registered) := outside_calm registered_lasting
  apply Spec.handle (prepareContinuation_spec Owned.Lasting.top)
  intro prepared
  cases prepared with
  | error error => exact .pure fun _ _ holds => holds
  | ok _ =>
      have abandons (outcome : RegistrationOutcome) (plain : registeredAs outcome = fun _ _ => True) :
          Spec (launchDiscipline site) policy pid (Outside pid registered)
            (abandonAs site outcome)
            (byResult (fun outcome => Outside pid (registeredAs outcome))
              fun _ => Outside pid fun _ _ => True) := by
        apply Steady.before (.attempt (abandon_steady registered_lasting))
        · exact fun _ => .pure fun _ _ holds => plain ▸ forgets holds
        · exact fun _ _ _ holds => forgets holds
      have continues : Spec (launchDiscipline site) policy pid (Outside pid registered)
          (registerPrepared site record)
          (byResult (fun outcome => Outside pid (registeredAs outcome))
            fun _ => Outside pid fun _ _ => True) := by
        apply Steady.before (.attempt (calm.ask (.writeMeta record) trivial))
        · intro written
          cases written with
          | error error => exact abandons _ rfl
          | ok _ =>
              apply Spec.bind register_spec
              · intro outcome
                have known {view : View} (holds : Outside pid (fun fence log =>
                    registered fence log ∧ registeredAs outcome fence log) view) :
                    Outside pid registered view := ⟨holds.1, holds.2.imp fun _ _ both => both.1⟩
                cases outcome with
                | registered =>
                    exact .pure fun _ _ holds => ⟨holds.1, holds.2.imp fun _ _ both => both.2⟩
                | unprepared detail => exact (abandons _ rfl).strengthen fun _ _ holds => known holds
                | unwritten detail => exact (abandons _ rfl).strengthen fun _ _ holds => known holds
                | refused detail => exact (abandons _ rfl).strengthen fun _ _ holds => known holds
                | unknown detail => exact (abandons _ rfl).strengthen fun _ _ holds => known holds
              · exact fun _ _ _ holds => forgets holds
        · exact fun _ _ _ holds => forgets holds
      exact continues.strengthen fun _ _ holds => ⟨holds.1, holds.2.imp fun _ _ both => both.2⟩

end Registration

section Entries

theorem leaves {code : Nat} {α : Type} {Q : Except IoError α → View → Prop}
    (lasting : launching.Lasting known) :
    Spec (launchDiscipline site) policy pid (Outside pid known) (Io.exit code) Q :=
  Owned.exit_spec (outside_local lasting) fun _ holds => .inl holds.1

theorem registerAndStartSupervisor_spec : Spec (launchDiscipline site) policy pid
    (Outside pid fun _ _ => True) (registerAndStartSupervisor site record scope turns guardian)
    fun _ => Aware pid fun _ _ => True := by
  have forgets {known : Known} {view : View} (holds : Aware pid known view) :
      Aware pid (fun _ _ => True) view := ⟨holds.1, holds.2.1, trivial⟩
  apply Spec.bind registerSource_spec
  · intro outcome
    have lasting : launching.Lasting (registeredAs outcome) := registeredAs_lasting
    have calm : Calm launching.lane (CustodyEntry.program site) besideLaunch pid
        (Outside pid (registeredAs outcome)) := outside_calm lasting
    have ends : Spec (launchDiscipline site) policy pid (Outside pid (registeredAs outcome))
        ((reportRegistration outcome).attempt >>= fun _ => (Io.exit 70 : CustodyScript Unit))
        fun _ => Aware pid fun _ _ => True :=
      Steady.before (.attempt calm.reportRegistration) (fun _ => leaves lasting)
        fun _ _ _ holds => forgets (aware_of_outside holds)
    cases outcome with
    | registered =>
        apply Steady.before (.attempt (calm.ask (.sendRegistrationResult 1 "") trivial))
        · exact fun _ => daemonizationChild_spec.relax fun _ _ _ holds => forgets holds
        · exact fun _ _ _ holds => forgets (aware_of_outside holds)
    | unprepared _ => exact ends
    | unwritten _ => exact ends
    | refused _ => exact ends
    | unknown _ => exact ends
  · exact fun _ _ _ holds => aware_of_outside holds

theorem runRootWorker_spec : Spec (launchDiscipline site) policy pid
    (Outside pid fun _ _ => True) (runRootWorker site record scope turns)
    fun _ => Aware pid fun _ _ => True := by
  have forgets {known : Known} {view : View} (holds : Aware pid known view) :
      Aware pid (fun _ _ => True) view := ⟨holds.1, holds.2.1, trivial⟩
  apply Spec.bind registerSource_spec
  · intro outcome
    have lasting : launching.Lasting (registeredAs outcome) := registeredAs_lasting
    have calm : Calm launching.lane (CustodyEntry.program site) besideLaunch pid
        (Outside pid (registeredAs outcome)) := outside_calm lasting
    have ends (report : CustodyOp) (quiet : report.quiet) :
        Spec (launchDiscipline site) policy pid (Outside pid (registeredAs outcome))
          ((ask report).attempt >>= fun _ => (Io.exit 70 : CustodyScript Unit))
          fun _ => Aware pid fun _ _ => True :=
      Steady.before (.attempt (calm.ask report quiet)) (fun _ => leaves lasting)
        fun _ _ _ holds => forgets (aware_of_outside holds)
    cases outcome with
    | registered =>
        have observes : Spec (launchDiscipline site) policy pid (Outside pid supervising)
            (observe site turns {}) fun _ => Aware pid fun _ _ => True :=
          (observe_steady registered_lasting).weaken (fun _ _ holds => aware_of_outside holds)
            fun _ _ _ holds => forgets holds
        apply Steady.before (.attempt (calm.ask .awaitExecutionGrant trivial))
        · intro grant
          cases grant with
          | error _ => exact observes
          | ok grant =>
              cases grant with
              | granted => exact runSupervisor_spec.relax fun _ _ _ holds => forgets holds
              | cancelled => exact observes
        · exact fun _ _ _ holds => forgets (aware_of_outside holds)
    | unprepared detail => exact ends (.recordRegistrationError detail) trivial
    | unwritten detail => exact ends (.recordRegistrationError detail) trivial
    | refused detail => exact ends (.recordRegistrationError detail) trivial
    | unknown detail => exact ends (.recordRegistrationUnknown detail) trivial
  · exact fun _ _ _ holds => aware_of_outside holds

theorem settleLaunch_spec {identity confirmation : Value} (lasting : launching.Lasting known) :
    Spec (launchDiscipline site) policy pid (Inside pid known fun _ => True)
      (settleLaunch identity confirmation) fun _ => Inside pid known fun _ => True := by
  have calm : Calm launching.lane (CustodyEntry.program site) besideLaunch pid
      (Inside pid known fun _ => True) := inside_calm lasting
  have free : besideLaunch .confirmation := trivial
  apply Spec.bind (readFence_spec lasting)
  · intro fence
    apply Spec.bind (revokeGone_spec lasting)
    · intro decided
      exact Steady.branch (.bind (calm.immutable free) fun _ => .pure) .pure
    · exact fun _ _ _ holds => holds
  · exact fun _ _ _ holds => holds

theorem reconcile_spec {confirmation : Value} : Spec (launchDiscipline site) policy pid
    (Outside pid fun _ _ => True) (reconcile site confirmation)
    fun _ => Aware pid fun _ _ => True := by
  have lasting : launching.Lasting fun _ _ => True := Owned.Lasting.top
  have calm : Calm launching.lane (CustodyEntry.program site) besideLaunch pid
      (Outside pid fun _ _ => True) := outside_calm lasting
  have failed : ∀ (error : IoError) (view : View), (launchDiscipline site).Inv view →
      Outside pid (fun _ _ => True) view → Aware pid (fun _ _ => True) view :=
    fun _ _ _ holds => aware_of_outside holds
  have settles {identity : Value} : Steady (launchDiscipline site) policy pid
      (Outside pid fun _ _ => True) (locked .launch (settleLaunch identity confirmation)) := by
    have spec : Spec (launchDiscipline site) policy pid (Outside pid fun _ _ => True)
        (locked .launch (settleLaunch identity confirmation))
        (byResult (fun _ => Outside pid fun _ _ => True ∧ True)
          fun _ => Outside pid fun _ _ => True) :=
      underLaunch lasting (fun _ => lasting) ((settleLaunch_spec lasting).relax
        fun result _ _ holds => by
          cases result with
          | ok _ => exact ⟨holds.2.1.1, holds.2.1.2.1, trivial, trivial⟩
          | error _ => exact holds.2.1)
    apply spec.relax
    intro result view _ holds
    cases result with
    | ok _ => exact ⟨holds.1, holds.2.imp fun _ _ _ => trivial⟩
    | error _ => exact holds
  apply Steady.before calm.binding_steady _ failed
  rintro ⟨registration, identity⟩
  apply Steady.before .ofExcept _ failed
  intro _
  apply Spec.branch
  · intro _
    apply Steady.before (calm.ask .currentImage trivial) _ failed
    intro image
    apply Steady.before (calm.readBeside .helperEnvironment) _ failed
    intro environment
    apply Spec.branch
    · intro _
      apply Steady.before settles _ failed
      intro settled
      apply Spec.branch
      · intro _
        exact (aware_locked (by decide) lasting (recoverSource_steady lasting)).strengthen
          fun _ _ holds => aware_of_outside holds
      · exact fun _ => .pure fun view inv holds => aware_of_outside holds
    · exact fun _ => .throw fun view inv holds => aware_of_outside holds
  · exact fun _ => .throw fun view inv holds => aware_of_outside holds

theorem launch_closed :
    (launchDiscipline site).Closed (System.Policy.free (custodySystem site)) := by
  have here {born : Nat} : launching.Local (CustodyEntry.program site) born
      (Aware born fun _ _ => True) := aware_local Owned.Lasting.top
  apply Owned.closed
  · intro pid view inv _
    exact .of_length (Nat.le_succ_of_le inv.depth)
  · exact fun what => nomatch what
  · intro entry born view inv free
    have outside : Outside born (fun _ _ => True) view := outside_of_free free trivial
    cases entry with
    | worker record scope turns guardian =>
        exact Owned.safe_of_spec here (fun _ holds => .inl holds.1) registerAndStartSupervisor_spec inv outside
    | rootWorker record scope turns =>
        exact Owned.safe_of_spec here (fun _ holds => .inl holds.1) runRootWorker_spec inv outside
    | recovery confirmation =>
        exact Owned.safe_of_spec here (fun _ holds => .inl holds.1) reconcile_spec inv outside

end Entries

end SourceCustody

end AgentBash
