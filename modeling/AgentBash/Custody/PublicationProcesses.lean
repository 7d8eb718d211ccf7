import AgentBash.Custody.PublicationObservers

/-!
# The processes of a publication

Registrations, launches and everybody else in the directory leave the chronicle of the publication
alone; so every process keeps to it.
-/

namespace AgentBash

set_option autoImplicit false

open Durable

namespace SourceCustody

variable [Codec] {site : Site} {policy : System.Policy (custodySystem site)} {pid child : Nat}
  {record : SourceMeta} {α : Type} {names : List CustodyLock} {turns guardian : List Turn}
  {scope : String}

section Fence

/-- Where nobody asks what is known, only the place among the locks is left to say. -/
abbrev Place (names : List CustodyLock) (pid : Nat) : Sight → Prop := At names pid fun _ _ => True

theorem place_calm : Calm publications.lane (CustodyEntry.program site) besidePublication pid
    (Place names pid) :=
  frame_calm (at_frame Owned.Lasting.top)

theorem place_locked {name : CustodyLock} {body : CustodyScript α}
    (own : CustodyLock.sourceCapture ≠ name)
    (inside : ∀ names, Steady (publishDiscipline site) policy pid (Place names pid) body) :
    Steady (publishDiscipline site) policy pid (Place names pid) (locked name body) :=
  at_locked own Owned.Lasting.top inside

theorem transition_beside {fence : Value} {phase : Phase} :
    Steady (publishDiscipline site) policy pid (Place names pid) (transition fence phase) := by
  have free : besidePublication .fence := trivial
  exact .bind required_steady fun _ => .branch (place_calm.save free) fail_steady

theorem publishRegistration_beside {registration : Value} {worker : CallerChainEntry} :
    Steady (publishDiscipline site) policy pid (Place names pid)
      (publishRegistration registration worker) := by
  have registered : besidePublication .registration := trivial
  have fenced : besidePublication .fence := trivial
  have local_ : besidePublication .continuationLocal := trivial
  apply place_locked (by decide)
  intro names
  exact .bind (place_calm.immutable registered) fun _ => .bind (place_calm.immutable fenced) fun _ =>
    place_calm.save local_

theorem prepareContinuation_beside :
    Steady (publishDiscipline site) policy pid (Place names pid)
      (prepareContinuation site record scope) := by
  have calm : Calm publications.lane (CustodyEntry.program site) besidePublication pid
      (Place names pid) := place_calm
  have free : besidePublication .recoveryImage := trivial
  have prepares {domain : String} : Steady (publishDiscipline site) policy pid (Place names pid)
      (prepare site record domain scope) := by
    apply Steady.bind required_steady
    intro _
    apply Steady.bind required_steady
    intro session
    apply Steady.bind required_steady
    intro invocation
    apply Steady.bind (calm.ask .canonicalDirectory trivial)
    intro canonical
    split
    · apply Steady.bind (calm.pinRecoveryImage free)
      intro recoveryHash
      apply Steady.bind (calm.ask .identity trivial)
      intro worker
      apply Steady.bind (calm.ask .uuid trivial)
      intro sourceId
      apply Steady.bind (calm.ask .uuid trivial)
      intro registrationId
      exact publishRegistration_beside
    · exact .throw
  apply Steady.bind (calm.ask .capability trivial)
  intro capability
  apply Steady.bind required_steady
  intro domain
  apply Steady.branch _ fail_steady
  apply Steady.bind (calm.ask .hello trivial)
  intro hello
  apply Steady.branch _ fail_steady
  exact .bind calm.ownersLive fun _ => prepares

theorem confirmLaunch_beside {reply : Value} :
    Steady (publishDiscipline site) policy pid (Place names pid) (confirmLaunch site reply) := by
  have free : besidePublication .registrationReceipt := trivial
  have spends (names : List CustodyLock) {identity : Value} :
      Steady (publishDiscipline site) policy pid (Place names pid) (spendFence identity reply) := by
    apply Steady.bind place_calm.readFence
    intro fence
    apply Steady.bind place_calm.mayTransition
    intro (may : Bool)
    apply Steady.branch _ fail_steady
    exact .bind (place_calm.immutable free) fun _ => .bind transition_beside fun _ =>
      confirmLocal_beside Owned.Lasting.top
  apply Steady.bind place_calm.binding_steady
  rintro ⟨registration, identity⟩
  exact .bind .ofExcept fun _ => .branch (place_locked (by decide) fun names => spends names) fail_steady

theorem abandon_beside :
    Steady (publishDiscipline site) policy pid (Place names pid) (abandon site) := by
  have revokes (names : List CustodyLock) :
      Steady (publishDiscipline site) policy pid (Place names pid) (revokeOwn site) := by
    apply Steady.bind place_calm.binding_steady
    intro bound
    apply Steady.bind place_calm.readFence
    intro fence
    apply Steady.bind place_calm.mayTransition
    intro (may : Bool)
    exact .branch transition_beside .pure
  apply Steady.bind place_calm.enabled
  intro (there : Bool)
  exact .branch (place_locked (by decide) revokes) .pure

theorem launched_beside :
    Steady (publishDiscipline site) policy pid (Place names pid) (launched site child) := by
  have launches (names : List CustodyLock) :
      Steady (publishDiscipline site) policy pid (Place names pid) (recordLaunch site child) := by
    apply Steady.bind place_calm.binding_steady
    intro bound
    apply Steady.bind place_calm.readFence
    intro fence
    apply Steady.branch _ fail_steady
    exact .bind (place_calm.ask (.childIdentity child) trivial) fun _ =>
      .bind transition_beside fun _ => .pure
  apply Steady.bind place_calm.enabled
  intro (there : Bool)
  exact .branch (place_locked (by decide) launches) .pure

theorem reconcile_publishes {confirmation : Value} :
    Steady (publishDiscipline site) policy pid (Place names pid) (reconcile site confirmation) := by
  have free : besidePublication .confirmation := trivial
  have settles (names : List CustodyLock) {identity : Value} : Steady (publishDiscipline site) policy pid
      (Place names pid) (settleLaunch identity confirmation) := by
    apply Steady.bind place_calm.readFence
    intro fence
    have revokes : Steady (publishDiscipline site) policy pid (Place names pid)
        (revokeGone fence) := by
      apply Steady.branch _ .pure
      apply Steady.bind readIdentity_steady
      intro worker
      apply Steady.bind (place_calm.ask (.processIdentityEvidence worker) trivial)
      intro (evidence : ProcessIdentityEvidence)
      exact .branch (.bind transition_beside fun _ => .pure) .pure
    apply Steady.bind revokes
    intro (decided : Bool)
    exact .branch (.bind (place_calm.immutable free) fun _ => .pure) .pure
  apply Steady.bind place_calm.binding_steady
  rintro ⟨registration, identity⟩
  apply Steady.bind .ofExcept
  intro _
  apply Steady.branch _ fail_steady
  apply Steady.bind (place_calm.ask .currentImage trivial)
  intro image
  apply Steady.bind (place_calm.readBeside .helperEnvironment)
  intro environment
  apply Steady.branch _ fail_steady
  apply Steady.bind (place_locked (by decide) fun names => settles names)
  intro (settled : Bool)
  exact .branch (place_locked (by decide) fun names => recoverSource_publishes Owned.Lasting.top) .pure

end Fence

section Processes

theorem free_iff_place {view : Sight} : publications.Free pid view ↔ Place [] pid view := by
  constructor
  · exact fun free => ⟨free.1, Owned.clean_iff_only.mp free.2, trivial⟩
  · exact fun place => ⟨place.1, Owned.clean_iff_only.mpr place.2.1⟩

theorem place_local : publications.Local (CustodyEntry.program site) pid (Place names pid) :=
  (at_frame Owned.Lasting.top).local_

theorem place_leaves {code : Nat} {Q : Except IoError α → Sight → Prop} :
    Spec (publishDiscipline site) policy pid (Place names pid) (Io.exit code) Q :=
  Owned.exit_spec place_local fun _ holds => .inl holds.1

theorem place_safe {script : CustodyScript α} {status : Except IoError α → Nat} {view : Sight}
    (steady : Steady (publishDiscipline site) policy pid (Place names pid) script)
    (inv : (publishDiscipline site).Inv view) (place : Place names pid view) :
    Safe (publishDiscipline site) policy (script.program status) pid view :=
  Owned.safe_of_spec place_local (fun _ holds => .inl holds.1) steady inv place

theorem place_spawn {program : Program (requests custodyLayout custodyOutside)}
    (safe : ∀ born view, (publishDiscipline site).Inv view → Place [] born view →
      Safe (publishDiscipline site) policy program born view) :
    Steady (publishDiscipline site) policy pid (Place [] pid) (Io.spawn program) :=
  (Owned.spawnFree_spec fun born view inv free => safe born view inv (free_iff_place.mp free)).weaken
    (fun _ _ place => free_iff_place.mpr place) fun _ _ _ free => free_iff_place.mp free

theorem observe_beside : Steady (publishDiscipline site) policy pid (Place names pid)
    (observe site turns {}) :=
  observe_publishes.strengthen fun _ _ place => ⟨place.1, place.2.1, progressed_fresh⟩

theorem place_asks {op : CustodyOp} :
    Steady (publishDiscipline site) policy pid (Place names pid) (ask op) :=
  (frame_free (at_frame Owned.Lasting.top)).external trivial

theorem workloadChild_beside :
    Steady (publishDiscipline site) policy pid (Place names pid) workloadChild := by
  apply Steady.bind place_asks
  intro (released : Bool)
  exact .branch place_asks place_leaves

theorem runSupervisor_publishes : Steady (publishDiscipline site) policy pid (Place [] pid)
    (runSupervisor site record turns) := by
  have releases {child : Nat} {published : Bool} : Steady (publishDiscipline site) policy pid
      (Place [] pid) (releaseWorkload child published) :=
    .branch (.bind (.attempt place_asks) fun _ => place_asks) place_asks
  apply Steady.bind place_calm.enabled
  intro _
  apply Steady.bind place_asks
  intro _
  apply Steady.bind (place_spawn fun born view inv place =>
    place_safe workloadChild_beside inv place)
  intro born
  cases born with
  | none => exact .throw
  | some child =>
      apply Steady.bind (.attempt launched_beside)
      intro launch
      exact .bind (.attempt releases) fun _ => .bind (.attempt place_asks) fun _ => observe_beside

theorem daemonizationChild_publishes : Steady (publishDiscipline site) policy pid (Place [] pid)
    (daemonizationChild site record turns guardian) := by
  have here : publications.Local (CustodyEntry.program site) pid (Place [] pid) := place_local
  apply Steady.bind place_asks
  intro _
  apply Steady.bind (place_spawn fun born view inv place =>
    place_safe runSupervisor_publishes inv place)
  intro born
  cases born with
  | none => exact .throw
  | some supervisor =>
      exact .bind (Lane.wait here.stable fun _ _ _ _ holds _ _ => holds) fun _ => observe_beside

theorem registerSource_beside : Steady (publishDiscipline site) policy pid (Place names pid)
    (registerSource site record scope) := by
  have registers : Steady (publishDiscipline site) policy pid (Place names pid)
      (register site) := by
    apply Steady.bind (.attempt place_asks)
    intro answer
    cases answer with
    | error error => exact .pure
    | ok answer =>
        cases answer with
        | notStarted error => exact .pure
        | admitted error => exact .pure
        | response reply =>
            apply Steady.bind (.attempt confirmLaunch_beside)
            intro confirmed
            cases confirmed <;> exact .pure
  have abandons (outcome : RegistrationOutcome) : Steady (publishDiscipline site) policy pid
      (Place names pid) (abandonAs site outcome) :=
    .bind (.attempt abandon_beside) fun _ => .pure
  apply Steady.bind (.attempt prepareContinuation_beside)
  intro prepared
  cases prepared with
  | error error => exact .pure
  | ok _ =>
      apply Steady.bind (.attempt place_asks)
      intro written
      cases written with
      | error error => exact abandons _
      | ok _ =>
          apply Steady.bind registers
          intro outcome
          cases outcome with
          | registered => exact .pure
          | unprepared detail => exact abandons _
          | unwritten detail => exact abandons _
          | refused detail => exact abandons _
          | unknown detail => exact abandons _

theorem registerAndStartSupervisor_publishes : Steady (publishDiscipline site) policy pid
    (Place [] pid) (registerAndStartSupervisor site record scope turns guardian) := by
  apply Steady.bind registerSource_beside
  intro outcome
  have ends : Steady (publishDiscipline site) policy pid (Place [] pid)
      ((reportRegistration outcome).attempt >>= fun _ => (Io.exit 70 : CustodyScript Unit)) :=
    .bind (.attempt place_calm.reportRegistration) fun _ => place_leaves
  cases outcome with
  | registered => exact .bind (.attempt place_asks) fun _ => daemonizationChild_publishes
  | unprepared _ => exact ends
  | unwritten _ => exact ends
  | refused _ => exact ends
  | unknown _ => exact ends

theorem runRootWorker_publishes : Steady (publishDiscipline site) policy pid (Place [] pid)
    (runRootWorker site record scope turns) := by
  apply Steady.bind registerSource_beside
  intro outcome
  have ends {report : CustodyOp} : Steady (publishDiscipline site) policy pid (Place [] pid)
      ((ask report).attempt >>= fun _ => (Io.exit 70 : CustodyScript Unit)) :=
    .bind (.attempt place_asks) fun _ => place_leaves
  cases outcome with
  | registered =>
      apply Steady.bind (.attempt place_asks)
      intro grant
      cases grant with
      | error _ => exact observe_beside
      | ok grant =>
          cases grant with
          | granted => exact runSupervisor_publishes
          | cancelled => exact observe_beside
  | unprepared detail => exact ends
  | unwritten detail => exact ends
  | refused detail => exact ends
  | unknown detail => exact ends

theorem publication_closed :
    (publishDiscipline site).Closed (System.Policy.free (custodySystem site)) := by
  apply Owned.closed
  · intro pid view inv _
    exact .of_length (Nat.le_succ_of_le inv.depth)
  · exact fun what => nomatch what
  · intro entry born view inv free
    have place : Place [] born view := free_iff_place.mp free
    cases entry with
    | worker record scope turns guardian =>
        exact place_safe registerAndStartSupervisor_publishes inv place
    | rootWorker record scope turns => exact place_safe runRootWorker_publishes inv place
    | recovery confirmation => exact place_safe reconcile_publishes inv place

end Processes

end SourceCustody

end AgentBash
