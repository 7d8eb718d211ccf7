import AgentBash.Custody.FenceSpecs
import AgentBash.Custody.PublicationRules

/-!
# Registration and launch

What the scripts come to that take the launch lock: a prepared source is registered, a confirmed one
admitted, and a published launch is the launch of the child it was published for.
-/

namespace AgentBash

set_option autoImplicit false

open Durable

namespace SourceCustody

variable [Codec] {site : Site} {policy : System.Policy (custodySystem site)} {pid : Nat}
  {known : Known} {record : SourceMeta}

section Preparation

omit [Codec] in
theorem inPhase_unreleased {identity : Value} {worker : CallerChainEntry}
    (object : identity.isObject = true) :
    InPhase (unreleasedFence identity worker) .unreleased := by
  refine ⟨(Value.field?_foldl _ "" object).1, ?_, ?_⟩
  · rw [Value.get_eq_field?, unreleasedFence, (Value.field?_foldl _ "phase" object).2]
    rfl
  · rw [Value.get_eq_field?, unreleasedFence, (Value.field?_foldl _ "revision" object).2]
    rfl

omit [Codec] in
theorem inside_imp {known known' : Known} {fact : Fence → Prop} {view : View}
    (implies : ∀ fence log, known fence log → known' fence log) (holds : Inside pid known fact view) :
    Inside pid known' fact view :=
  ⟨holds.1, ⟨holds.2.1.1, holds.2.1.2.imp implies⟩, holds.2.2⟩

omit [Codec] in
theorem noted_registration {registration : Value} (view : View) :
    launching.Noted view
      (view.1.write (L := custodyLayout) SourceFile.registration registration, view.2) := by
  have there : (view.1.write (L := custodyLayout) SourceFile.registration registration).files
      SourceFile.registration = some registration := Disk.put_same _ _ _
  have apart {file : SourceFile} (different : file ≠ .registration) :
      (view.1.write (L := custodyLayout) SourceFile.registration registration).files file =
        view.1.files file := Disk.put_other _ _ different
  constructor
  · change fenceOf _ _ _ = fenceOf _ _ _
    simp only [fenceOf]
    rw [apart (by decide)]
    rfl
  · change LaunchLog.Adds _ (launchLog _ _) (launchLog _ _)
    have same : launchLog (view.1.write (L := custodyLayout) SourceFile.registration registration).files
        view.1.world = { launchLog view.1.files view.1.world with registered := true } := by
      simp only [launchLog]
      rw [there, apart (by decide)]
      rfl
    exact same ▸ .register _

theorem publishes_registration {registration : Value} (lasting : launching.Lasting known) :
    Spec (launchDiscipline site) policy pid (Inside pid known fun _ => True)
      (immutable .registration registration)
      (byResult (fun _ => Inside pid (fun fence log => known fence log ∧ registered fence log)
        fun _ => True) fun _ => Inside pid known fun _ => True) := by
  have lasting' : launching.Lasting fun fence log => known fence log ∧ registered fence log :=
    both_lasting lasting registered_lasting
  have learns {view : View} (holds : Inside pid known (fun _ => True) view)
      (there : launching.Knows registered view) :
      Inside pid (fun fence log => known fence log ∧ registered fence log) (fun _ => True) view :=
    ⟨holds.1, ⟨holds.2.1.1, holds.2.1.2.1, holds.2.1.2.2, there⟩, trivial⟩
  apply immutable_rule (inside_local lasting).stable (inside_local lasting').stable
  · intro view inv holds _
    have noted : launching.Noted view
      (view.1.write (L := custodyLayout) SourceFile.registration registration, view.2) :=
      noted_registration view
    have there : (view.1.write (L := custodyLayout) SourceFile.registration registration).files
      SourceFile.registration = some registration := Disk.put_same _ _ _
    have framed : launching.Frame (CustodyEntry.program site) pid (launching.Base pid (Within pid known)) :=
      Owned.Base.frame (within_beside lasting)
    exact keeps_noted inv rfl noted (learns
      ⟨holds.1, framed.same rfl rfl noted.passed holds.2.1, trivial⟩ (congrArg Option.isSome there))
  · intro view _ holds there
    exact learns holds (congrArg Option.isSome there)
  · exact fun _ _ _ holds => inside_imp (fun _ _ both => both.1) holds
  · exact fun _ _ _ holds => holds

/-- A fence is created where there is none, so nothing was prepared before. -/
theorem publishes_fence {identity : Value} {worker : CallerChainEntry}
    (lasting : launching.Lasting known) (object : identity.isObject = true) :
    Steady (launchDiscipline site) policy pid (Inside pid known fun _ => True)
      (immutable .fence (unreleasedFence identity worker)) := by
  have held : launching.Local (CustodyEntry.program site) pid (Inside pid known fun _ => True) :=
    inside_local lasting
  apply immutable_rule held.stable held.stable
  · intro view inv holds absent
    have unprepared : view.2 = .unprepared := by
      have valid : Shows view.1.world.identityOf (view.1.files SourceFile.fence) view.2 := inv.valid
      rw [absent] at valid
      cases which : view.2 with
      | unprepared => rfl
      | _ =>
          rw [which] at valid
          obtain ⟨_, impossible, -⟩ := valid
          cases impossible
    have there : (view.1.write (L := custodyLayout) SourceFile.fence
      (unreleasedFence identity worker)).files SourceFile.fence =
        some (unreleasedFence identity worker) := Disk.put_same _ _ _
    have moved : launching.Moved pid view
        (view.1.write (L := custodyLayout) SourceFile.fence (unreleasedFence identity worker),
          .unreleased) := by
      refine ⟨holds.1, ⟨?_, rfl⟩, notes_fence view⟩
      change Decides view.2 .unreleased
      rw [unprepared]
      exact .prepare
    have framed : launching.Frame (CustodyEntry.program site) pid
      (launching.Base pid (Within pid known)) := Owned.Base.frame (within_beside lasting)
    exact Owned.keeps_moved inv rfl moved ⟨_, there, inPhase_unreleased object, nofun⟩
      ⟨holds.1, framed.same rfl rfl (moved.passed trivial) holds.2.1, trivial⟩
  · exact fun _ _ holds _ => holds
  · exact fun _ _ _ holds => holds
  · exact fun _ _ _ holds => holds

theorem publishRegistration_spec {registration : Value} {worker : CallerChainEntry}
    (lasting : launching.Lasting known) :
    Spec (launchDiscipline site) policy pid (Outside pid known)
      (publishRegistration registration worker)
      (byResult (fun _ => Outside pid fun fence log => known fence log ∧ registered fence log)
        fun _ => Outside pid known) := by
  apply underLaunch lasting fun _ => registered_lasting
  have lasting' : launching.Lasting fun fence log => known fence log ∧ registered fence log :=
    both_lasting lasting registered_lasting
  have calm : Calm launching.lane (CustodyEntry.program site) besideLaunch pid
      (Inside pid (fun fence log => known fence log ∧ registered fence log) fun _ => True) :=
    inside_calm lasting'
  have free : besideLaunch .continuationLocal := trivial
  have failed : ∀ view : View, Inside pid (fun fence log =>
      known fence log ∧ registered fence log) (fun _ => True) view →
      launching.Base pid (Within pid known) view :=
    fun view holds => (inside_imp (fun _ _ both => both.1) holds).2.1
  apply Spec.bind (publishes_registration lasting)
  · intro _
    apply Steady.before (publishes_fence lasting' isObject_common)
    · intro _
      apply (calm.save free).relax
      intro result view _ holds
      cases result with
      | ok _ => exact holds.2.1
      | error _ => exact failed view holds
    · exact fun _ view _ holds => failed view holds
  · exact fun _ _ _ holds => holds.2.1

theorem prepare_spec {domain scope : String} (lasting : launching.Lasting known) :
    Spec (launchDiscipline site) policy pid (Outside pid known) (prepare site record domain scope)
      (byResult (fun _ => Outside pid fun fence log => known fence log ∧ registered fence log)
        fun _ => Outside pid known) := by
  have calm : Calm launching.lane (CustodyEntry.program site) besideLaunch pid (Outside pid known) :=
    outside_calm lasting
  have free : besideLaunch .recoveryImage := trivial
  have failed : ∀ (error : IoError) (view : View), (launchDiscipline site).Inv view →
      Outside pid known view → byResult (fun _ : Unit => Outside pid fun fence log =>
        known fence log ∧ registered fence log) (fun _ => Outside pid known) (.error error) view :=
    fun _ _ _ holds => holds
  apply Steady.before required_steady _ failed
  intro _
  apply Steady.before required_steady _ failed
  intro session
  apply Steady.before required_steady _ failed
  intro invocation
  apply Steady.before (calm.ask .canonicalDirectory trivial) _ failed
  intro canonical
  split
  · next environment _ =>
    apply Steady.before (calm.pinRecoveryImage free) _ failed
    intro recoveryHash
    apply Steady.before (calm.ask .identity trivial) _ failed
    intro worker
    apply Steady.before (calm.ask .uuid trivial) _ failed
    intro sourceId
    apply Steady.before (calm.ask .uuid trivial) _ failed
    intro registrationId
    exact publishRegistration_spec lasting
  · exact .throw fun view inv holds => failed _ view inv holds

theorem prepareContinuation_spec {scope : String} (lasting : launching.Lasting known) :
    Spec (launchDiscipline site) policy pid (Outside pid known)
      (prepareContinuation site record scope)
      (byResult (fun _ => Outside pid fun fence log => known fence log ∧ registered fence log)
        fun _ => Outside pid known) := by
  have calm : Calm launching.lane (CustodyEntry.program site) besideLaunch pid (Outside pid known) :=
    outside_calm lasting
  have failed : ∀ (error : IoError) (view : View), (launchDiscipline site).Inv view →
      Outside pid known view → byResult (fun _ : Unit => Outside pid fun fence log =>
        known fence log ∧ registered fence log) (fun _ => Outside pid known) (.error error) view :=
    fun _ _ _ holds => holds
  apply Steady.before (calm.ask .capability trivial) _ failed
  intro capability
  apply Steady.before required_steady _ failed
  intro domain
  apply Spec.branch
  · intro _
    apply Steady.before (calm.ask .hello trivial) _ failed
    intro hello
    apply Spec.branch
    · intro _
      apply Steady.before calm.ownersLive _ failed
      intro _
      exact prepare_spec lasting
    · exact fun _ => .throw fun view inv holds => failed _ view inv holds
  · exact fun _ => .throw fun view inv holds => failed _ view inv holds

end Preparation

section Launch

theorem confirmLaunch_spec {reply : Value} (lasting : launching.Lasting known) :
    Spec (launchDiscipline site) policy pid (Outside pid known) (confirmLaunch site reply)
      (byResult (fun _ => Outside pid fun fence log => known fence log ∧ admitted fence log)
        fun _ => Outside pid known) := by
  have calm : Calm launching.lane (CustodyEntry.program site) besideLaunch pid (Outside pid known) :=
    outside_calm lasting
  have failed : ∀ (error : IoError) (view : View), (launchDiscipline site).Inv view →
      Outside pid known view → byResult (fun _ : Unit => Outside pid fun fence log =>
        known fence log ∧ admitted fence log) (fun _ => Outside pid known) (.error error) view :=
    fun _ _ _ holds => holds
  apply Steady.before calm.binding_steady _ failed
  rintro ⟨registration, identity⟩
  apply Steady.before .ofExcept _ failed
  intro _
  apply Spec.branch
  · intro _
    apply underLaunch lasting fun _ => admitted_lasting
    apply (spendFence_spec lasting).relax
    intro result view _ holds
    cases result with
    | ok _ => exact ⟨holds.2.1.1, holds.2.1.2.1, holds.2.1.2.2, holds.2.2⟩
    | error _ => exact holds.2.1
  · exact fun _ => .throw fun view inv holds => failed _ view inv holds

theorem abandon_steady (lasting : launching.Lasting known) :
    Steady (launchDiscipline site) policy pid (Outside pid known) (abandon site) := by
  have calm : Calm launching.lane (CustodyEntry.program site) besideLaunch pid (Outside pid known) :=
    outside_calm lasting
  apply Steady.bind calm.enabled
  intro (there : Bool)
  apply Steady.branch
  · have spec : Spec (launchDiscipline site) policy pid (Outside pid known)
        (locked .launch (revokeOwn site)) (byResult (fun _ => Outside pid fun fence log =>
          known fence log ∧ True) fun _ => Outside pid known) :=
      underLaunch lasting (fun _ => Owned.Lasting.top) ((revokeOwn_spec lasting).relax
        fun result view _ holds => by
          cases result with
          | ok _ => exact ⟨holds.2.1.1, holds.2.1.2.1, holds.2.1.2.2, trivial⟩
          | error _ => exact holds.2.1)
    apply spec.relax
    intro result view _ holds
    cases result with
    | ok _ => exact ⟨holds.1, holds.2.imp fun _ _ both => both.1⟩
    | error _ => exact holds
  · exact .pure

theorem enabled_registered (lasting : launching.Lasting known)
    (there : ∀ fence log, known fence log → log.registered = true) :
    Spec (launchDiscipline site) policy pid (Outside pid known) enabled
      (byResult (fun found view => found = true ∧ Outside pid known view)
        fun _ => Outside pid known) := by
  have stable : Stable (launchDiscipline site) pid (Outside pid known) :=
    (Owned.Apart.frame (within_beside lasting)).stable
  apply Spec.handle (Q := byResult (fun _ => Outside pid known) fun error view =>
    error.kind ≠ .notFound ∧ Outside pid known view)
  · apply Lane.read stable
    · exact fun _ _ _ holds _ => holds
    · intro view _ holds absent
      have found : (view.1.files SourceFile.registration).isSome = true :=
        there _ _ holds.2.2
      rw [absent] at found
      cases found
    · intro error view plain _ holds
      refine ⟨fun same => ?_, holds⟩
      simp [IoError.plain, same] at plain
  · intro answer
    cases answer with
    | ok _ => exact .pure fun _ _ holds => ⟨rfl, holds⟩
    | error _ => exact .pure fun _ _ holds => ⟨bne_iff_ne.mpr holds.1, holds.2⟩

theorem launched_spec {child : Nat} (lasting : launching.Lasting known)
    (there : ∀ fence log, known fence log → log.registered = true) :
    Spec (launchDiscipline site) policy pid (Outside pid known) (launched site child)
      (byResult (fun _ => Outside pid fun fence log => known fence log ∧ launchedAs child fence log)
        fun _ => Outside pid known) := by
  apply Spec.bind (enabled_registered lasting there)
  · intro found
    apply Spec.assume
    intro same
    subst same
    apply underLaunch lasting fun _ => launchedAs_lasting
    apply (recordLaunch_spec lasting).relax
    intro result view _ holds
    cases result with
    | ok _ => exact ⟨holds.2.1.1, holds.2.1.2.1, holds.2.1.2.2, holds.2.2⟩
    | error _ => exact holds.2.1
  · exact fun _ _ _ holds => holds

end Launch

end SourceCustody

end AgentBash
