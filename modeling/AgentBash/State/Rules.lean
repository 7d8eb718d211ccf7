import AgentBash.State.Files
import AgentBash.Durable.Owned

/-!
# Scripts beside a lane's concern

Most requests of a script do not touch what its lane is about. A `Margin` names the files
and outside requests that a lane leaves free, and a `Spectator` is an assertion that free
steps keep. Every script that stays within the margin is steady for it.
-/

namespace AgentBash

set_option autoImplicit false

open Durable

variable {γ Entry α : Type} {lane : Lane layout outside γ} {entry : Entry → HandleProgram}
  {policy : System.Policy (system layout outside entry)} {pid : Nat}
  {P : HandleDisk × γ → Prop}

structure Margin where
  files : File → Prop
  ops : Outside → Prop

structure Spectator (lane : Lane layout outside γ) (entry : Entry → HandleProgram)
    (margin : Margin) (pid : Nat) (P : HandleDisk × γ → Prop) : Prop where
  stable : Stable (lane.discipline entry) pid P
  writes : ∀ {file : File} (content : Option file.Content) {view : HandleDisk × γ},
    margin.files file → lane.Inv view → P view →
    lane.Keeps pid view (view.1.put (L := layout) file content) P
  asks : ∀ {op : Outside} {choice : Decision} {answer : Except IoError op.Result}
    {world : World} {view : HandleDisk × γ}, margin.ops op → lane.Inv view → P view →
    op.act pid choice view.1 = some (answer, world) →
    lane.Keeps pid view { view.1 with world := world } P

theorem readFile_spec {file : File}
    {Q : Except IoError file.Content → HandleDisk × γ → Prop}
    (stable : Stable (lane.discipline entry) pid P)
    (found : ∀ view (content : file.Content), lane.Inv view → P view →
      view.1.files file = some content → Q (.ok content) view)
    (missing : ∀ view, lane.Inv view → P view → view.1.files file = none →
      Q (.error ⟨.notFound, "No such file or directory"⟩) view)
    (failed : ∀ error view, error.plain = true → lane.Inv view → P view →
      Q (.error error) view) :
    Spec (lane.discipline entry) policy pid P (readFile file) Q :=
  Lane.read stable found missing failed

/-- An absent file is an answer, any other error is handed on. -/
def optionalAnswer {file : File}
    (Q : Except IoError (Option file.Content) → HandleDisk × γ → Prop) :
    Except IoError (Except IoError file.Content) → HandleDisk × γ → Prop
  | .ok (.ok content) => Q (.ok (some content))
  | .ok (.error error) => if error.kind = .notFound then Q (.ok none) else Q (.error error)
  | .error error => Q (.error error)

theorem readOptional_spec {file : File}
    {Q : Except IoError (Option file.Content) → HandleDisk × γ → Prop}
    (stable : Stable (lane.discipline entry) pid P)
    (found : ∀ view, lane.Inv view → P view → Q (.ok (view.1.files file)) view)
    (failed : ∀ error view, lane.Inv view → P view → Q (.error error) view) :
    Spec (lane.discipline entry) policy pid P (readOptional file) Q := by
  refine Spec.bind (Q := optionalAnswer Q) ?_ ?_ ?_
  · refine Spec.attempt (readFile_spec stable ?_ ?_ ?_)
    · intro view content inv held present
      have answer := found view inv held
      rw [present] at answer
      exact answer
    · intro view inv held absent
      have answer := found view inv held
      rw [absent] at answer
      exact answer
    · intro error view plain inv held
      have other : error.kind ≠ .notFound := by
        intro same
        simp [IoError.plain, same] at plain
      rw [optionalAnswer, if_neg other]
      exact failed error view inv held
  · intro answer
    cases answer with
    | ok content => exact .pure fun _ _ held => held
    | error error =>
        refine .branch (fun missing => ?_) fun other => ?_
        · exact .pure fun _ _ held => by rwa [optionalAnswer, if_pos missing] at held
        · exact .throw fun _ _ held => by rwa [optionalAnswer, if_neg other] at held
  · exact fun _ _ _ held => held

/-- A critical section: what holds after the lock, what the body makes of it, and what is
left once the lock is given up. -/
theorem locked_spec {name : Lock} {body : Script α} {R : HandleDisk × γ → Prop}
    {Q Q' : Except IoError α → HandleDisk × γ → Prop}
    (stable : Stable (lane.discipline entry) pid P)
    (entered : ∀ view, view.1.Sound → lane.Inv view → P view → view.1.live pid →
      policy.call pid (.lock name) .pass view.1 → view.1.held name = [] →
      lane.Keeps pid view (view.1.acquire (L := layout) name pid) R)
    (refused : ∀ error view, error.plain = true → lane.Inv view → P view → Q' (.error error) view)
    (inside : Spec (lane.discipline entry) policy pid R body Q)
    (settled : ∀ result, Stable (lane.discipline entry) pid (Q result))
    (left : ∀ result view, view.1.Sound → lane.Inv view → Q result view → view.1.live pid →
      policy.call pid (.unlock name) .pass view.1 →
      AtEdge pid (view.1.held name) ∧
        lane.Keeps pid view (view.1.release (L := layout) name pid) (Q' result)) :
    Spec (lane.discipline entry) policy pid P (locked name body) Q' := by
  refine Spec.bind (Lane.lock (Q := byResult (fun _ => R) fun error => Q' (.error error))
    stable entered refused) (fun _ => ?_) fun _ _ _ held => held
  refine Spec.bind (Spec.attempt (R := byResult Q fun error => Q' (.error error)) inside)
    (fun result => ?_) fun _ _ _ held => held
  exact Spec.bind (Lane.unlock (Q := byResult (fun _ => Q' result) fun _ _ => False)
    (settled result) (left result))
    (fun _ => .ofExcept fun _ _ held => held) fun _ _ _ impossible => impossible.elim

namespace Spectator

variable {margin : Margin}

theorem readFile (known : Spectator lane entry margin pid P) (file : File) :
    Steady (lane.discipline entry) policy pid P (readFile file) :=
  Lane.read known.stable (fun _ _ _ held _ => held) (fun _ _ held _ => held)
    (fun _ _ _ _ held => held)

theorem syncDirectory (known : Spectator lane entry margin pid P) :
    Steady (lane.discipline entry) policy pid P syncDirectory :=
  Lane.sync known.stable (fun _ _ held => held) (fun _ _ _ _ held => held)

theorem replaceFile (known : Spectator lane entry margin pid P) {file : File}
    {content : file.Content} (free : margin.files file) :
    Steady (lane.discipline entry) policy pid P (replaceFile file content) :=
  Lane.replace known.stable
    (fun _ _ inv held _ _ => known.writes (some content) free inv held)
    (fun _ _ _ _ held => held)

theorem removeFile (known : Spectator lane entry margin pid P) {file : File}
    (free : margin.files file) : Steady (lane.discipline entry) policy pid P (removeFile file) :=
  Lane.remove known.stable (fun _ _ _ inv held _ _ _ => known.writes none free inv held)
    (fun _ _ held _ => held) (fun _ _ _ _ held => held)

theorem outsideAsk (known : Spectator lane entry margin pid P) {op : Outside}
    (free : margin.ops op) : Steady (lane.discipline entry) policy pid P (outsideAsk op) :=
  Lane.external known.stable fun _ _ _ _ _ inv held _ _ acted => known.asks free inv held acted

theorem readOptional (known : Spectator lane entry margin pid P) (file : File) :
    Steady (lane.discipline entry) policy pid P (readOptional file) :=
  readOptional_spec known.stable (fun _ _ held => held) (fun _ _ _ held => held)

theorem tryExists (known : Spectator lane entry margin pid P) (file : File) :
    Steady (lane.discipline entry) policy pid P (tryExists file) :=
  .bind (known.readOptional file) fun _ => .pure

theorem readDeliveryMode (known : Spectator lane entry margin pid P) :
    Steady (lane.discipline entry) policy pid P readDeliveryMode :=
  .bind (known.readOptional _) fun _ => .pure

theorem continuationEnabled (known : Spectator lane entry margin pid P) :
    Steady (lane.discipline entry) policy pid P continuationEnabled := by
  refine .bind (.attempt (known.readFile _)) fun answer => ?_
  cases answer <;> exact .pure

theorem activationTransferState (known : Spectator lane entry margin pid P) :
    Steady (lane.discipline entry) policy pid P activationTransferState := by
  refine .bind known.readDeliveryMode fun _ => .bind (.bind (known.readOptional _) fun outcome => ?_)
    fun _ => .pure
  cases outcome with
  | some record => exact .pure
  | none => exact .bind (known.tryExists _) fun _ => .pure

theorem handedOff (known : Spectator lane entry margin pid P) :
    Steady (lane.discipline entry) policy pid P handedOff :=
  .bind (known.readFile _) fun _ => .branch .pure (known.tryExists _)

theorem atomicWrite (known : Spectator lane entry margin pid P) {file : File}
    {content : file.Content} (free : margin.files file) :
    Steady (lane.discipline entry) policy pid P (atomicWrite file content) :=
  .bind (known.replaceFile free) fun _ => known.syncDirectory

theorem writeMetaAtomic (known : Spectator lane entry margin pid P) {record : Meta}
    (free : margin.files .metaJson) :
    Steady (lane.discipline entry) policy pid P (writeMetaAtomic record) := by
  refine .bind (.attempt known.readDeliveryMode) fun mode => ?_
  cases mode <;> exact known.atomicWrite free

theorem removeOptional (known : Spectator lane entry margin pid P) {file : File}
    (free : margin.files file) :
    Steady (lane.discipline entry) policy pid P (removeOptional file) := by
  refine .bind (.attempt (known.removeFile free)) fun answer => ?_
  cases answer with
  | ok content => exact known.syncDirectory
  | error error => exact .branch .pure .throw

theorem beginExternalTransferCustody (known : Spectator lane entry margin pid P)
    (free : margin.files .externalTransferCustody) (boot : margin.ops .currentBootId) :
    Steady (lane.discipline entry) policy pid P beginExternalTransferCustody := by
  refine .bind (known.outsideAsk boot) fun boot => .bind ?_ fun retained => ?_
  · refine .bind (known.tryExists _) fun present => .branch ?_ .pure
    refine .bind (.attempt (known.readFile _)) fun answer => ?_
    cases answer <;> exact .pure
  · exact .branch .pure (.bind (known.atomicWrite free) fun _ => .pure)

theorem endExternalTransferCustody (known : Spectator lane entry margin pid P)
    (free : margin.files .externalTransferCustody) :
    Steady (lane.discipline entry) policy pid P endExternalTransferCustody :=
  .bind known.syncDirectory fun _ => known.removeOptional free

end Spectator

section Owned

variable {owned : Owned layout outside γ} {margin : Margin} {name : Lock}
  {F F' : HandleDisk × γ → Prop}

/-- A margin that never touches an owned resource. -/
structure Blind (owned : Owned layout outside γ) (margin : Margin) : Prop where
  writes : ∀ {file : File} (content : Option file.Content) (view : HandleDisk × γ),
    margin.files file → owned.Same view (view.1.put (L := layout) file content, view.2)
  asks : ∀ {caller : Nat} {op : Outside} {choice : Decision}
    {answer : Except IoError op.Result} {world : World} (view : HandleDisk × γ), margin.ops op →
    op.act caller choice view.1 = some (answer, world) →
    owned.Same view ({ view.1 with world := world }, view.2)

theorem Blind.spectator (blind : Blind owned margin)
    (known : owned.Local entry pid P) : Spectator owned.lane entry margin pid P where
  stable := known.stable
  writes {_} content {view} free inv held :=
    have same := blind.writes content view free
    Owned.keeps_quiet inv rfl same (known.quiet rfl rfl same held)
  asks {_ _ _ _ view} free inv held acted :=
    have same := blind.asks view free acted
    Owned.keeps_quiet inv rfl same (known.quiet rfl rfl same held)

section Activation

variable {fact : owned.Resource → Prop} (mode : owned.Resource → Option DeliveryMode)
  (marker : owned.Resource → Option Unit) (outcome : owned.Resource → Option ActivationRecord)

/-- The activation state that mode file, claim marker and outcome make up. -/
def activationStateOf (mode : Option DeliveryMode) (marker : Option Unit)
    (outcome : Option ActivationRecord) : ActivationTransferState where
  mode := mode.getD .async
  outcome := match outcome with
    | some record => record.outcome
    | none => if marker.isSome then .claimedWithoutOutcome else .unclaimed

/-- The resource shows the three files of an activation. -/
structure ShowsActivation : Prop where
  mode : ∀ view, mode (owned.value view) = view.1.files .deliveryMode
  marker : ∀ view, marker (owned.value view) = view.1.files .activationAttempted
  outcome : ∀ view, outcome (owned.value view) = view.1.files .activationOutcome

/-- What a holder reads of one of its files is what the resource shows. -/
theorem readShown_spec {file : File} {shown : owned.Resource → Option file.Content}
    (shows : ∀ view, shown (owned.value view) = view.1.files file)
    (frame : owned.Frame entry pid F) :
    Spec (owned.discipline entry) policy pid (owned.Holds pid F fact) (readOptional file) fun
      | .ok content => owned.Holds pid F fun value => fact value ∧ shown value = content
      | .error _ => owned.Holds pid F fact :=
  readOptional_spec (Owned.Holds.local_ frame).stable
    (fun view _ holds => ⟨holds.1, holds.2.1, holds.2.2, shows view⟩) fun _ _ _ holds => holds

/-- The activation state that a holder reads is the state of the resource. -/
def activationRead (fact : owned.Resource → Prop) :
    Except IoError ActivationTransferState → owned.Resource → Prop
  | .ok state => fun value =>
      fact value ∧ activationStateOf (mode value) (marker value) (outcome value) = state
  | .error _ => fact

theorem activationTransferState_reads
    (shows : ShowsActivation mode marker outcome) (frame : owned.Frame entry pid F) :
    Spec (owned.discipline entry) policy pid (owned.Holds pid F fact) activationTransferState
      fun result => owned.Holds pid F (activationRead mode marker outcome fact result) := by
  refine Spec.bind (Q := byResult
    (fun read => owned.Holds pid F fun value => fact value ∧ (mode value).getD .async = read)
    fun _ => owned.Holds pid F fact) ?_ (fun read => ?_) fun _ _ _ holds => holds
  · refine Spec.bind (readShown_spec shows.mode frame) (fun _ => .pure fun _ _ holds => ?_)
      fun _ _ _ holds => holds
    exact holds.imp fun value known => ⟨known.1, congrArg (·.getD .async) known.2⟩
  refine Spec.bind (Q := byResult
    (fun settled => owned.Holds pid F fun value =>
      fact value ∧ activationStateOf (mode value) (marker value) (outcome value) = ⟨read, settled⟩)
    fun _ => owned.Holds pid F fact) ?_ (fun _ => .pure fun _ _ holds => holds)
    fun _ _ _ holds => holds
  refine Spec.bind (readShown_spec shows.outcome frame) (fun recorded => ?_)
    fun _ _ _ holds => holds.imp fun _ known => known.1
  cases recorded with
  | some record =>
      refine .pure fun _ _ holds => holds.imp fun value known => ⟨known.1.1, ?_⟩
      simp only [activationStateOf, known.2, known.1.2]
  | none =>
      refine Spec.bind (Q := byResult
        (fun claimed => owned.Holds pid F fun value =>
          ((fact value ∧ (mode value).getD .async = read) ∧ outcome value = none) ∧
            (marker value).isSome = claimed)
        fun _ => owned.Holds pid F fact) ?_ (fun claimed => .pure fun _ _ holds => ?_)
        fun _ _ _ holds => holds
      · refine Spec.bind (readShown_spec shows.marker frame) (fun _ => .pure fun _ _ holds => ?_)
          fun _ _ _ holds => holds.imp fun _ known => known.1.1
        exact holds.imp fun value known => ⟨known.1, congrArg Option.isSome known.2⟩
      · refine holds.imp fun value known => ⟨known.1.1.1, ?_⟩
        simp only [activationStateOf, known.1.2, known.1.1.2, known.2]

end Activation

theorem lockedAside_spec {body : Script α} {P' : HandleDisk × γ → Prop}
    {Q Q' : Except IoError α → HandleDisk × γ → Prop} (own : owned.name ≠ name)
    (passage : owned.Passage entry pid name P P')
    (each : ∀ result, owned.Passage entry pid name (Q result) (Q' result))
    (refused : ∀ error view, P view → Q (.error error) view)
    (inside : Spec (owned.discipline entry) policy pid P' body Q') :
    Spec (owned.discipline entry) policy pid P (locked name body) Q :=
  locked_spec passage.outer
    (fun _ _ inv holds _ _ _ => Owned.passage_enter_keeps passage own inv holds)
    (fun error view _ _ holds => refused error view holds) inside
    (fun result => (each result).inner)
    fun result _ sound inv holds _ _ => Owned.passage_leave_keeps (each result) own sound inv holds

theorem lockedElsewhere_spec {body : Script α} {fact : owned.Resource → Prop}
    {Q : Except IoError α → owned.Resource → Prop} (within : owned.Section entry pid name F F')
    (own : owned.name ≠ name) (refused : ∀ error value, fact value → Q (.error error) value)
    (inside : Spec (owned.discipline entry) policy pid (owned.Holds pid F' fact) body
      fun result => owned.Holds pid F' (Q result)) :
    Spec (owned.discipline entry) policy pid (owned.Holds pid F fact) (locked name body)
      fun result => owned.Holds pid F (Q result) :=
  lockedAside_spec own (within.holds own) (fun _ => within.holds own)
    (fun error _ holds => holds.imp (refused error)) inside

theorem lockedOwn_spec {body : Script α} (own : name = owned.name)
    (inside : Steady (owned.discipline entry) policy pid (owned.Stays pid (owned.Bottom pid)) body) :
    Steady (owned.discipline entry) policy pid (owned.Free pid) (locked name body) := by
  subst own
  refine Spec.bind Owned.lock_spec (fun _ => ?_) fun _ _ _ free => free
  refine Spec.handle (inside.strengthen fun _ _ holds => holds.stays) fun result => ?_
  exact Spec.bind (Owned.unlock_spec fun _ holds => holds.2.1)
    (fun _ => .ofExcept fun _ _ free => free) fun _ _ _ free => free

section Updates

variable {fact D : owned.Resource → Prop} {file : File}

/-- A request that turns `file` into `content` may be made by a holder that knows `fact`, and
leads to `D`. -/
def Update (owned : Owned layout outside γ) (policy : System.Policy (system layout outside entry))
    (pid : Nat) (op : Request layout outside) (file : File) (content : Option file.Content)
    (fact D : owned.Resource → Prop) : Prop :=
  ∀ view : HandleDisk × γ, policy.call pid op .pass view.1 → owned.Valid false (owned.value view) →
    fact (owned.value view) →
    owned.Moves pid (owned.value view)
        (owned.value (view.1.put (L := layout) file content, view.2)) ∧
      owned.notes (view.1.put (L := layout) file content, view.2) = owned.notes view ∧
      owned.Valid false (owned.value (view.1.put (L := layout) file content, view.2)) ∧
      owned.growth.Keeps pid (owned.value view)
        (owned.value (view.1.put (L := layout) file content, view.2)) ∧
      D (owned.value (view.1.put (L := layout) file content, view.2))

theorem Update.keeps {op : Request layout outside} {content : Option file.Content}
    (update : Update owned policy pid op file content fact D)
    (frame : owned.Frame entry pid F) {view : HandleDisk × γ} (inv : owned.Inv view)
    (holds : owned.Holds pid F fact view) (permitted : policy.call pid op .pass view.1) :
    owned.lane.Keeps pid view (view.1.put (L := layout) file content)
      (owned.Holds pid F D) := by
  obtain ⟨moves, notes, valid, keeps, known⟩ := update view permitted (holds.valid inv) holds.2.2
  have moved : owned.Moved pid view (view.1.put (L := layout) file content, view.2) :=
    ⟨holds.1, moves, notes⟩
  exact Owned.keeps_moved inv rfl moved valid
    ⟨holds.1, frame.same rfl rfl (moved.passed keeps) holds.2.1, known⟩

/-- What an update leads to when the directory sync after it may still fail. -/
def updated {ρ : Type} (fact D : ρ → Prop) : Except IoError α → ρ → Prop
  | .ok _ => D
  | .error _ => fun value => fact value ∨ D value

theorem replaceFile_spec {content : file.Content} (frame : owned.Frame entry pid F)
    (update : Update owned policy pid (.replace file content) file (some content) fact D) :
    Spec (owned.discipline entry) policy pid (owned.Holds pid F fact) (replaceFile file content)
      fun
        | .ok _ => owned.Holds pid F D
        | .error _ => owned.Holds pid F fact :=
  Lane.replace (Owned.Holds.local_ frame).stable
    (fun _ _ inv holds _ permitted => update.keeps frame inv holds permitted)
    fun _ _ _ _ holds => holds

theorem syncUpdate_spec (blind : Blind owned margin) (frame : owned.Frame entry pid F) :
    Spec (owned.discipline entry) policy pid (owned.Holds pid F D) syncDirectory
      fun result => owned.Holds pid F (updated fact D result) :=
  (blind.spectator (Owned.Holds.local_ frame)).syncDirectory.relax fun result _ _ holds =>
    match result with
    | .ok _ => holds
    | .error _ => holds.imp fun _ known => .inr known

theorem atomicWrite_spec {content : file.Content} (blind : Blind owned margin)
    (frame : owned.Frame entry pid F)
    (update : Update owned policy pid (.replace file content) file (some content) fact D) :
    Spec (owned.discipline entry) policy pid (owned.Holds pid F fact) (atomicWrite file content)
      fun result => owned.Holds pid F (updated fact D result) :=
  Spec.bind (replaceFile_spec frame update) (fun _ => syncUpdate_spec blind frame)
    fun _ _ _ holds => holds.imp fun _ known => .inl known

/-- A removal leads where an update does; it is an answer that the file was absent before. -/
theorem removeOptional_spec (blind : Blind owned margin) (frame : owned.Frame entry pid F)
    (update : Update owned policy pid (.remove file) file none fact D)
    (absent : ∀ view : HandleDisk × γ, view.1.files file = none → fact (owned.value view) →
      D (owned.value view)) :
    Spec (owned.discipline entry) policy pid (owned.Holds pid F fact) (removeOptional file)
      fun result => owned.Holds pid F (updated fact D result) := by
  refine Spec.handle (Q := byResult (fun _ => owned.Holds pid F D)
    fun error => owned.Holds pid F fun value =>
      fact value ∧ (error.kind = .notFound → D value)) ?_ fun answer => ?_
  · refine Lane.remove (Owned.Holds.local_ frame).stable
      (fun _ _ _ inv holds _ permitted _ => update.keeps frame inv holds permitted) ?_ ?_
    · intro view _ holds missing
      exact ⟨holds.1, holds.2.1, holds.2.2, fun _ => absent view missing holds.2.2⟩
    · intro error view plain _ holds
      refine holds.imp fun _ known => ⟨known, fun same => ?_⟩
      simp [IoError.plain, same] at plain
  · cases answer with
    | ok _ => exact syncUpdate_spec blind frame
    | error error =>
        refine .branch (fun missing => ?_) fun _ => ?_
        · exact .pure fun _ _ holds => holds.imp fun _ known => known.2 missing
        · exact .throw fun _ _ holds => holds.imp fun _ known => .inl known.1

/-- A create-once marker: `absent` is known where the marker can be created, `created` once it
is published, `present` where somebody else published it, and `settled` after any failure. -/
theorem recordDurableCreateOnceMarker_spec {content : file.Content}
    (fact : owned.Resource → Prop) {absent created : owned.Resource → Prop}
    (present settled : owned.Resource → Prop) (blind : Blind owned margin)
    (frame : owned.Frame entry pid F)
    (missing : ∀ view : HandleDisk × γ, view.1.files file = none → fact (owned.value view) →
      absent (owned.value view))
    (found : ∀ view : HandleDisk × γ, view.1.files file ≠ none → fact (owned.value view) →
      present (owned.value view))
    (creates : Update owned policy pid (.create file content) file (some content) absent created)
    (removes : Update owned policy pid (.remove file) file none created settled)
    (before : ∀ value, fact value → settled value)
    (after : ∀ value, created value → settled value) :
    Spec (owned.discipline entry) policy pid (owned.Holds pid F fact)
      (recordDurableCreateOnceMarker file content) fun
        | .ok true => owned.Holds pid F created
        | .ok false => owned.Holds pid F present
        | .error _ => owned.Holds pid F settled := by
  have known {fact : owned.Resource → Prop} :
      Spectator owned.lane entry margin pid (owned.Holds pid F fact) :=
    blind.spectator (Owned.Holds.local_ frame)
  refine Steady.before known.syncDirectory (fun _ => ?_) fun _ _ _ holds => holds.imp before
  refine Spec.handle (Q := byResult (fun _ => owned.Holds pid F created)
    fun error => owned.Holds pid F fun value =>
      fact value ∧ (error.kind = .alreadyExists → present value)) ?_ fun answer => ?_
  · refine Lane.create (Owned.Holds.local_ frame).stable ?_ ?_ ?_
    · intro view _ inv holds _ permitted free
      exact creates.keeps frame inv ⟨holds.1, holds.2.1, missing view free holds.2.2⟩ permitted
    · intro view stored _ holds there
      have taken : view.1.files file ≠ none := by
        rw [there]
        exact Option.some_ne_none stored
      exact ⟨holds.1, holds.2.1, holds.2.2, fun _ => found view taken holds.2.2⟩
    · intro error view plain _ holds
      refine holds.imp fun _ known => ⟨known, fun same => ?_⟩
      simp [IoError.plain, same] at plain
  cases answer with
  | error error =>
      refine .branch (fun exists_ => ?_) fun _ => ?_
      · exact .pure fun _ _ holds => holds.imp fun _ known => known.2 exists_
      · exact .throw fun _ _ holds => holds.imp fun _ known => before _ known.1
  | ok _ =>
      refine Spec.handle (Steady.bind known.syncDirectory fun _ => known.syncDirectory)
        fun published => ?_
      cases published with
      | ok _ => exact .pure fun _ _ holds => holds
      | error publication =>
          refine Spec.handle (removeOptional_spec blind frame removes fun _ _ known =>
            after _ known) fun rolledBack => ?_
          cases rolledBack with
          | ok _ => exact .throw fun _ _ holds => holds
          | error _ => exact .throw fun _ _ holds => holds.imp fun _ known => known.elim (after _) id

end Updates

end Owned

end AgentBash
