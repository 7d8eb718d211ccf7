import AgentBash.Durable.Owned

/-!
# Publishing files of a directory

Scripts over any directory: a critical section, a replacement that is synced, and a file that is
published once and compared afterwards. A `Bystander` is an assertion that a process keeps while it
stays within what a lane leaves free.
-/

namespace AgentBash.Durable

set_option autoImplicit false

variable {L : Layout} {E : Surroundings L} {γ α : Type}

namespace Io

def read (file : L.File) : Io (requests L E) (L.Content file) := ask (.read file)

def tryLock (name : L.Lock) : Io (requests L E) Bool := ask (.tryLock name)

/-- A lock guard leaves its scope whatever the body answers. -/
def locked (name : L.Lock) (body : Io (requests L E) α) : Io (requests L E) α := do
  ask (.lock name)
  let result ← body.attempt
  ask (.unlock name)
  ofExcept result

/-- The body runs where the lock is free; where it is held there is an answer of its own. -/
def tryLocked (name : L.Lock) (busy body : Io (requests L E) α) : Io (requests L E) α := do
  if ← tryLock name then do
    let result ← body.attempt
    ask (.unlock name)
    ofExcept result
  else busy

/-- `NotFound` is an answer; every other error is handed on. -/
def readOptional (file : L.File) : Io (requests L E) (Option (L.Content file)) := do
  match ← (read file).attempt with
  | .ok content => pure (some content)
  | .error error => if error.kind = .notFound then pure none else throw error

def tryExists (file : L.File) : Io (requests L E) Bool := do
  return (← readOptional file).isSome

/-- A rename followed by a directory sync may report an error after it took effect. -/
def atomicWrite (file : L.File) (content : L.Content file) : Io (requests L E) Unit := do
  ask (.replace file content)
  ask .sync

/-- Publishes a file once. Whoever finds it there compares it with its own. -/
def immutable (file : L.File) [DecidableEq (L.Content file)] (conflict : IoError)
    (content : L.Content file) : Io (requests L E) Unit := do
  if ← tryExists file then do
    let standing ← read file
    if standing = content then pure () else throw conflict
  else do
    match ← (ask (.create file content)).attempt with
    | .ok _ => ask .sync
    | .error error =>
        if error.kind = .alreadyExists then do
          let standing ← read file
          if standing = content then ask .sync else throw error
        else throw error

end Io

variable {lane : Lane L E γ} {owned : Owned L E γ} {Entry : Type}
  {entry : Entry → Program (requests L E)} {policy : System.Policy (system L E entry)} {pid : Nat}
  {P P' : Disk L E.World × γ → Prop} {files : L.File → Prop} {ops : E.Op → Prop}

section Answers

/-- An absent file is an answer, any other error is handed on. -/
def readAnswer {file : L.File}
    (Q : Except IoError (Option (L.Content file)) → Disk L E.World × γ → Prop) :
    Except IoError (L.Content file) → Disk L E.World × γ → Prop
  | .ok content => Q (.ok (some content))
  | .error error => if error.kind = .notFound then Q (.ok none) else Q (.error error)

/-- What an optional read tells: the content, its absence, or nothing. -/
theorem readOptional_rule {file : L.File}
    {Q : Except IoError (Option (L.Content file)) → Disk L E.World × γ → Prop}
    (stable : Stable (lane.discipline entry) pid P)
    (found : ∀ view, lane.Inv view → P view → Q (.ok (view.1.files file)) view)
    (failed : ∀ error view, lane.Inv view → P view → Q (.error error) view) :
    Spec (lane.discipline entry) policy pid P (Io.readOptional file) Q := by
  refine Spec.handle (Q := readAnswer Q) (Lane.read stable ?_ ?_ ?_) fun answer => ?_
  · intro view content inv held present
    have answer := found view inv held
    rw [present] at answer
    exact answer
  · intro view inv held absent
    have answer := found view inv held
    rw [absent] at answer
    exact answer
  · intro error view plain inv held
    have other : error.kind ≠ .notFound := by
      intro same
      simp [IoError.plain, same] at plain
    rw [readAnswer, if_neg other]
    exact failed error view inv held
  · cases answer with
    | ok content => exact .pure fun _ _ held => held
    | error error =>
        apply Spec.branch
        · intro missing
          exact .pure fun _ _ held => by rwa [readAnswer, if_pos missing] at held
        · intro other
          exact .throw fun _ _ held => by rwa [readAnswer, if_neg other] at held

theorem tryExists_rule {file : L.File} {Q : Except IoError Bool → Disk L E.World × γ → Prop}
    (stable : Stable (lane.discipline entry) pid P)
    (found : ∀ view, lane.Inv view → P view → Q (.ok (view.1.files file).isSome) view)
    (failed : ∀ error view, lane.Inv view → P view → Q (.error error) view) :
    Spec (lane.discipline entry) policy pid P (Io.tryExists file) Q := by
  apply Spec.bind (Q := byResult (fun content => Q (.ok content.isSome)) fun error => Q (.error error))
  · exact readOptional_rule stable found failed
  · exact fun _ => .pure fun _ _ held => held
  · exact fun _ _ _ held => held

/-- A file that is published once: what is known where it stands already with that content, and
what its creation leads to. The sync after it may fail in either case. -/
theorem immutable_rule {file : L.File} [DecidableEq (L.Content file)] {conflict : IoError}
    {content : L.Content file} {Q : Except IoError Unit → Disk L E.World × γ → Prop}
    (stable : Stable (lane.discipline entry) pid P)
    (published : Stable (lane.discipline entry) pid (Q (.ok ())))
    (creates : ∀ view, lane.Inv view → P view → view.1.files file = none →
      lane.Keeps pid view (view.1.write file content) (Q (.ok ())))
    (stands : ∀ view, lane.Inv view → P view → view.1.files file = some content → Q (.ok ()) view)
    (unsynced : ∀ error view, lane.Inv view → Q (.ok ()) view → Q (.error error) view)
    (failed : ∀ error view, lane.Inv view → P view → Q (.error error) view) :
    Spec (lane.discipline entry) policy pid P (Io.immutable file conflict content) Q := by
  have compares : Spec (lane.discipline entry) policy pid P (Io.read file) (byResult
      (fun standing view => P view ∧ (standing = content → Q (.ok ()) view))
      fun error => Q (.error error)) := by
    apply Lane.read stable
    · intro view standing inv held there
      exact ⟨held, fun same => stands view inv held (same ▸ there)⟩
    · exact fun view inv held _ => failed _ view inv held
    · exact fun error view _ inv held => failed error view inv held
  have syncs : Spec (lane.discipline entry) policy pid (Q (.ok ())) (Io.ask .sync) Q :=
    Lane.sync published (fun _ _ held => held) fun error view _ inv held =>
      unsynced error view inv held
  apply Spec.bind (Q := byResult (fun _ => P) fun error => Q (.error error))
  · exact tryExists_rule stable (fun _ _ held => held) fun error view inv held =>
      failed error view inv held
  · intro there
    apply Spec.branch
    · intro _
      apply Spec.bind compares
      · intro standing
        apply Spec.branch
        · intro same
          exact .pure fun view _ held => held.2 same
        · intro _
          exact .throw fun view inv held => failed _ view inv.2 held.1
      · exact fun _ _ _ held => held
    · intro _
      apply Spec.handle (Q := byResult (fun _ => Q (.ok ())) fun _ => P)
      · exact Lane.create stable (fun view _ inv held _ _ absent => creates view inv held absent)
          (fun _ _ _ held _ => held) fun _ _ _ _ held => held
      · intro answer
        cases answer with
        | ok _ => exact syncs
        | error error =>
            apply Spec.branch
            · intro _
              apply Spec.bind compares
              · intro standing
                apply Spec.branch
                · intro same
                  exact syncs.strengthen fun view _ held => held.2 same
                · intro _
                  exact .throw fun view inv held => failed _ view inv.2 held.1
              · exact fun _ _ _ held => held
            · intro _
              exact .throw fun view inv held => failed _ view inv.2 held
  · exact fun _ _ _ held => held

end Answers

/-- An assertion that survives whatever a process does to the files and asks of the outside that a
lane leaves free. -/
structure Bystander (lane : Lane L E γ) (entry : Entry → Program (requests L E))
    (files : L.File → Prop) (ops : E.Op → Prop) (pid : Nat) (P : Disk L E.World × γ → Prop) :
    Prop where
  stable : Stable (lane.discipline entry) pid P
  writes : ∀ {file : L.File} (content : Option (L.Content file)) {view : Disk L E.World × γ},
    files file → lane.Inv view → P view → lane.Keeps pid view (view.1.put file content) P
  asks : ∀ {op : E.Op} {choice : E.Choice} {answer : Except IoError (E.Result op)}
    {world : E.World} {view : Disk L E.World × γ}, ops op → lane.Inv view → P view →
    E.act pid op choice view.1 = some (answer, world) →
    lane.Keeps pid view { view.1 with world := world } P

namespace Bystander

theorem read (known : Bystander lane entry files ops pid P) (file : L.File) :
    Steady (lane.discipline entry) policy pid P (Io.read file) :=
  Lane.read known.stable (fun _ _ _ held _ => held) (fun _ _ held _ => held)
    fun _ _ _ _ held => held

theorem sync (known : Bystander lane entry files ops pid P) :
    Steady (lane.discipline entry) policy pid P (Io.ask .sync) :=
  Lane.sync known.stable (fun _ _ held => held) fun _ _ _ _ held => held

theorem replace (known : Bystander lane entry files ops pid P) {file : L.File}
    {content : L.Content file} (free : files file) :
    Steady (lane.discipline entry) policy pid P (Io.ask (.replace file content)) :=
  Lane.replace known.stable
    (fun _ _ inv held _ _ => known.writes (some content) free inv held) fun _ _ _ _ held => held

theorem create (known : Bystander lane entry files ops pid P) {file : L.File}
    {content : L.Content file} (free : files file) :
    Steady (lane.discipline entry) policy pid P (Io.ask (.create file content)) :=
  Lane.create known.stable
    (fun _ _ inv held _ _ _ => known.writes (some content) free inv held)
    (fun _ _ _ held _ => held) fun _ _ _ _ held => held

theorem external (known : Bystander lane entry files ops pid P) {op : E.Op} (free : ops op) :
    Steady (lane.discipline entry) policy pid P (Io.ask (.external op)) :=
  Lane.external known.stable fun _ _ _ _ _ inv held _ _ acted => known.asks free inv held acted

theorem tryExists (known : Bystander lane entry files ops pid P) (file : L.File) :
    Steady (lane.discipline entry) policy pid P (Io.tryExists file) :=
  tryExists_rule known.stable (fun _ _ held => held) fun _ _ _ held => held

theorem atomicWrite (known : Bystander lane entry files ops pid P) {file : L.File}
    {content : L.Content file} (free : files file) :
    Steady (lane.discipline entry) policy pid P (Io.atomicWrite file content) :=
  .bind (known.replace free) fun _ => known.sync

theorem immutable (known : Bystander lane entry files ops pid P) {file : L.File}
    [DecidableEq (L.Content file)] {conflict : IoError} {content : L.Content file}
    (free : files file) :
    Steady (lane.discipline entry) policy pid P (Io.immutable file conflict content) :=
  immutable_rule known.stable known.stable
    (fun _ inv held _ => known.writes (some content) free inv held) (fun _ _ held _ => held)
    (fun _ _ _ held => held) fun _ _ _ held => held

end Bystander

section Sections

variable {name : L.Lock} {body : Io (requests L E) α}

theorem lockedAside_rule {Q Q' : Except IoError α → Disk L E.World × γ → Prop}
    (own : owned.name ≠ name) (passage : owned.Passage entry pid name P P')
    (each : ∀ result, owned.Passage entry pid name (Q result) (Q' result))
    (refused : ∀ error view, P view → Q (.error error) view)
    (inside : Spec (owned.discipline entry) policy pid P' body Q') :
    Spec (owned.discipline entry) policy pid P (Io.locked name body) Q := by
  apply Spec.bind (Q := byResult (fun _ => P') fun error => Q (.error error))
  · exact Lane.lock passage.outer
      (fun _ _ inv holds _ _ _ => Owned.passage_enter_keeps passage own inv holds)
      fun error view _ _ holds => refused error view holds
  · intro _
    apply Spec.handle inside
    intro result
    apply Spec.bind (Q := byResult (fun _ => Q result) fun _ _ => False)
    · exact Lane.unlock (each result).inner fun _ sound inv holds _ _ =>
        Owned.passage_leave_keeps (each result) own sound inv holds
    · exact fun _ => .ofExcept fun _ _ holds => holds
    · exact fun _ _ _ impossible => impossible.elim
  · exact fun _ _ _ holds => holds

/-- A critical section under another lock that is entered only where that lock is free. -/
theorem tryLockedAside_rule {busy : Io (requests L E) α}
    {Q Q' : Except IoError α → Disk L E.World × γ → Prop} (own : owned.name ≠ name)
    (passage : owned.Passage entry pid name P P')
    (each : ∀ result, owned.Passage entry pid name (Q result) (Q' result))
    (refused : ∀ error view, P view → Q (.error error) view)
    (elsewhere : Spec (owned.discipline entry) policy pid P busy Q)
    (inside : Spec (owned.discipline entry) policy pid P' body Q') :
    Spec (owned.discipline entry) policy pid P (Io.tryLocked name busy body) Q := by
  apply Spec.bind (Q := byResult (fun taken => if taken = true then P' else P) fun error => Q (.error error))
  · exact Lane.tryLock passage.outer
      (fun _ _ inv holds _ _ _ => Owned.passage_enter_keeps passage own inv holds)
      (fun _ _ holds => holds) fun error view _ _ holds => refused error view holds
  · intro taken
    cases taken with
    | false => exact elsewhere
    | true =>
        apply Spec.handle inside
        intro result
        apply Spec.bind (Q := byResult (fun _ => Q result) fun _ _ => False)
        · exact Lane.unlock (each result).inner fun _ sound inv holds _ _ =>
            Owned.passage_leave_keeps (each result) own sound inv holds
        · exact fun _ => .ofExcept fun _ _ holds => holds
        · exact fun _ _ _ impossible => impossible.elim
  · exact fun _ _ _ holds => holds

/-- A critical section under the owning lock: what is known beside it may be more afterwards. -/
theorem lockedOwn_rule {G : Disk L E.World × γ → Prop}
    {G' : Except IoError α → Disk L E.World × γ → Prop} (beside : owned.Beside entry pid G)
    (after : ∀ result, owned.Beside entry pid (G' result))
    (refused : ∀ error view, G view → G' (.error error) view)
    (unlocked : ∀ result error view, G' result view → G' (.error error) view)
    (inside : Spec (owned.discipline entry) policy pid (owned.Stays pid (owned.Base pid G)) body
      fun result => owned.Base pid (G' result)) :
    Spec (owned.discipline entry) policy pid (owned.Apart pid G) (Io.locked owned.name body)
      fun result => owned.Apart pid (G' result) := by
  apply Spec.bind (Q := byResult (fun _ => owned.Stays pid (owned.Base pid G))
    fun error => owned.Apart pid (G' (.error error)))
  · apply Spec.relax (Owned.enter_spec beside)
    intro answer view _ holds
    cases answer with
    | ok _ => exact holds.stays
    | error error => exact ⟨holds.1, refused error view holds.2⟩
  · intro _
    apply Spec.handle inside
    intro result
    apply Spec.bind (Q := fun _ => owned.Apart pid (G' result))
    · exact Owned.leave_spec (after result) fun _ holds => holds
    · exact fun _ => .ofExcept fun _ _ holds => holds
    · exact fun error view _ holds => ⟨holds.1, unlocked result error view holds.2⟩
  · exact fun _ _ _ holds => holds

/-- A critical section under the owning lock that is entered only where it is free. -/
theorem tryLockedOwn_rule {busy : Io (requests L E) α} {G : Disk L E.World × γ → Prop}
    {G' : Except IoError α → Disk L E.World × γ → Prop} (beside : owned.Beside entry pid G)
    (after : ∀ result, owned.Beside entry pid (G' result))
    (refused : ∀ error view, G view → G' (.error error) view)
    (unlocked : ∀ result error view, G' result view → G' (.error error) view)
    (elsewhere : Spec (owned.discipline entry) policy pid (owned.Apart pid G) busy
      fun result => owned.Apart pid (G' result))
    (inside : Spec (owned.discipline entry) policy pid (owned.Stays pid (owned.Base pid G)) body
      fun result => owned.Base pid (G' result)) :
    Spec (owned.discipline entry) policy pid (owned.Apart pid G)
      (Io.tryLocked owned.name busy body) fun result => owned.Apart pid (G' result) := by
  apply Spec.bind (Q := byResult
    (fun taken => if taken = true then owned.Stays pid (owned.Base pid G) else owned.Apart pid G)
    fun error => owned.Apart pid (G' (.error error)))
  · apply Spec.relax (Owned.tryEnter_spec beside)
    intro answer view _ holds
    cases answer with
    | ok taken =>
        cases taken with
        | false => exact holds
        | true => exact holds.stays
    | error error => exact ⟨holds.1, refused error view holds.2⟩
  · intro taken
    cases taken with
    | false => exact elsewhere
    | true =>
        apply Spec.handle inside
        intro result
        apply Spec.bind (Q := fun _ => owned.Apart pid (G' result))
        · exact Owned.leave_spec (after result) fun _ holds => holds
        · exact fun _ => .ofExcept fun _ _ holds => holds
        · exact fun error view _ holds => ⟨holds.1, unlocked result error view holds.2⟩
  · exact fun _ _ _ holds => holds

end Sections

section Additions

theorem keeps_noted {view : Owned.View L E γ} {after : Disk L E.World}
    {M : Owned.View L E γ → Prop} (inv : owned.Inv view) (held : after.held = view.1.held)
    (noted : owned.Noted view (after, view.2)) (result : M (after, view.2)) :
    owned.lane.Keeps pid view after M := by
  refine ⟨view.2, ⟨?_, ?_, ?_, ?_⟩, .noted noted, result⟩
  · simp only [held]
    exact inv.others
  · simp only [held]
    exact inv.depth
  · simp only [held, noted.value]
    exact inv.valid
  · rw [noted.value]
    exact owned.growth.added inv.backed noted.adds

/-- Files and outside requests that an owned resource and its log know nothing of. -/
structure Unconcerned (owned : Owned L E γ) (files : L.File → Prop) (ops : E.Op → Prop) : Prop where
  writes : ∀ {file : L.File} (content : Option (L.Content file)) (view : Disk L E.World × γ),
    files file → owned.Same view (view.1.put file content, view.2)
  asks : ∀ {caller : Nat} {op : E.Op} {choice : E.Choice} {answer : Except IoError (E.Result op)}
    {world : E.World} (view : Disk L E.World × γ), ops op →
    E.act caller op choice view.1 = some (answer, world) →
    owned.Same view ({ view.1 with world := world }, view.2)

theorem Unconcerned.bystander (unconcerned : Unconcerned owned files ops)
    (known : owned.Local entry pid P) : Bystander owned.lane entry files ops pid P where
  stable := known.stable
  writes {_} content {view} free inv held :=
    have same := unconcerned.writes content view free
    Owned.keeps_quiet inv rfl same (known.quiet rfl rfl same held)
  asks {_ _ _ _ view} free inv held acted :=
    have same := unconcerned.asks view free acted
    Owned.keeps_quiet inv rfl same (known.quiet rfl rfl same held)

end Additions

section Runs

variable {start final : Config (requests L E) (Disk L E.World)} {ghost : γ}

theorem run_grows (closed : (owned.discipline entry).Closed policy)
    (good : (owned.discipline entry).Good policy start ghost)
    (run : System.Run policy start final) :
    ∃ later, (owned.discipline entry).Good policy final later ∧
      owned.Grown (start.state, ghost) (final.state, later) := by
  apply Discipline.run_keeps closed _ good (.refl _) run
  intro event before after _ _ moves grown
  obtain ⟨pid, promise⟩ := Owned.promise_of_moves moves
  exact grown.trans promise.grown

end Runs

end AgentBash.Durable
