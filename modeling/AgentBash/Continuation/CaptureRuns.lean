import AgentBash.Continuation.CaptureRecovery

/-!
# Runs over a source directory

Live captures, recoveries and publications in any number, interleaved request by request, each of
them failed or killed anywhere. The output and the proof of its loss exclude each other, a
published output is the selected bytes, and no step of a process loses the last whole copy.
-/

namespace AgentBash

set_option autoImplicit false

open Durable SourceStorage

namespace Continuation

variable [Unbroken] {original : Bytes} {pid : Nat} {policy : System.Policy sourceSystem}
  {s after : SourceStorage} {name : SourceName} {view : View}

section Outside

/-- What the outside does: it appends to the log and makes and unmakes names of its own. -/
structure Drifts (original : Bytes) (before after : SourceStorage) : Prop where
  sane : Sane original after
  mine : ∀ pid, Mine pid before after
  drawn : ∀ {document owner serial}, after.find (.temp document owner serial) =
    before.find (.temp document owner serial)
  settled : SourceStorage.Settled before → SourceStorage.Settled after

omit [Unbroken] in
theorem outsideName_kinds (outside : outsideName name = true) :
    isMade name = false ∧ isLeased name = false := by
  cases name with
  | selectedLog => exact ⟨rfl, rfl⟩
  | other => exact ⟨rfl, rfl⟩
  | _ => cases outside

omit [Unbroken] in
theorem made_other {made : SourceName} (outside : outsideName name = true)
    (own : isMade made = true) : made ≠ name := by
  rintro rfl
  rw [(outsideName_kinds outside).1] at own
  cases own

/-- The holder of the lease may rely on an anchored log. -/
theorem change_drifts {what : SourceChange} (sane : Sane original s)
    (changed : SourceStorage.change what s = some after) :
    Drifts original s after ∧
      ((Unbroken.anchored → ∀ name inode, what = .vanish name → s.find name = some inode →
        s.selection.inode ≠ some inode) → Around s after) := by
  cases what with
  | append more =>
      simp only [SourceStorage.change] at changed
      split at changed
      · next inode chosen =>
        cases changed
        have around : Around s (s.extend inode more) := ⟨.append chosen more, rfl⟩
        exact ⟨⟨sane.append chosen more, fun _ => .write, rfl, lasting_settled sane around⟩,
          fun _ => around⟩
      · cases changed
  | appear name node =>
      simp only [SourceStorage.change, Bool.and_eq_true, Option.isNone_iff_eq_none] at changed
      split at changed
      · next fits =>
        cases changed
        obtain ⟨unmade, unleased⟩ := outsideName_kinds fits.1
        have apart {made : SourceName} (own : isMade made = true) : made ≠ name :=
          made_other fits.1 own
        have around : Around s (s.create name node) :=
          ⟨.create sane unleased fits.2, find_link_other (apart rfl)⟩
        refine ⟨⟨?_, fun _ => ?_, find_link_other (apart rfl), lasting_settled sane around⟩,
          fun _ => around⟩
        · refine sane.create (fun own => ?_) (apart rfl).symm (apart rfl).symm fun _ => (apart rfl).symm
          rw [unmade] at own
          cases own
        · exact .create sane fun _ _ => (apart rfl).symm
      · cases changed
  | vanish name =>
      simp only [SourceStorage.change] at changed
      split at changed
      · next outside =>
        cases changed
        have apart {made : SourceName} (own : isMade made = true) : made ≠ name :=
          made_other outside own
        refine ⟨⟨sane.unlink, fun _ => .unlink fun _ _ => (apart rfl).symm,
          find_unlink_other (apart rfl), fun settled => settled.unlink (apart rfl).symm⟩, ?_⟩
        intro other
        exact ⟨.unlink (outsideName_kinds outside).2 fun fixed inode => other fixed name inode rfl,
          find_unlink_other (apart rfl)⟩
      · cases changed

end Outside

section Closing

/-- A process that ends outside a publication leaves the invariant to the others. -/
theorem finish_keeps (inv : Inv original view.1)
    (window : Unbroken.required → view.1.Newest pid SourceLock.sourceCapture → ¬ Window view.1.world)
    (tidy : Unbroken.required → Tidy pid view.1.world) (status : Option Nat) :
    (lane original).Keeps pid view (view.1.finish pid status) fun _ => True := by
  refine ⟨(), ⟨inv.sane, ?_, inv.drawn, ?_, ?_⟩, ⟨fun _ _ => .refl _ _, .inr (.refl _), fun _ => id⟩, trivial⟩
  · exact List.length_erase_le.trans inv.alone
  · intro required
    refine (inv.settled required).imp_right fun open_ => ⟨fun emptied => ?_, open_.2⟩
    -- the one holder was the process that ends
    obtain ⟨held, window'⟩ := open_
    obtain ⟨holder, rest, shape⟩ := List.exists_cons_of_ne_nil held
    have short := inv.alone
    rw [shape, List.length_cons] at short
    have none : rest = [] := List.length_eq_zero_iff.mp (by omega)
    have same : holder = pid := by
      by_contra different
      have erased : ((view.1.held SourceLock.sourceCapture).erase pid) = [] := emptied
      rw [shape, none, List.erase_cons_tail (by simpa using different)] at erased
      cases erased
    refine window required ?_ window'
    rw [Disk.Newest, shape, same]
    rfl
  · intro required other dead
    by_cases same : other = pid
    · rw [same]
      exact tidy required
    · refine inv.tidy required other fun live => dead ⟨live.1, ?_⟩
      simp only [Disk.finish, Function.update_of_ne same]
      exact live.2

omit [Unbroken] in
theorem edges [Unbroken] (inv : Inv original view.1) (name : SourceLock) :
    AtEdge pid (view.1.held name) := by
  cases name
  exact .of_length (inv.alone.trans (by decide))

theorem entry_steady [Careful policy] (entry : SourceEntry) :
    ∃ α, ∃ script : SourceScript α, SourceEntry.program entry = script.program sourceExit ∧
      Steady (discipline original) policy pid (Idle pid) script := by
  cases entry with
  | register data =>
      exact ⟨_, _, rfl, immutable_steady (Frame.free (by decide)) (by simp)⟩
  | retainEvent data =>
      exact ⟨_, _, rfl, immutable_steady (Frame.free (by decide)) (by simp)⟩
  | freezeOutput => exact ⟨_, _, rfl, freezeOutput_steady⟩
  | finishObservation =>
      exact ⟨_, _, rfl, finishObservation_steady free_stable fun _ => Frame.free⟩
  | recoverOutput => exact ⟨_, _, rfl, recoverOutput_steady⟩

theorem entry_safe [Careful policy] (entry : SourceEntry) (inv : (discipline original).Inv view)
    (idle : Idle pid view) :
    Safe (discipline original) policy (SourceEntry.program entry) pid view := by
  obtain ⟨α, script, same, steady⟩ : ∃ α, ∃ script : SourceScript α,
      SourceEntry.program entry = script.program sourceExit ∧
        Steady (discipline original) policy pid (Idle pid) script := entry_steady entry
  rw [same]
  refine Spec.safe steady inv idle (fun _ => idle_stable) ?_
  intro result view inv idle live
  have outside : ¬ view.1.Newest pid SourceLock.sourceCapture := fun newest =>
    idle.1.2 newest.mem
  obtain ⟨ghost, kept, promise, -⟩ := finish_keeps inv.2
    (fun _ newest => absurd newest outside) idle.2 (some (sourceExit result))
  exact ⟨ghost, ⟨inv.1.finish pid _, kept⟩, ⟨.finish inv.1 live (edges inv.2), promise⟩⟩

theorem closed [Careful policy] : (discipline original).Closed policy := by
  refine Lane.closed ?_ ?_ ?_
  · intro pid view _ inv _ permitted
    refine ⟨edges inv, finish_keeps inv (fun required => ?_) (fun required => ?_) none⟩
    · exact (Careful.kill required pid view.1 permitted).1
    · exact (Careful.kill required pid view.1 permitted).2
  · intro what view world _ inv permitted changed
    obtain ⟨drifts, around⟩ := change_drifts inv.sane changed
    have surrounded : view.1.held SourceLock.sourceCapture = [] ∨ Around view.1.world world := by
      by_cases free : view.1.held SourceLock.sourceCapture = []
      · exact .inl free
      · refine .inr (around fun fixed name inode vanishes found chosen => ?_)
        subst vanishes
        exact free (Careful.change fixed name inode view.1 permitted found chosen)
    refine ⟨(), ⟨drifts.sane, inv.alone, ?_, fun required => ?_, ?_⟩, drifts.mine, surrounded⟩
    · intro document owner serial present
      rw [drifts.drawn] at present
      exact inv.drawn present
    · rcases inv.settled required with settled | ⟨held, window⟩
      · exact .inl (drifts.settled settled)
      · exact .inr ⟨held, lasting_window inv.sane (surrounded.resolve_left held) window⟩
    · exact fun required pid dead => (drifts.mine pid).tidy (inv.tidy required pid dead)
  · intro entry view sound inv
    have held : (view.1.birth none).held = view.1.held := Disk.held_birth_none view.1
    have kept : Inv original (view.1.birth none) := by
      refine ⟨inv.sane, ?_, fun present => ?_, fun required => ?_, fun required pid dead => ?_⟩
      · rw [held]
        exact inv.alone
      · exact Nat.lt_succ_of_lt (inv.drawn present)
      · rw [held]
        exact inv.settled required
      · exact inv.tidy required pid fun live => dead (sourceSystem.birth_live live)
    refine ⟨(), kept, ⟨fun _ => .refl _ _, .inr (.refl _)⟩, ?_⟩
    refine entry_safe entry ⟨sound.birth none, kept⟩ ⟨⟨Nat.lt_succ_self _, ?_⟩, fun _ => ?_⟩
    · rw [held]
      exact fun holds => absurd (sound.alive _ _ holds).1 (Nat.lt_irrefl _)
    · intro document serial inode found _
      have present : view.1.world.find (.temp document view.1.next serial) ≠ none := by
        intro none
        cases none.symm.trans found
      exact Nat.lt_irrefl _ (inv.drawn present)

end Closing

section Fixed

/-- What no event changes: what was selected, and the links that come from elsewhere. -/
structure Fixed (before after : SourceStorage) : Prop where
  selection : after.selection = before.selection
  outside : after.outside = before.outside

omit [Unbroken] in
theorem act_fixed {op : SourceOp} {choice : SourceChoice}
    {answer : Except IoError op.Result} (acted : s.act pid op choice = some (answer, after)) :
    Fixed s after := by
  rcases act_cases acted with ⟨_, _, _, _, rfl⟩ | performed
  · exact ⟨rfl, rfl⟩
  · cases op <;> cases choice <;> simp only [SourceStorage.perform, reduceCtorEq] at performed <;>
      (repeat' split at performed) <;>
      simp only [Option.some.injEq, Prod.mk.injEq, reduceCtorEq] at performed <;>
      obtain ⟨-, rfl⟩ := performed <;> exact ⟨rfl, rfl⟩

omit [Unbroken] in
theorem change_fixed {what : SourceChange} (changed : SourceStorage.change what s = some after) :
    Fixed s after := by
  cases what <;> simp only [SourceStorage.change] at changed <;> split at changed <;> cases changed <;>
    exact ⟨rfl, rfl⟩

omit [Unbroken] in
theorem apply_fixed {event : Event sourceSystem}
    {before after : Config (requests sourceLayout sourceOutside) SourceDisk}
    (applied : sourceSystem.apply event before = some after) :
    Fixed before.state.world after.state.world := by
  cases event with
  | enter entry =>
      cases applied
      exact ⟨rfl, rfl⟩
  | change what =>
      obtain ⟨state, moved, rfl⟩ := Option.map_eq_some_iff.mp applied
      obtain ⟨world, changed, rfl⟩ := Option.map_eq_some_iff.mp moved
      exact change_fixed changed
  | step pid choice =>
      simp only [System.apply] at applied
      split at applied
      · obtain ⟨⟨answer, state⟩, served, rfl⟩ := Option.map_eq_some_iff.mp applied
        rcases Request.serve_cases served with ⟨-, performed⟩ | ⟨_, _, _, _, same, _⟩ |
            ⟨_, _, _, _, _, acted, rfl, _⟩
        · rw [← (Request.perform_frame performed).2.2.2]
          exact ⟨rfl, rfl⟩
        · cases same
          exact ⟨rfl, rfl⟩
        · exact act_fixed acted
      · cases applied
  | fork pid | refuse pid | leave pid | kill pid =>
      simp only [System.apply] at applied
      split at applied <;> cases applied
      exact ⟨rfl, rfl⟩

end Fixed

abbrev SourceConfig := Config (requests sourceLayout sourceOutside) SourceDisk

section Start

/-- The first bytes of the selected log, as many as were selected. -/
def selectedBytes (s : SourceStorage) : Option Bytes :=
  match s.selection with
  | .missing _ => none
  | .pinned inode byteLen _ => some ((s.nodes inode).content.take byteLen)

/-- A source directory whose output was just selected: none of the names that capture and
publication make is there. -/
structure JustSelected (start : SourceConfig) : Prop where
  idle : ∀ pid, start.procs pid = none
  free : start.state.held SourceLock.sourceCapture = []
  unmade : ∀ name, isMade name = true → start.state.world.find name = none
  born : ∀ {name inode}, start.state.world.find name = some inode → inode < start.state.world.next
  pinned : ∀ {inode byteLen links}, start.state.world.selection = .pinned inode byteLen links →
    inode < start.state.world.next ∧ ∃ content, start.state.world.nodes inode = .bytes content ∧
      byteLen ≤ content.length

variable {start final : SourceConfig} {inode byteLen links : Nat}

omit [Unbroken] in
theorem selectedBytes_pinned (pinned : s.selection = .pinned inode byteLen links) :
    selectedBytes s = some ((s.nodes inode).content.take byteLen) := by
  rw [selectedBytes, pinned]

omit [Unbroken] in
/-- The selected bytes stay what they were while the log grows behind them. -/
theorem selectedBytes_of_sane (sane : Sane original s)
    (pinned : s.selection = .pinned inode byteLen links) : selectedBytes s = some original := by
  have chosen : s.selection.inode = some inode := by
    rw [pinned]
    rfl
  obtain ⟨-, content, holds, prefixes⟩ := sane.selected chosen
  have length : byteLen = original.length := sane.length (by rw [pinned]; rfl)
  rw [selectedBytes_pinned pinned, holds, length]
  exact congrArg some (List.prefix_iff_eq_take.mp prefixes).symm

omit [Unbroken] in
theorem JustSelected.sane (selected : JustSelected start) :
    Sane ((selectedBytes start.state.world).getD []) start.state.world := by
  have absent {made : SourceName} {inode : Nat} (own : isMade made = true) :
      start.state.world.find made ≠ some inode := by
    rw [selected.unmade made own]
    exact nofun
  refine { born := selected.born, selected := ?_, length := ?_
           apart := fun own found => absurd found (absent own)
           plain := fun own found => absurd found (absent own)
           exact := fun found => absurd found (absent rfl)
           exclusive := fun _ => selected.unmade _ rfl
           receipts := fun found => absurd found (absent rfl)
           staged := fun found => absurd found (absent rfl)
           published := fun found => absurd found (absent rfl) }
  · intro inode chosen
    cases pinned : start.state.world.selection with
    | missing =>
        rw [pinned] at chosen
        cases chosen
    | pinned node byteLen links =>
        rw [pinned] at chosen
        cases chosen
        obtain ⟨born, content, holds, -⟩ := selected.pinned pinned
        refine ⟨born, content, holds, ?_⟩
        rw [selectedBytes_pinned pinned, holds]
        exact List.take_prefix _ _
  · intro length chosen
    cases pinned : start.state.world.selection with
    | missing =>
        rw [pinned] at chosen
        cases chosen
    | pinned node byteLen links =>
        rw [pinned] at chosen
        cases chosen
        obtain ⟨-, content, holds, enough⟩ := selected.pinned pinned
        rw [selectedBytes_pinned pinned, holds]
        exact (List.length_take_of_le enough).symm

theorem JustSelected.inv (selected : JustSelected start) :
    Inv ((selectedBytes start.state.world).getD []) start.state where
  sane := selected.sane
  alone := by
    rw [selected.free]
    exact Nat.zero_le 1
  drawn present := absurd (selected.unmade _ rfl) present
  settled _ := by
    refine .inl ⟨fun _ copy inode record found => ?_, fun {inode name} found => ?_⟩
    · rw [selected.unmade (.receipt copy) rfl] at found
      cases found
    · rw [selected.unmade .output rfl] at found
      cases found
  tidy _ pid _ document serial inode found := by
    rw [selected.unmade (.temp document pid serial) rfl] at found
    cases found

theorem run_inv [Careful policy] (selected : JustSelected start)
    (run : System.Run policy start final) :
    (discipline ((selectedBytes start.state.world).getD [])).Good policy final () := by
  have sound : start.state.Sound := by
    refine ⟨fun name => ?_, fun name pid holds => ?_⟩
    · cases name
      rw [selected.free]
      exact List.nodup_nil
    · cases name
      rw [selected.free] at holds
      cases holds
  have good : (discipline ((selectedBytes start.state.world).getD [])).Good policy start () :=
    Lane.good_of_idle sound selected.inv selected.idle
  obtain ⟨_, reached⟩ := Discipline.run_good closed good run
  exact reached

omit [Unbroken] in
theorem run_fixed (run : System.Run policy start final) :
    Fixed start.state.world final.state.world := by
  induction run with
  | start => exact ⟨rfl, rfl⟩
  | step _ _ _ applied ih =>
      have last := apply_fixed applied
      exact ⟨last.selection.trans ih.selection, last.outside.trans ih.outside⟩

end Start

section Exclusion

/-- What the captures and recoveries of a source agree on. -/
structure Captured (s : SourceStorage) : Prop where
  exclusive : s.find .output = none ∨ s.find (.document .missingOutput) = none
  exact : ∀ inode, s.find .output = some inode →
    ∃ bytes, selectedBytes s = some bytes ∧ s.nodes inode = .bytes bytes

variable {start final : SourceConfig}

omit [Unbroken] in
theorem captured_of_sane (sane : Sane original s) : Captured s := by
  refine ⟨?_, fun inode found => ?_⟩
  · by_cases absent : s.find .output = none
    · exact .inl absent
    · exact .inr (sane.exclusive absent)
  · obtain ⟨holds, chosen⟩ := sane.exact found
    cases pinned : s.selection with
    | missing =>
        rw [pinned] at chosen
        cases chosen
    | pinned node byteLen links => exact ⟨original, selectedBytes_of_sane sane pinned, holds⟩

/-- A step of a process leaves a whole copy of the selected bytes where there was one. -/
theorem apply_survives [Careful policy] (anchored : Unbroken.anchored) {event : Event sourceSystem}
    {before after : SourceConfig}
    (good : (discipline original).Good policy before ()) (inside : ∀ what, event ≠ .change what)
    (permitted : policy.permits before event) (applied : sourceSystem.apply event before = some after)
    (survives : Survives original before.state.world) : Survives original after.state.world := by
  obtain ⟨_, moves, -⟩ := Discipline.apply_good closed event good permitted applied
  cases event with
  | change what => exact absurd rfl (inside what)
  | enter entry =>
      cases applied
      exact survives
  | refuse pid =>
      have still : (before.state, ()) = (after.state, ()) := moves
      rw [← (Prod.mk.inj still).1]
      exact survives
  | step pid | fork pid | leave pid | kill pid => exact moves.2.survives anchored survives

/-- A name of the selected log goes only while nobody holds the lease. -/
def LogKept (policy : System.Policy sourceSystem) : Prop :=
  ∀ name inode disk, policy.change (.vanish name) disk → disk.world.find name = some inode →
    disk.world.selection.inode = some inode → disk.held SourceLock.sourceCapture = []

omit [Unbroken] in
theorem logKept_careful (kept : LogKept policy) : @Careful ⟨False, True⟩ policy :=
  @Careful.mk ⟨False, True⟩ policy (fun _ => kept) (fun required => required.elim)
    fun required => required.elim

omit [Unbroken] in
theorem any_careful : @Careful ⟨False, False⟩ policy :=
  @Careful.mk ⟨False, False⟩ policy (fun anchored => anchored.elim) (fun required => required.elim)
    fun required => required.elim

omit [Unbroken] in
theorem selectedBytes_run (selected : JustSelected start) (run : System.Run policy start final)
    (sane : Sane ((selectedBytes start.state.world).getD []) final.state.world) :
    selectedBytes final.state.world = selectedBytes start.state.world := by
  have same := (run_fixed run).selection
  cases pinned : start.state.world.selection with
  | missing detail => rw [selectedBytes, selectedBytes, same, pinned]
  | pinned node byteLen links =>
      rw [selectedBytes_of_sane sane (same.trans pinned), ← selectedBytes_of_sane selected.sane pinned]

omit [Unbroken] in
/-- However captures, recoveries, failures and kills interleave, the output and the proof of its
loss exclude each other, and a published output is the bytes that were selected. While the log
keeps its names for the holders of the lease, no step of a process takes the last whole copy. -/
theorem capture_exclusion (selected : JustSelected start) (run : System.Run policy start final) :
    Captured final.state.world ∧
      selectedBytes final.state.world = selectedBytes start.state.world ∧
      (LogKept policy → ∀ event after bytes, (∀ what, event ≠ .change what) →
        policy.permits final event → sourceSystem.apply event final = some after →
        selectedBytes final.state.world = some bytes →
        Survives bytes final.state.world → Survives bytes after.state.world) := by
  have good := @run_inv ⟨False, False⟩ policy start final any_careful selected run
  have sane : Sane ((selectedBytes start.state.world).getD []) final.state.world :=
    @Inv.sane ⟨False, False⟩ _ _ good.1.2
  refine ⟨captured_of_sane sane, selectedBytes_run selected run sane, ?_⟩
  intro kept event after bytes inside permitted applied known survives
  have whole : bytes = (selectedBytes start.state.world).getD [] := by
    rw [← selectedBytes_run selected run sane, known]
    rfl
  rw [whole] at survives ⊢
  let _ : Unbroken := ⟨False, True⟩
  have _ : Careful policy := logKept_careful kept
  exact apply_survives trivial (run_inv selected run) inside permitted applied survives

section Samples

/-- Three bytes in the log, of which two were selected. -/
def pinnedLog : SourceConfig where
  state :=
    { files := nofun, held := fun _ => [], next := 0, ended := fun _ => none
      parent := fun _ => none, gates := fun _ => .waiting
      world :=
        { links := Links.link ⟨∅, fun _ => .bytes [97, 98, 99], 1⟩ .selectedLog 0
          selection := .pinned 0 2 2, outside := fun _ => 0 } }
  procs _ := none

omit [Unbroken] in
theorem pinnedLog_find {name : SourceName} :
    pinnedLog.state.world.find name = if name = .selectedLog then some 0 else none :=
  Links.find_link

omit [Unbroken] in
theorem pinnedLog_selected : JustSelected pinnedLog where
  idle _ := rfl
  free := rfl
  unmade name own := by
    rw [pinnedLog_find, if_neg]
    rintro rfl
    cases own
  born {name inode} found := by
    rw [pinnedLog_find] at found
    split at found
    · cases found
      exact Nat.one_pos
    · cases found
  pinned same := by
    cases same
    exact ⟨Nat.one_pos, [97, 98, 99], rfl, by decide⟩

abbrev ask (pid : Nat) (choice : SourceChoice) : Event sourceSystem :=
  .step pid (.outside choice)

/-- The capture 0 fails after one byte and is killed before it cleans up; the recovery 1 finds
the slot taken and publishes a copy without a name. -/
def retriedCapture : List (Event sourceSystem) :=
  [.enter .freezeOutput, .step 0 .pass] ++ List.replicate 4 (ask 0 .agree) ++
  [ask 0 (.listing [.selectedLog]), ask 0 .agree, ask 0 (.listing [.selectedLog])] ++
  List.replicate 11 (ask 0 .agree) ++ [ask 0 (.identity ⟨1, 1, "boot"⟩)] ++
  List.replicate 6 (ask 0 .agree) ++ [ask 0 (.stop 1 (.other "No space left on device")), .kill 0] ++
  [.enter .recoverOutput, ask 1 .agree, .step 1 .pass] ++ List.replicate 4 (ask 1 .agree) ++
  [ask 1 (.listing [.body .slot, .receipt .slot, .selectedLog]), ask 1 .agree, ask 1 .agree,
    ask 1 .agree, ask 1 (.listing [.selectedLog, .body .slot, .receipt .slot])] ++
  List.replicate 10 (ask 1 .agree)

omit [Unbroken] in
theorem retriedCapture_output :
    (sourceSystem.play (fun _ _ => true) retriedCapture pinnedLog).map (fun config =>
      (config.state.world.find .output).map config.state.world.nodes) =
        some (some (.bytes [97, 98])) := by
  decide +kernel

/-- Everything may happen but that a name of the log goes. -/
def logStays : System.Policy sourceSystem where
  call _ _ _ _ := True
  kill _ _ := True
  change what _ := ∀ name, what ≠ .vanish name

def staysLogged : Event sourceSystem → Bool
  | .change (.vanish _) => false
  | _ => true

omit [Unbroken] in
theorem staysLogged_permits (config : SourceConfig) (event : Event sourceSystem)
    (stays : staysLogged event = true) : logStays.permits config event := by
  cases event with
  | change what =>
      rintro name rfl
      cases stays
  | step pid choice => exact fun _ _ _ => trivial
  | enter entry | fork pid | refuse pid | leave pid | kill pid => trivial

/-- The capture 0 fails after one byte and has cleaned up as far as its receipt. -/
def abandonedCapture : List (Event sourceSystem) :=
  retriedCapture.take 28 ++ List.replicate 6 (ask 0 .agree)

omit [Unbroken] in
theorem abandonedCapture_cleans :
    ((sourceSystem.play (fun _ => staysLogged) abandonedCapture pinnedLog).bind fun before =>
      (sourceSystem.apply (ask 0 .agree) before).map fun after =>
        ((before.state.world.find (.body .slot)).isSome, after.state.world.find (.body .slot),
          before.state.world.find .selectedLog, before.state.world.nodes 0,
          before.state.world.selection)) =
      some (true, none, some 0, .bytes [97, 98, 99], .pinned 0 2 2) := by
  decide +kernel

omit [Unbroken] in
/-- One run publishes on a second try; in the other a step of the cleaning removes the copy, and
the selected bytes are still in the log. -/
theorem capture_exclusion_retried :
    (∃ final, sourceSystem.play (fun _ _ => true) retriedCapture pinnedLog = some final ∧
      final.state.world.find .output ≠ none ∧ Captured final.state.world) ∧
    ∃ before after, sourceSystem.play (fun _ => staysLogged) abandonedCapture pinnedLog =
        some before ∧ sourceSystem.apply (ask 0 .agree) before = some after ∧
      before.state.world.find (.body .slot) ≠ none ∧ after.state.world.find (.body .slot) = none ∧
      Survives [97, 98] after.state.world := by
  constructor
  · obtain ⟨final, played, published⟩ := Option.map_eq_some_iff.mp retriedCapture_output
    refine ⟨final, played, fun absent => ?_, ?_⟩
    · rw [absent] at published
      cases published
    · exact (capture_exclusion pinnedLog_selected (System.Run.of_play
        (fun config event _ => System.Policy.free_permits config event) played)).1
  · obtain ⟨before, played, cleaned⟩ := Option.bind_eq_some_iff.mp abandonedCapture_cleans
    obtain ⟨after, applied, seen⟩ := Option.map_eq_some_iff.mp cleaned
    simp only [Prod.mk.injEq] at seen
    obtain ⟨body, gone, named, holds, chosen⟩ := seen
    have known : selectedBytes before.state.world = some [97, 98] := by
      rw [selectedBytes_pinned chosen, holds]
      rfl
    have whole : Survives [97, 98] before.state.world :=
      ⟨.selectedLog, 0, _, named, holds, ⟨[99], rfl⟩, .inr (.inr (congrArg Selection.inode chosen))⟩
    have kept : LogKept logStays := fun name _ _ allowed => absurd rfl (allowed name)
    have inside (what : SourceChange) : ask 0 .agree ≠ .change what := by
      intro same
      cases same
    refine ⟨before, after, played, applied, Option.isSome_iff_ne_none.mp body, gone, ?_⟩
    exact (capture_exclusion pinnedLog_selected (System.Run.of_play staysLogged_permits played)).2.2
      kept (ask 0 .agree) after [97, 98] inside (fun _ _ _ => trivial) applied known whole

end Samples

end Exclusion

end Continuation

end AgentBash
