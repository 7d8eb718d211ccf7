import AgentBash.Continuation.CaptureLane

/-!
# Immutable publication

`immutable` draws a temporary name, links it to the published name and drops it again. Whatever
a process knows that survives new names of new nodes survives `immutable`; where publications are
not broken off, no temporary name is left beside the published one.
-/

namespace AgentBash

set_option autoImplicit false

open Durable SourceStorage

namespace Continuation

variable [Unbroken] {original : Bytes} {document : Document} {pid : Nat} {C : View → Prop}
  {policy : System.Policy sourceSystem} {s before after : SourceStorage} {inode serial : Nat}
  {node : SourceNode}

/-- What one request of `immutable` does to the storage. -/
structure Publishes (original : Bytes) (document : Document) (pid : Nat)
    (before after : SourceStorage) : Prop where
  sane : Sane original after
  kept : Kept Unbroken.anchored before after
  proof : document = .missingOutput ∨
    after.find (.document .missingOutput) = before.find (.document .missingOutput)
  mine : ∀ other, other ≠ pid → Mine other before after
  survives : Survives original before → Survives original after
  settled : SourceStorage.Settled before → SourceStorage.Settled after
  window : Window before → Window after
  drawn : ∀ {document owner serial}, after.find (.temp document owner serial) ≠ none →
    owner = pid ∨ before.find (.temp document owner serial) ≠ none

theorem Publishes.refl (sane : Sane original s) : Publishes original document pid s s where
  sane := sane
  kept := .refl s
  proof := .inr rfl
  mine _ _ := .refl _ s
  survives := id
  settled := id
  window := id
  drawn present := .inr present

theorem Publishes.stage (sane : Sane original s) (plain : node ≠ .symlink)
    (absent : s.find (.temp document pid serial) = none) :
    Publishes original document pid s (s.create (.temp document pid serial) node) where
  sane := sane.create (fun _ => plain) nofun nofun nofun
  kept := .create sane rfl absent
  proof := .inr (find_link_other nofun)
  mine other different := .create sane fun _ _ same => different (by cases same; rfl)
  survives survives := survives.create sane absent
  settled settled := settled.create sane nofun nofun
  window window := by
    refine window.same (fun found => nodes_allocate_old (sane.born found)) ?_ ?_
    · exact find_link_other nofun
    · exact find_link_other nofun
  drawn {other owner number} present := by
    by_cases same : owner = pid
    · exact .inl same
    · refine .inr fun none => present ?_
      have different : SourceName.temp other owner number ≠ .temp document pid serial := by
        intro equal
        cases equal
        exact same rfl
      exact (find_link_other different).trans none

theorem Publishes.link (sane : Sane original s)
    (found : s.find (.temp document pid serial) = some inode)
    (absent : s.find (.document document) = none)
    (guard : document = .missingOutput → s.find .output = none) :
    Publishes original document pid s (s.link (.document document) inode) := by
  -- the node has no other name yet
  have only : ∀ {name}, s.find name = some inode → name = .temp document pid serial := by
    intro name also
    refine (sane.staged found also).resolve_right fun same => ?_
    rw [same, absent] at also
    cases also
  refine { sane := sane.link ?_, kept := ?_, proof := ?_, mine := ?_, survives := ?_, settled := ?_,
           window := ?_, drawn := ?_ }
  · refine { born := sane.born found, other := sane.apart rfl found, plain := fun _ => sane.plain rfl found,
             output := nofun, proof := fun same => guard (by cases same; rfl), receipt := nofun,
             staged := ?_, published := ?_, temp := nofun, document := ?_ }
    · intro other owner number also
      cases only also
      rfl
    · intro other also
      cases only also
    · intro other same another also
      cases same
      exact ⟨pid, serial, only also⟩
  · refine .link rfl absent (fun name own also => ?_) ⟨_, found⟩
    rw [only also] at own
    cases own
  · by_cases same : document = .missingOutput
    · exact .inl same
    · refine .inr (find_link_other fun equal => same ?_)
      cases equal
      rfl
  · intro other different
    refine .link (fun _ _ => nofun) fun _ _ also => ?_
    cases only also
    exact different rfl
  · exact fun survives => survives.link absent
  · intro settled
    refine settled.link nofun (fun _ => nofun) fun also => ?_
    cases only also
  · intro window
    exact window.same (fun _ => rfl) (find_link_other nofun) (find_link_other nofun)
  · intro _ _ _ present
    refine .inr fun none => present ?_
    rw [find_link_other]
    · exact none
    · exact nofun

theorem Publishes.unlink (sane : Sane original s) :
    Publishes original document pid s (s.unlink (.temp document pid serial)) where
  sane := sane.unlink
  kept := .unlink rfl fun _ _ found => sane.apart rfl found
  proof := .inr (find_unlink_other nofun)
  mine other different := .unlink fun _ _ same => different (by cases same; rfl)
  survives survives := survives.unlink fun found => sane.carries_none rfl nofun nofun found
  settled settled := settled.unlink nofun
  window window :=
    window.same (fun _ => rfl) (find_unlink_other nofun) (find_unlink_other nofun)
  drawn present := by
    refine .inr fun none => present ?_
    rw [find_unlink, none]
    split <;> rfl

/-- What a process knows that `immutable` leaves alone. -/
structure Frame (original : Bytes) (document : Document) (pid : Nat) (C : View → Prop) : Prop where
  stable : Stable (discipline original) pid C
  moved : ∀ {disk : SourceDisk} {world : SourceStorage}, Inv original disk → C (disk, ()) →
    Publishes original document pid disk.world world → C ({ disk with world := world }, ())
  holder : document = .missingOutput → ∀ {view : View}, C view →
    view.1.Newest pid SourceLock.sourceCapture ∧ view.1.world.find .output = none

theorem Frame.free (other : document ≠ .missingOutput) : Frame original document pid (Free pid) :=
  ⟨free_stable, fun _ holds _ => holds, fun same => absurd same other⟩

theorem Frame.holding {P : SourceStorage → Prop} (lasting : Lasting original P)
    (other : document ≠ .missingOutput) : Frame original document pid (Holding pid P) where
  stable := holding_stable lasting
  moved inv holds publishes :=
    ⟨holds.1, lasting inv.sane ⟨publishes.kept, publishes.proof.resolve_left other⟩ holds.2⟩
  holder same := absurd same other

/-- All but one of the temporary names of a process are tidy. -/
def TidyBut (pid : Nat) (document : Document) (serial : Nat) (s : SourceStorage) : Prop :=
  ∀ other number inode, s.find (.temp other pid number) = some inode →
    s.find (.document other) = some inode → other = document ∧ number = serial

omit [Unbroken] in
theorem Mine.tidyBut (mine : Mine pid before after) (tidy : TidyBut pid document serial before) :
    TidyBut pid document serial after := by
  intro other number inode found linked
  rw [mine.names] at found
  exact tidy other number inode found (mine.links found linked)

section Requests

theorem frame_ask (policy : System.Policy sourceSystem) [Careful policy] {op : SourceOp} {T : SourceStorage → Prop}
    {Q : Except IoError op.Result → SourceStorage → Prop}
    (frame : Frame original document pid C)
    (still : ∀ {before after}, Mine pid before after → T before → T after)
    (acted : ∀ s choice answer after, Sane original s → (Unbroken.required → T s) →
      (document = .missingOutput → s.find .output = none) →
      (Unbroken.required → ∀ other number inode, op = .removeFile (.temp other pid number) →
        s.find (.temp other pid number) = some inode → s.find (.document other) = some inode →
        ∀ error, choice ≠ .fail error) →
      s.act pid op choice = some (answer, after) →
      Publishes original document pid s after ∧ Q answer after) :
    Spec (discipline original) policy pid (With C fun s => Unbroken.required → T s) (sourceAsk op)
      fun result => With C (Q result) := by
  refine Lane.external ?_ ?_
  · intro view now inv holds moved inv'
    exact ⟨frame.stable inv holds.1 moved inv',
      fun required => still moved.2.mine (holds.2 required)⟩
  · rintro view choice answer world sound inv ⟨known, tidy⟩ live permitted act
    obtain ⟨publishes, result⟩ := acted view.1.world choice answer world inv.sane tidy
      (fun same => (frame.holder same known).2)
      (fun required => (Careful.call required pid op choice view.1 permitted).temp) act
    refine ⟨(), ?_, ?_, frame.moved inv known publishes, result⟩
    · refine ⟨publishes.sane, inv.alone, fun present => ?_, fun required => ?_, ?_⟩
      · rcases publishes.drawn present with same | old
        · rw [same]
          exact live.1
        · exact inv.drawn old
      · exact (inv.settled required).imp publishes.settled fun open_ =>
          ⟨open_.1, publishes.window open_.2⟩
      · intro required other dead
        refine (publishes.mine other fun same => ?_).tidy (inv.tidy required other dead)
        exact dead (same ▸ live)
    · refine ⟨publishes.mine, ?_, fun _ => publishes.survives⟩
      rcases publishes.proof with same | same
      · exact .inl (frame.holder same known).1
      · exact .inr ⟨publishes.kept, same⟩

theorem stage_spec [Careful policy] (frame : Frame original document pid C) {data : SourceNode}
    (plain : data ≠ .symlink) :
    Spec (discipline original) policy pid (Tidied pid C) (sourceAsk (.stage document data)) fun
      | .ok temp => fun view => (∃ serial, temp = .temp document pid serial) ∧ Tidied pid C view
      | .error _ => Tidied pid C := by
  have asked : Spec (discipline original) policy pid
      (Tidied pid C) (sourceAsk (.stage document data)) fun result => With C fun s =>
        (∀ temp, result = .ok temp → ∃ serial, temp = .temp document pid serial) ∧
        (Unbroken.required → Tidy pid s) := by
    refine frame_ask policy frame Mine.tidy ?_
    intro s choice answer after sane tidy _ _ act
    -- a new node is not what a published name leads to
    have stays : ∀ {node serial}, Tidy pid s → Tidy pid (s.create (.temp document pid serial) node) := by
      intro node serial tidy other number inode found linked
      have old : s.find (.document other) = some inode := by
        rw [SourceStorage.create, find_link_other] at linked
        · exact linked
        · simp
      rw [SourceStorage.create, find_link] at found
      split at found
      · cases found
        exact absurd (sane.born old) (lt_irrefl _)
      · exact tidy other number inode found old
    rcases act_cases act with ⟨error, -, -, rfl, rfl⟩ | performed
    · exact ⟨.refl sane, (fun _ same => by cases same), tidy⟩
    · cases choice <;> simp only [SourceStorage.perform, reduceCtorEq] at performed
      · next number error =>
        split at performed
        · next fine =>
          rw [Bool.and_eq_true, Option.isNone_iff_eq_none] at fine
          obtain ⟨rfl, rfl⟩ := Prod.mk.inj (Option.some.inj performed)
          exact ⟨.stage sane (by simp) fine.2, (fun _ same => by cases same),
            fun required => stays (tidy required)⟩
        · cases performed
      · next number =>
        split at performed <;> obtain ⟨rfl, rfl⟩ := Prod.mk.inj (Option.some.inj performed)
        · exact ⟨.refl sane, (fun _ same => by cases same), tidy⟩
        · next absent =>
          refine ⟨.stage sane plain absent, ?_, fun required => stays (tidy required)⟩
          intro temp same
          cases same
          exact ⟨_, rfl⟩
  refine asked.relax ?_
  rintro (error | temp) view _ ⟨known, named, tidy⟩
  · exact ⟨known, tidy⟩
  · exact ⟨named temp rfl, known, tidy⟩

theorem hardLink_spec [Careful policy] (frame : Frame original document pid C) :
    Spec (discipline original) policy pid (Tidied pid C)
      (hardLink (.temp document pid serial) (.document document))
      fun _ => With C fun s => Unbroken.required → TidyBut pid document serial s := by
  refine frame_ask policy frame Mine.tidy ?_
  intro s choice answer after sane tidy guard _ act
  have before : Unbroken.required → TidyBut pid document serial s :=
    fun required other number inode found linked => absurd linked (tidy required other number inode found)
  rcases act_cases act with ⟨error, -, -, rfl, rfl⟩ | performed
  · exact ⟨.refl sane, before⟩
  · simp only [SourceStorage.perform] at performed
    split at performed <;> obtain ⟨rfl, rfl⟩ := Prod.mk.inj (Option.some.inj performed)
    · exact ⟨.refl sane, before⟩
    · exact ⟨.refl sane, before⟩
    · next inode found absent =>
      refine ⟨.link sane found absent guard, fun required other number another temp linked => ?_⟩
      have old : s.find (.temp other pid number) = some another := by
        rw [find_link_other] at temp
        · exact temp
        · simp
      rw [find_link] at linked
      split at linked
      · cases linked
        rcases sane.staged found old with same | same
        · cases same
          exact ⟨rfl, rfl⟩
        · cases same
      · exact absurd linked (tidy required other number another old)

theorem removeTemp_spec [Careful policy] (frame : Frame original document pid C) :
    Spec (discipline original) policy pid
      (With C fun s => Unbroken.required → TidyBut pid document serial s)
      (removeFile (.temp document pid serial)) fun _ => Tidied pid C := by
  refine frame_ask policy frame Mine.tidyBut ?_
  intro s choice answer after sane tidy _ permitted act
  rcases act_cases act with ⟨error, rfl, -, rfl, rfl⟩ | performed
  · refine ⟨.refl sane, fun required other number inode found linked => ?_⟩
    obtain ⟨rfl, rfl⟩ := tidy required other number inode found linked
    exact permitted required other number inode rfl found linked error rfl
  · simp only [SourceStorage.perform] at performed
    split at performed <;> obtain ⟨rfl, rfl⟩ := Prod.mk.inj (Option.some.inj performed)
    · next absent =>
      refine ⟨.refl sane, fun required other number inode found linked => ?_⟩
      obtain ⟨rfl, rfl⟩ := tidy required other number inode found linked
      rw [absent] at found
      cases found
    · refine ⟨.unlink sane, fun required other number inode found linked => ?_⟩
      obtain ⟨rfl, rfl⟩ := tidy required other number inode (find_of_find_unlink found)
        (find_of_find_unlink linked)
      rw [find_unlink_same] at found
      cases found

end Requests

theorem immutable_steady [Careful policy] (frame : Frame original document pid C)
    {data : SourceNode} (plain : data ≠ .symlink) :
    Steady (discipline original) policy pid (Tidied pid C) (immutable document data) := by
  have quiet : ∀ {op}, Quiet op →
      Steady (discipline original) policy pid (Tidied pid C) (sourceAsk op) := fun quiet =>
    (quiet_spec quiet (tidied_stable frame.stable)).relax fun _ _ _ held => held.1
  refine Steady.bind (quiet (by exact trivial)) fun found => ?_
  refine Steady.branch ?_ ?_
  · refine Steady.bind (quiet (by exact trivial)) fun node => ?_
    exact Steady.branch .pure .throw
  · refine Spec.bind (stage_spec frame plain) (fun temp => ?_) fun _ _ _ held => held
    refine .assume fun drawn => ?_
    obtain ⟨serial, rfl⟩ := drawn
    refine Spec.handle (hardLink_spec frame) fun linked => ?_
    refine Spec.bind (removeTemp_spec frame) (fun _ => ?_) fun _ _ _ held => held
    cases linked with
    | ok => exact quiet (by exact trivial)
    | error error =>
        refine Steady.branch .throw ?_
        refine Steady.bind (quiet (by exact trivial)) fun node => ?_
        exact Steady.branch .throw (quiet (by exact trivial))

end Continuation

end AgentBash
