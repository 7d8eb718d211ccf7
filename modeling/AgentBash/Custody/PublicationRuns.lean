import AgentBash.Custody.PublicationProcesses
import AgentBash.Custody.LaunchRuns

/-!
# A selected event is published in one way only

What every run over one source directory publishes: the header is the event of the selection, the
bundle is made of it and of what became of the output, and both published files are taken from the
bundle, whoever gets how far by whichever path.
-/

namespace AgentBash

set_option autoImplicit false

open Durable

namespace SourceCustody

section Runs

variable [Codec] {site : Site} {start middle one two : CustodyConfig}

/-- What stands in a directory agrees with the selection and with what became of the output. -/
structure PublicationSettled (files : Records custodyLayout) : Prop where
  exclusive : files SourceFile.output = none ∨ files SourceFile.missingOutput = none
  header : ∀ staged : Value, files SourceFile.observation = some staged → ∃ selection : Value,
    files SourceFile.selection = some selection ∧ selection.field? "observation" = some staged
  bundle : ∀ bundle : SourceBundle, files SourceFile.sourceBundle = some bundle →
    ∃ staged descriptor, files SourceFile.observation = some staged ∧
      Describes (bodyOf files) descriptor ∧ bundle = bundleOf staged descriptor
  outcome : ∀ bytes : Bytes, files SourceFile.outcome = some bytes → ∃ bundle : SourceBundle,
    files SourceFile.sourceBundle = some bundle ∧ bytes = bundle.outcome
  snapshot : ∀ bytes : Bytes, files SourceFile.snapshot = some bytes → ∃ bundle : SourceBundle,
    files SourceFile.sourceBundle = some bundle ∧ bytes = bundle.snapshot

/-- Everything that was published, selected, captured or attested stands as it is. -/
structure PublicationKept (before after : Records custodyLayout) : Prop where
  published : ∀ (file : SourceFile) content, chronicled file = true →
    before file = some content → after file = some content
  body : (bodyOf before).output ≠ none ∨ (bodyOf before).missing ≠ none →
    bodyOf after = bodyOf before

omit [Codec] in
theorem Body.settled {before after : Body} (grows : Relation.ReflTransGen Body.Moves before after)
    (there : before.output ≠ none ∨ before.missing ≠ none) : after = before := by
  induction grows with
  | refl => rfl
  | tail _ moves ih =>
      subst ih
      cases moves <;> simp at there

theorem settled_of_chronicle {view : Sight} (inv : publications.Inv view) :
    PublicationSettled view.1.files := by
  have backed : publishing.Backed (bodyOf view.1.files) (publishing.records view.1.files) :=
    inv.backed
  have valid : (bodyOf view.1.files).output = none ∨ (bodyOf view.1.files).missing = none := inv.valid
  exact ⟨valid, fun staged => backed .observation staged, fun bundle => backed .sourceBundle bundle,
    fun bytes => backed .outcome bytes, fun bytes => backed .snapshot bytes⟩

theorem kept_of_chronicle {before after : Sight} (grown : publications.Grown before after) :
    PublicationKept before.1.files after.1.files := by
  refine ⟨fun file content logged there => ?_, fun there => Body.settled grown.value there⟩
  have later := grown.notes file content ((Chronicle.notes_logged logged).trans there)
  exact (Chronicle.notes_logged logged).symm.trans later

theorem fresh_chronicle (fresh : FreshSource start) :
    (publishDiscipline site).Good (System.Policy.free (custodySystem site)) start () := by
  apply Owned.good_of_idle fresh.idle fresh.free
  · exact .inl (fresh.empty .output)
  · intro file content there
    have there : (if chronicled file then start.state.files file else none) = some content := there
    rw [fresh.empty file, ite_self] at there
    cases there

/-- Two directories hold nothing different under any published name. -/
def Agree (one two : Records custodyLayout) : Prop :=
  ∀ (file : SourceFile) content content', chronicled file = true →
    one file = some content → two file = some content' → content = content'

theorem same_header {first second : Records custodyLayout} {selection one two : Value}
    (settled : PublicationSettled first) (settled' : PublicationSettled second)
    (selected : first SourceFile.selection = some selection)
    (selected' : second SourceFile.selection = some selection)
    (there : first SourceFile.observation = some one)
    (there' : second SourceFile.observation = some two) : one = two := by
  obtain ⟨picked, stands, field⟩ := settled.header one there
  obtain ⟨picked', stands', field'⟩ := settled'.header two there'
  have same : picked = picked' := (Option.some.inj (stands.symm.trans selected)).trans
    (Option.some.inj (stands'.symm.trans selected')).symm
  subst same
  exact Option.some.inj (field.symm.trans field')

theorem same_bundle {first second : Records custodyLayout} {selection : Value}
    {one two : SourceBundle} (settled : PublicationSettled first)
    (settled' : PublicationSettled second) (body : bodyOf first = bodyOf second)
    (selected : first SourceFile.selection = some selection)
    (selected' : second SourceFile.selection = some selection)
    (there : first SourceFile.sourceBundle = some one)
    (there' : second SourceFile.sourceBundle = some two) : one = two := by
  obtain ⟨staged, descriptor, header, describes, made⟩ := settled.bundle one there
  obtain ⟨staged', descriptor', header', describes', made'⟩ := settled'.bundle two there'
  have event : staged = staged' := same_header settled settled' selected selected' header header'
  have output : descriptor = descriptor' := describes.unique settled.exclusive (body ▸ describes')
  rw [made, made', event, output]

theorem agree_of_settled {first second : Records custodyLayout} {selection : Value}
    (settled : PublicationSettled first) (settled' : PublicationSettled second)
    (body : bodyOf first = bodyOf second) (selected : first SourceFile.selection = some selection)
    (selected' : second SourceFile.selection = some selection) : Agree first second := by
  intro file content content' logged there there'
  cases file with
  | selection =>
      exact (Option.some.inj (there.symm.trans selected)).trans
        (Option.some.inj (there'.symm.trans selected')).symm
  | observation => exact same_header settled settled' selected selected' there there'
  | sourceBundle => exact same_bundle settled settled' body selected selected' there there'
  | outcome =>
      obtain ⟨bundle, stands, taken⟩ := settled.outcome content there
      obtain ⟨bundle', stands', taken'⟩ := settled'.outcome content' there'
      rw [taken, taken', same_bundle settled settled' body selected selected' stands stands']
  | snapshot =>
      obtain ⟨bundle, stands, taken⟩ := settled.snapshot content there
      obtain ⟨bundle', stands', taken'⟩ := settled'.snapshot content' there'
      rw [taken, taken', same_bundle settled settled' body selected selected' stands stands']
  | _ => cases logged

/-- However live observers, guardians and recoveries interleave, fail and are killed: what is
published follows from the selection and from what became of the output, nothing that is published
is replaced, and two runs that go on from one selected and captured event publish the same bytes,
whether by quanta or in one pass. -/
theorem publication_path_independent (fresh : FreshSource start)
    (first : System.Run (System.Policy.free (custodySystem site)) start middle)
    (second : System.Run (System.Policy.free (custodySystem site)) middle one)
    (third : System.Run (System.Policy.free (custodySystem site)) middle two) :
    PublicationSettled one.state.files ∧ PublicationKept middle.state.files one.state.files ∧
      (middle.state.files SourceFile.selection ≠ none →
        (bodyOf middle.state.files).output ≠ none ∨ (bodyOf middle.state.files).missing ≠ none →
        Agree one.state.files two.state.files) := by
  have continues {final : CustodyConfig}
      (run : System.Run (System.Policy.free (custodySystem site)) middle final) :
      PublicationSettled final.state.files ∧
        PublicationKept middle.state.files final.state.files := by
    obtain ⟨_, good, -⟩ := run_grows publication_closed (fresh_chronicle fresh) first
    obtain ⟨_, good', grown⟩ := run_grows publication_closed good run
    exact ⟨settled_of_chronicle good'.1.2, kept_of_chronicle grown⟩
  obtain ⟨settled, kept⟩ := continues second
  obtain ⟨settled', kept'⟩ := continues third
  refine ⟨settled, kept, fun selected captured => ?_⟩
  obtain ⟨selection, there⟩ := Option.ne_none_iff_exists'.mp selected
  exact agree_of_settled settled settled' ((kept.body captured).trans (kept'.body captured).symm)
    (kept.published .selection selection rfl there) (kept'.published .selection selection rfl there)

end Runs

section Samples

/-- A codec that writes the documents it knows by their number. -/
@[reducible] def numberedCodec (documents : List Value) : Codec where
  parse
    | [number] => documents[number.toNat]?
    | _ => none
  encode document := [(documents.idxOf document).toUInt8]
  parseMeta := fun _ => none
  sha256 := fun _ => "digest"

def exitTree : SourceObservation := ⟨.live .exitTree, some 0, true, true, none, true⟩

def exitedMeta : SourceMeta := { asyncMeta with rc := some 0 }

/-- What the supervisor 1 stages when the tree has drained. -/
def exitTreeOutcome : Value :=
  outcomeValue (common (registrationValue asyncSite asyncMeta "domain" "scope" "session" "invocation"
    sealedEnvironment ⟨"source", "registration", ⟨0, 7, "boot"⟩, "digest"⟩) "digest")
    (.object [("revision", .number 2)]) exitTree ⟨1, 7, "boot"⟩ .null

def exitTreeSnapshot : Value :=
  let _ : Codec := numberedCodec []
  describedSnapshot
    (stagedEvent exitTreeOutcome (snapshotValue exitTreeOutcome exitedMeta exitTree.kind))
    (outputDescriptor [104, 105])

local instance : Codec := numberedCodec [exitTreeOutcome, exitTreeSnapshot]

/-- The supervisor 1 selects the event and captures two bytes. -/
def capturedEvent : List (Event (custodySystem asyncSite)) :=
  confirmedLaunch [.retry exitedMeta .exitTree exitTree] [.guard .exitTree exitTree] ++
  releasedLaunch ++ [answers 1 .agree, answers 1 .agree] ++ passes 1 6 ++ [answers 1 .agree] ++
  passes 1 2 ++ [answers 1 (.directory 5 6), answers 1 (.pinned ⟨2, 5, 9, 1⟩)] ++ passes 1 20 ++
  [answers 1 (.bytes [104, 105])] ++ passes 1 3

/-- It goes on byte by byte. -/
def liveEvent : List (Event (custodySystem asyncSite)) :=
  passes 1 1 ++ List.replicate 3 (answers 1 (.count 0)) ++ passes 1 14

/-- It is killed, and its guardian 0 reads both bytes at once. -/
def guardedEvent : List (Event (custodySystem asyncSite)) :=
  .kill 1 :: passes 0 2 ++ [answers 0 (.record exitedMeta)] ++ passes 0 10 ++
  [answers 0 (.count 1), answers 0 (.count 1)] ++ passes 0 14

theorem exitTree_published :
    (((custodySystem asyncSite).play (fun _ _ => true) capturedEvent emptySource).bind fun middle =>
      ((custodySystem asyncSite).play (fun _ _ => true) liveEvent middle).bind fun one =>
        ((custodySystem asyncSite).play (fun _ _ => true) guardedEvent middle).map fun two =>
          ((middle.state.files SourceFile.selection).isSome, (middle.state.files SourceFile.output).isSome,
            (one.state.files SourceFile.snapshot).isSome, (two.state.files SourceFile.snapshot).isSome)) =
      some (true, true, true, true) := by
  decide +kernel

/-- The guardian publishes what the supervisor would have published. -/
theorem publication_path_independent_guarded : ∃ middle one two,
    (custodySystem asyncSite).play (fun _ _ => true) capturedEvent emptySource = some middle ∧
      (custodySystem asyncSite).play (fun _ _ => true) liveEvent middle = some one ∧
      (custodySystem asyncSite).play (fun _ _ => true) guardedEvent middle = some two ∧
      (one.state.files SourceFile.snapshot).isSome ∧ (two.state.files SourceFile.snapshot).isSome ∧
      PublicationSettled one.state.files ∧ Agree one.state.files two.state.files := by
  obtain ⟨middle, played, rest⟩ := Option.bind_eq_some_iff.mp exitTree_published
  obtain ⟨one, playedOne, rest⟩ := Option.bind_eq_some_iff.mp rest
  obtain ⟨two, playedTwo, stands⟩ := Option.map_eq_some_iff.mp rest
  simp only [Prod.mk.injEq] at stands
  obtain ⟨selected, captured, published, published'⟩ := stands
  have free (config : CustodyConfig) (event : Event (custodySystem asyncSite)) (_ : true = true) :=
    System.Policy.free_permits config event
  obtain ⟨settled, -, agree⟩ := publication_path_independent emptySource_fresh
    (System.Run.of_play free played) (System.Run.of_play free playedOne)
    (System.Run.of_play free playedTwo)
  exact ⟨middle, one, two, played, playedOne, playedTwo, published, published', settled,
    agree (Option.isSome_iff_ne_none.mp selected) (.inl (Option.isSome_iff_ne_none.mp captured))⟩

end Samples

end SourceCustody

end AgentBash
