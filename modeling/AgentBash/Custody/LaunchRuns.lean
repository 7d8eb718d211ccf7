import AgentBash.Custody.LaunchProcesses
import AgentBash.Retention.Evidence

/-!
# A source is launched once or never

What every run of registrations, supervisors, workloads, guardians and recoveries over one source
directory keeps to, however they interleave, fail and are killed.
-/

namespace AgentBash

set_option autoImplicit false

open Durable

namespace SourceCustody

/-- The phases that follow each other. -/
inductive Phase.Next : Phase → Phase → Prop
  | confirm : Next .unreleased .mayLaunch
  | revoke : Next .unreleased .revokedNeverLaunched
  | launch : Next .mayLaunch .launched

abbrev Phase.Leads : Phase → Phase → Prop := Relation.ReflTransGen Phase.Next

/-- A fence of a directory stands in a phase. -/
def StandsIn (disk : CustodyDisk) (phase : Phase) (fence : Value) : Prop :=
  disk.files SourceFile.fence = some fence ∧ InPhase fence phase

/-- How a directory, its workloads and its selected event agree on the launch. -/
structure LaunchSettled (disk : CustodyDisk) : Prop where
  phased : ∀ fence, disk.files SourceFile.fence = some fence → ∃ phase, InPhase fence phase
  released : ∀ child ∈ disk.world.released, ∃ fence, StandsIn disk .launched fence ∧
    fence.get "workload_identity" = (disk.world.identityOf child).value
  one : ∀ child ∈ disk.world.released, ∀ other ∈ disk.world.released, child = other
  executed : ∀ child ∈ disk.world.executed, child ∈ disk.world.released
  live : ∀ selection : Value, disk.files SourceFile.selection = some selection →
    ¬ Tells .neverLaunched (selection.get "observation") →
    ∃ phase fence, StandsIn disk phase fence ∧ (phase = .mayLaunch ∨ phase = .launched)
  never : ∀ selection : Value, disk.files SourceFile.selection = some selection →
    Tells .neverLaunched (selection.get "observation") →
    (∃ fence, StandsIn disk .revokedNeverLaunched fence) ∧ disk.world.released = []

/-- What was settled is not taken back. -/
structure LaunchKept (before after : CustodyDisk) : Prop where
  fence : ∀ phase fence, StandsIn before phase fence →
    ∃ later fence', StandsIn after later fence' ∧ phase.Leads later
  released : ∀ child ∈ before.world.released, child ∈ after.world.released
  executed : ∀ child ∈ before.world.executed, child ∈ after.world.executed
  selection : ∀ selection, before.files SourceFile.selection = some selection →
    after.files SourceFile.selection = some selection

section Readings

theorem leads_of_reaches {before after : LaunchState} {phase : Phase}
    (reaches : Reaches before after) (stands : before.phase? = some phase) :
    ∃ later, after.phase? = some later ∧ phase.Leads later := by
  induction reaches with
  | refl => exact ⟨phase, stands, .refl⟩
  | tail _ decides ih =>
      obtain ⟨middle, same, leads⟩ := ih
      cases decides <;> cases same
      · exact ⟨_, rfl, leads.tail .confirm⟩
      · exact ⟨_, rfl, leads.tail .revoke⟩
      · exact ⟨_, rfl, leads.tail .launch⟩

theorem standsIn_of_shows {view : View} {phase : Phase}
    (valid : Shows view.1.world.identityOf (view.1.files SourceFile.fence) view.2)
    (state : view.2.phase? = some phase) :
    ∃ fence, StandsIn view.1 phase fence ∧ ∀ child, view.2 = .launched child →
      fence.get "workload_identity" = (view.1.world.identityOf child).value := by
  simp only [Shows, state] at valid
  obtain ⟨fence, there, inPhase, names⟩ := valid
  exact ⟨fence, ⟨there, inPhase⟩, names⟩

theorem phase_of_admitted {state : LaunchState} (admitted : state.Admitted) :
    ∃ phase, state.phase? = some phase ∧ (phase = .mayLaunch ∨ phase = .launched) := by
  cases state with
  | mayLaunch => exact ⟨_, rfl, .inl rfl⟩
  | launched child => exact ⟨_, rfl, .inr rfl⟩
  | unprepared => cases admitted
  | unreleased => cases admitted
  | revoked => cases admitted

theorem settled_of_inv {view : View} (inv : launching.Inv view) : LaunchSettled view.1 := by
  have valid : Shows view.1.world.identityOf (view.1.files SourceFile.fence) view.2 := inv.valid
  have selected : ∀ selection : Value, view.1.files SourceFile.selection = some selection →
      Truthful view.2 selection := inv.backed.selection
  have launched : ∀ child ∈ view.1.world.released, view.2 = .launched child := inv.backed.released
  have executed : ∀ child ∈ view.1.world.executed, child ∈ view.1.world.released :=
    inv.backed.executed
  refine ⟨fun fence there => ?_, fun child inside => ?_, fun child inside other inside' => ?_,
    executed, fun selection there live => ?_, fun selection there never => ?_⟩
  · cases state : view.2.phase? with
    | none =>
        simp only [Shows, state, there] at valid
        cases valid
    | some phase =>
        obtain ⟨_, ⟨there', inPhase⟩, -⟩ := standsIn_of_shows valid state
        rw [there] at there'
        cases there'
        exact ⟨phase, inPhase⟩
  · obtain ⟨fence, stands, names⟩ := standsIn_of_shows valid
      (congrArg LaunchState.phase? (launched child inside))
    exact ⟨fence, stands, names child (launched child inside)⟩
  · have same := (launched child inside).symm.trans (launched other inside')
    exact LaunchState.launched.inj same
  · have truthful := selected selection there
    rw [Truthful, if_neg live] at truthful
    obtain ⟨phase, state, which⟩ := phase_of_admitted truthful
    obtain ⟨fence, stands, -⟩ := standsIn_of_shows valid state
    exact ⟨phase, fence, stands, which⟩
  · have truthful := selected selection there
    rw [Truthful, if_pos never] at truthful
    obtain ⟨fence, stands, -⟩ := standsIn_of_shows valid (congrArg LaunchState.phase? truthful)
    refine ⟨⟨fence, stands⟩, List.eq_nil_iff_forall_not_mem.mpr fun child inside => ?_⟩
    have impossible := truthful.symm.trans (launched child inside)
    cases impossible

theorem kept_of_grown {before after : View} (inv : launching.Inv before)
    (inv' : launching.Inv after) (grown : launching.Grown before after) :
    LaunchKept before.1 after.1 := by
  refine ⟨?_, grown.notes.released, grown.notes.executed, grown.notes.selection⟩
  intro phase fence stands
  obtain ⟨state, -⟩ := shown_of_named inv.valid stands.1 stands.2.named
  obtain ⟨later, state', leads⟩ := leads_of_reaches grown.value.state state
  obtain ⟨fence', stands', -⟩ := standsIn_of_shows inv'.valid state'
  exact ⟨later, fence', stands', leads⟩

end Readings

abbrev CustodyConfig := Config (requests custodyLayout custodyOutside) CustodyDisk

structure FreshSource (start : CustodyConfig) : Prop where
  idle : ∀ pid, start.procs pid = none
  free : ∀ name, start.state.held name = []
  empty : ∀ file, start.state.files file = none
  unreleased : start.state.world.released = []
  unexecuted : start.state.world.executed = []

section Runs

variable [Codec] {site : Site} {start middle final : CustodyConfig}

theorem fresh_good (fresh : FreshSource start) :
    (launchDiscipline site).Good (System.Policy.free (custodySystem site)) start .unprepared := by
  apply Owned.good_of_idle fresh.idle fresh.free
  · exact fresh.empty .fence
  · refine ⟨fun selection there => ?_, fun child inside => ?_, fun child inside => ?_⟩
    · have absent := (fresh.empty .selection).symm.trans there
      cases absent
    · have inside : child ∈ start.state.world.released := inside
      rw [fresh.unreleased] at inside
      cases inside
    · have inside : child ∈ start.state.world.executed := inside
      rw [fresh.unexecuted] at inside
      cases inside

/-- However registrations, supervisors, workloads, guardians and recoveries interleave, fail and are
killed, the launch is decided once: at most one workload is ever let go, it is the incarnation that
the launched fence names, and where a never launched source was selected there is none. -/
theorem launch_once (fresh : FreshSource start)
    (first : System.Run (System.Policy.free (custodySystem site)) start middle)
    (second : System.Run (System.Policy.free (custodySystem site)) middle final) :
    LaunchSettled final.state ∧ LaunchKept middle.state final.state := by
  obtain ⟨ghost, good, -⟩ := run_grows launch_closed (fresh_good fresh) first
  obtain ⟨later, good', grown⟩ := run_grows launch_closed good second
  exact ⟨settled_of_inv good'.1.2, kept_of_grown good.1.2 good'.1.2 grown⟩

end Runs

section Samples

def asyncSite : Site := ⟨⟨"/spool", "/spool/handle", "handle"⟩, "@owner"⟩

def sealedEnvironment : String := "0123456789abcdef0123456789abcdef0123456789abcdef0123456789abcdef"

def asyncMeta : SourceMeta where
  mode := .exit
  helperPath := "/helper"
  helperSha256 := "helper"
  environmentSha256 := some sealedEnvironment
  pinnedHelper := true
  ownerSessionId := some "session"
  ownerInvocationUuid := some "invocation"
  deliveryMode := .async
  rc := none
  completionReason := none
  cancelOwner := none

def emptySource : CustodyConfig where
  state :=
    { files := fun _ => none, held := fun _ => [], next := 0, ended := fun _ => none
      parent := fun _ => none, gates := fun _ => .waiting
      world := { identityOf := fun pid => ⟨pid, 7, "boot"⟩ } }
  procs _ := none

theorem emptySource_fresh : FreshSource emptySource :=
  ⟨fun _ => rfl, fun _ => rfl, fun _ => rfl, rfl, rfl⟩

section Events

variable [Codec]

abbrev answers (pid : Nat) (choice : CustodyChoice) : Event (custodySystem asyncSite) :=
  .step pid (.outside choice)

abbrev passes (pid count : Nat) : List (Event (custodySystem asyncSite)) :=
  List.replicate count (.step pid .pass)

def capabilityReply : Value :=
  .object [("protocol", .string continuationProtocol), ("domain_id", .string "domain")]

def helloReply : Value :=
  .object [("protocol", .string continuationProtocol), ("domain_id", .string "domain"),
    ("endpoint", .string "@owner"), ("guardian_identity", (CallerChainEntry.mk 900 7 "boot").value),
    ("driver_identity", (CallerChainEntry.mk 901 7 "boot").value)]

def committedReply : Value :=
  let registration := registrationValue asyncSite asyncMeta "domain" "scope" "session" "invocation"
    sealedEnvironment ⟨"source", "registration", ⟨0, 7, "boot"⟩, "digest"⟩
  [("status", .string "registered"), ("registration_committed", .bool true),
    ("continuation_owner_domain", .string "domain"), ("listener_revision", .number 1),
    ("listeners", registration.get "listeners")].foldl
      (fun reply (key, assigned) => reply.set key assigned) (common registration "digest")

/-- The worker 0 prepares the source, has it registered and becomes the guardian of 1. -/
def confirmedLaunch (turns guardian : List Turn) : List (Event (custodySystem asyncSite)) :=
  [.enter (.worker asyncMeta "scope" turns guardian), answers 0 (.value capabilityReply),
    answers 0 (.value helloReply), answers 0 .agree, answers 0 .agree, answers 0 .agree,
    answers 0 (.bytes [1])] ++ passes 0 4 ++
  [answers 0 .agree, answers 0 (.text "source"), answers 0 (.text "registration")] ++ passes 0 10 ++
  [answers 0 .agree, answers 0 (.helper (.response committedReply))] ++ passes 0 3 ++
  [answers 0 .agree] ++ passes 0 11 ++ [answers 0 .agree, answers 0 .agree, .fork 0]

/-- The supervisor 1 forks the workload 2, publishes its launch and lets it go. -/
def releasedLaunch : List (Event (custodySystem asyncSite)) :=
  passes 1 1 ++ [answers 1 .agree, .fork 1] ++ passes 1 4 ++ [answers 1 .agree] ++ passes 1 3 ++
  [answers 1 .agree, answers 2 .agree, answers 2 .agree]

end Events

local instance : Codec := flatCodec fun _ => "digest"

theorem releasedLaunch_executed :
    (((custodySystem asyncSite).play (fun _ _ => true) (confirmedLaunch [] []) emptySource).bind
      fun middle => ((custodySystem asyncSite).play (fun _ _ => true) releasedLaunch middle).map
        fun final => final.state.world.executed) = some [2] := by
  decide +kernel

/-- A launch that took place: the fence names the incarnation 2. -/
theorem launch_once_released : ∃ middle final,
    (custodySystem asyncSite).play (fun _ _ => true) (confirmedLaunch [] []) emptySource =
        some middle ∧
      (custodySystem asyncSite).play (fun _ _ => true) releasedLaunch middle = some final ∧
      final.state.world.executed = [2] ∧
      LaunchSettled final.state ∧ LaunchKept middle.state final.state := by
  obtain ⟨middle, played, rest⟩ := Option.bind_eq_some_iff.mp releasedLaunch_executed
  obtain ⟨final, played', executed⟩ := Option.map_eq_some_iff.mp rest
  have free (config : CustodyConfig) (event : Event (custodySystem asyncSite)) (_ : true = true) :=
    System.Policy.free_permits config event
  exact ⟨middle, final, played, played', executed, launch_once emptySource_fresh
    (System.Run.of_play free played) (System.Run.of_play free played')⟩

end Samples

end SourceCustody

end AgentBash
