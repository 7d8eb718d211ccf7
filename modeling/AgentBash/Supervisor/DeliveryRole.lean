import Mathlib.Algebra.Group.Nat.Defs
import Mathlib.Logic.Function.Basic

/-!
# The shared slot of the delivery role

`delivery_role.rs`, one atomic operation at a time. The supervisor and, after it, the guardian fork
custodians, reap children and ask for confirmations; the custodians run by themselves. Each of them
can die between any two operations. The process table holds the children that have not been reaped,
so that no number in it is given to a new process.
-/

namespace AgentBash

set_option autoImplicit false

namespace DeliveryRole

/-- The shared words: a custodian, its negation after its drain, `unknown` or zero. -/
structure Role where
  pid : Int := 0
  challenge : Nat := 0
  acknowledged : Nat := 0
  deriving DecidableEq, Repr

def unknown : Int := -1

namespace Role

def compareExchange (role : Role) (current new : Int) : Role :=
  if role.pid = current then { role with pid := new } else role

def publish (role : Role) (pid : Int) : Role × Bool :=
  (role.compareExchange 0 pid, role.pid = 0)

/-- Only the role custodian calls this, when it has no child. -/
def drained (role : Role) (pid : Int) : Role := role.compareExchange pid (-pid)

def retiredSlot (value pid : Int) : Int :=
  if value = pid then unknown else if value = -pid then 0 else value

/-- What `before_reap` does with the value that it loaded. -/
def beforeReap (role : Role) (value pid : Int) : Role :=
  let retired := retiredSlot value pid
  if retired ≠ value then role.compareExchange value retired else role

def guardianTreeDrained (role : Role) : Role := role.compareExchange unknown 0

/-- Never reuse a challenge, including on overflow. -/
def nextChallenge (role : Role) : Option Nat :=
  if role.challenge + 1 < 2 ^ 64 then some (role.challenge + 1) else none

/-- The custodian to leave out of signalling, given the answers of `pidfd_open` and `poll`. -/
def exclusion (role : Role) (live : Except String Bool) : Except String (Option Int) :=
  if role.pid = 0 then .ok none
  else if role.pid = unknown then .error "delivery custodian lost; role unknown"
  else if role.pid < unknown then .ok none
  else
    match live with
    | .error error => .error error
    | .ok false => .error "delivery custodian not live; retain role responsibility"
    | .ok true => .ok (some role.pid)

end Role

section Custodians

/-- The admission gate, as its reader finds it. -/
inductive Gate
  | waiting | admitted | closed
  deriving DecidableEq, Repr

/-- Where a custodian stands: before it does what the name says. -/
inductive Place
  | reading
  | preparing
  | adopting
  | forking
  | acknowledging
  | answering (challenge : Nat)
  | collecting
  | certifying
  | exiting
  deriving DecidableEq, Repr

/-- A forked custodian; `offspring` counts the processes below it, which it has to collect. -/
structure Custodian where
  place : Place := .reading
  gate : Gate := .waiting
  offspring : Nat := 0
  deriving DecidableEq, Repr

/-- What a step does, as far as the protocol speaks of it. -/
inductive Event
  | publish (pid : Int) (accepted : Bool)
  | certify (pid : Int)
  | observe (pid : Int)
  | load (pid : Int)
  | retire (pid : Int)
  | reap (pid : Int)
  | prove
  | exclude (found : Except String (Option Int))
  | challenge (pid : Int) (number : Nat)
  | acknowledge (pid : Int) (number : Nat)
  | confirm (pid : Int) (number : Nat)
  | quiet

/-- The child branch of `start_completion_delivery`, with `run_custodian`. -/
inductive Custodian.Step (pid : Int) : Role → Custodian → Event → Role → Custodian → Prop
  | admitted {role offspring} :
      Step pid role ⟨.reading, .admitted, offspring⟩ .quiet role ⟨.preparing, .admitted, offspring⟩
  | not_admitted {role offspring} :
      Step pid role ⟨.reading, .closed, offspring⟩ .quiet role ⟨.certifying, .closed, offspring⟩
  | prepared {role gate offspring} :
      Step pid role ⟨.preparing, gate, offspring⟩ .quiet role ⟨.adopting, gate, offspring⟩
  | not_prepared {role gate offspring} :
      Step pid role ⟨.preparing, gate, offspring⟩ .quiet role ⟨.certifying, gate, offspring⟩
  | subreaper {role gate offspring} :
      Step pid role ⟨.adopting, gate, offspring⟩ .quiet role ⟨.forking, gate, offspring⟩
  | no_subreaper {role gate offspring} :
      Step pid role ⟨.adopting, gate, offspring⟩ .quiet role ⟨.certifying, gate, offspring⟩
  | forked {role gate offspring} :
      Step pid role ⟨.forking, gate, offspring⟩ .quiet role ⟨.acknowledging, gate, offspring + 1⟩
  | not_forked {role gate offspring} :
      Step pid role ⟨.forking, gate, offspring⟩ .quiet role ⟨.certifying, gate, offspring⟩
  | loaded {role gate offspring} :
      Step pid role ⟨.acknowledging, gate, offspring⟩ .quiet role
        ⟨.answering role.challenge, gate, offspring⟩
  | stored {role gate offspring number} :
      Step pid role ⟨.answering number, gate, offspring⟩ (.acknowledge pid number)
        { role with acknowledged := number } ⟨.collecting, gate, offspring⟩
  -- nothing to collect yet, an interruption or another error
  | nothing {role gate offspring} :
      Step pid role ⟨.collecting, gate, offspring⟩ .quiet role ⟨.acknowledging, gate, offspring⟩
  | collected {role gate offspring} :
      Step pid role ⟨.collecting, gate, offspring + 1⟩ .quiet role ⟨.acknowledging, gate, offspring⟩
  -- `ECHILD`
  | no_child {role gate} :
      Step pid role ⟨.collecting, gate, 0⟩ .quiet role ⟨.certifying, gate, 0⟩
  | certified {role gate offspring} :
      Step pid role ⟨.certifying, gate, offspring⟩ (.certify pid) (role.drained pid)
        ⟨.exiting, gate, offspring⟩
  -- a subreaper keeps every descendant until the last one is collected
  | descendants {role place gate offspring more} :
      Step pid role ⟨place, gate, offspring + 1⟩ .quiet role ⟨place, gate, more + 1⟩

end Custodians

section Daemons

inductive Party
  | supervisor | guardian
  deriving DecidableEq, Repr

/-- A child that has not been reaped; workload has no `custody`. -/
structure Process where
  parent : Party
  zombie : Bool := false
  custody : Option Custodian := none
  deriving DecidableEq, Repr

/-- A child whose parent is gone. A gate that nobody holds any more is closed. -/
def Process.adopted (process : Process) : Process :=
  { process with
    parent := .guardian
    custody := process.custody.map fun custodian =>
      if custodian.gate = .waiting then { custodian with gate := .closed } else custodian }

/-- Where a reaper stands: in `start_completion_delivery` after the fork, in `reap_one`, in
`confirm_role`, or, as a guardian, after `ECHILD`. -/
inductive Position
  | idle
  | forked (pid : Int)
  | admitting (pid : Int)
  | refusing (pid : Int)
  | retiring (pid : Int)
  | exchanging (pid value : Int)
  | reaping (pid : Int)
  | confirming (pid : Int)
  | challenged (pid : Int) (number : Nat)
  | checking (pid : Int) (number : Nat)
  | proving
  deriving DecidableEq, Repr

/-- The guardian waits for the supervisor before it does anything. -/
inductive Phase
  | supervising (position : Position)
  | orphaned
  | guarding (position : Position)
  deriving DecidableEq, Repr

def Party.at_ : Party → Position → Phase
  | .supervisor => .supervising
  | .guardian => .guarding

structure State where
  role : Role
  phase : Phase
  table : Int → Option Process

/-- A party gets a child by its own fork, from below one of its children, or, as a guardian, from
below the supervisor. -/
def State.Gains (state : State) (party : Party) : Prop :=
  state.phase = party.at_ .idle ∨
    (∃ pid process, state.table pid = some process ∧ process.parent = party) ∨
    (party = .guardian ∧ ∃ position, state.phase = .supervising position)

/-- `ECHILD` for the guardian, whose last other child was the supervisor. -/
def State.TreeEmpty (state : State) : Prop :=
  (∃ position, state.phase = .guarding position) ∧
    ∀ pid process, state.table pid = some process → process.parent ≠ .guardian

def State.put (state : State) (pid : Int) (process : Option Process) : Int → Option Process :=
  Function.update state.table pid process

/-- The processes that a death leaves to the parent: some, when a custodian had any below it. -/
structure State.Leaves (state : State) (process : Process) (orphans : Int → Option Process) : Prop where
  fresh : ∀ pid orphan, orphans pid = some orphan →
    state.table pid = none ∧ 1 < pid ∧ orphan.parent = process.parent ∧ orphan.custody = none
  all : ∀ custodian, process.custody = some custodian → 0 < custodian.offspring →
    ∃ pid, orphans pid ≠ none

/-- One atomic operation of one of the parties, or one death. -/
inductive Step : State → Event → State → Prop
  -- `start_completion_delivery`
  | fork {state} {party : Party} {pid} (stands : state.phase = party.at_ .idle) (fresh : state.table pid = none)
      (valid : 1 < pid) :
      Step state .quiet { state with
        phase := party.at_ (.forked pid)
        table := state.put pid (some { parent := party, custody := some {} }) }
  | publish {state} {party : Party} {pid} (stands : state.phase = party.at_ (.forked pid)) :
      Step state (.publish pid (state.role.publish pid).2) { state with
        role := (state.role.publish pid).1
        phase := party.at_ (if (state.role.publish pid).2 then .admitting pid else .refusing pid) }
  | openGate {state} {party : Party} {pid process custodian} (stands : state.phase = party.at_ (.admitting pid))
      (found : state.table pid = some process) (role : process.custody = some custodian) :
      Step state .quiet { state with
        phase := party.at_ .idle
        table := state.put pid
          (some { process with custody := some { custodian with gate := .admitted } }) }
  | refuse {state} {party : Party} {pid process custodian} (stands : state.phase = party.at_ (.refusing pid))
      (found : state.table pid = some process) (role : process.custody = some custodian) :
      Step state .quiet { state with
        phase := party.at_ .idle
        table := state.put pid
          (some { process with custody := some { custodian with gate := .closed } }) }
  -- `reap_one`
  | observe {state} {party : Party} {pid process} (stands : state.phase = party.at_ .idle)
      (found : state.table pid = some process) (child : process.parent = party)
      (zombie : process.zombie = true) :
      Step state (.observe pid) { state with phase := party.at_ (.retiring pid) }
  | load {state} {party : Party} {pid} (stands : state.phase = party.at_ (.retiring pid)) :
      Step state (.load pid) { state with phase := party.at_ (.exchanging pid state.role.pid) }
  | retire {state} {party : Party} {pid value} (stands : state.phase = party.at_ (.exchanging pid value)) :
      Step state (.retire pid) { state with
        role := state.role.beforeReap value pid
        phase := party.at_ (.reaping pid) }
  | reap {state} {party : Party} {pid} (stands : state.phase = party.at_ (.reaping pid)) :
      Step state (.reap pid) { state with
        phase := party.at_ .idle
        table := state.put pid none }
  -- `exclusion`, whose only look at the slot is one load
  | exclude {state} {party : Party} (stands : state.phase = party.at_ .idle) (live : Except String Bool) :
      Step state (.exclude (state.role.exclusion live)) state
  -- `confirm_role`; a call that is refused at once changes nothing
  | confirm {state} {party : Party} {pid} (stands : state.phase = party.at_ .idle) (named : state.role.pid = pid) :
      Step state .quiet { state with phase := party.at_ (.confirming pid) }
  | challenge {state} {party : Party} {pid number} (stands : state.phase = party.at_ (.confirming pid))
      (next : state.role.nextChallenge = some number) :
      Step state (.challenge pid number) { state with
        role := { state.role with challenge := number }
        phase := party.at_ (.challenged pid number) }
  | overflow {state} {party : Party} {pid} (stands : state.phase = party.at_ (.confirming pid))
      (none_ : state.role.nextChallenge = none) :
      Step state .quiet { state with phase := party.at_ .idle }
  | named {state} {party : Party} {pid number} (stands : state.phase = party.at_ (.challenged pid number))
      (named : state.role.pid = pid) :
      Step state .quiet { state with phase := party.at_ (.checking pid number) }
  | not_named {state} {party : Party} {pid number} (stands : state.phase = party.at_ (.challenged pid number))
      (other : state.role.pid ≠ pid) :
      Step state .quiet { state with phase := party.at_ .idle }
  | confirmed {state} {party : Party} {pid number} (stands : state.phase = party.at_ (.checking pid number))
      (same : state.role.acknowledged = number) :
      Step state (.confirm pid number) { state with phase := party.at_ .idle }
  | unanswered {state} {party : Party} {pid number} (stands : state.phase = party.at_ (.checking pid number))
      (other : state.role.acknowledged ≠ number) :
      Step state .quiet { state with phase := party.at_ (.challenged pid number) }
  | deadline {state} {party : Party} {pid number} (stands : state.phase = party.at_ (.checking pid number))
      (other : state.role.acknowledged ≠ number) :
      Step state .quiet { state with phase := party.at_ .idle }
  -- the guardian
  | takeOver {state} (stands : state.phase = .orphaned) :
      Step state .quiet { state with phase := .guarding .idle }
  | noChild {state} (stands : state.phase = .guarding .idle) (empty : state.TreeEmpty) :
      Step state .quiet { state with phase := .guarding .proving }
  | prove {state} (stands : state.phase = .guarding .proving) :
      Step state .prove { state with
        role := state.role.guardianTreeDrained
        phase := .guarding .idle }
  -- custodians, other children and deaths
  | custodian {state pid parent before event role after}
      (found : state.table pid = some ⟨parent, false, some before⟩)
      (step : Custodian.Step pid state.role before event role after) :
      Step state event { state with
        role
        table := state.put pid (some ⟨parent, false, some after⟩) }
  | spawn {state} {party : Party} {pid} (source : state.Gains party) (fresh : state.table pid = none)
      (valid : 1 < pid) :
      Step state .quiet { state with table := state.put pid (some { parent := party }) }
  | die {state pid process orphans} (found : state.table pid = some process)
      (alive : process.zombie = false) (leaves : state.Leaves process orphans) :
      Step state .quiet { state with
        table := fun other =>
          if other = pid then some { process with zombie := true }
          else (state.table other).or (orphans other) }
  | loseSupervisor {state position} (stands : state.phase = .supervising position) :
      Step state .quiet { state with
        phase := .orphaned
        table := fun pid => (state.table pid).map Process.adopted }

/-- The daemon after the fork of the supervisor, with any workload but no custodian. -/
structure Start (state : State) : Prop where
  role : state.role = {}
  phase : state.phase = .supervising .idle
  table : ∀ pid process, state.table pid = some process → 1 < pid ∧ process.custody = none

structure Transition where
  before : State
  event : Event
  after : State

inductive Run (start : State) : List Transition → State → Prop
  | nothing : Run start [] start
  | more {history before event after} (run : Run start history before)
      (step : Step before event after) : Run start (history ++ [⟨before, event, after⟩]) after

end Daemons

end DeliveryRole

end AgentBash
