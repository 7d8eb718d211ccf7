import AgentBash.Supervisor.DeliveryRole

/-!
# Custody of the delivery role over whole runs

A positive slot names a custodian that has not been reaped, and so does a negative one; a custodian
that was admitted is named until it has no child left. Both hold between any two operations, since
only the reaper of a custodian frees its number, and only after it has looked at the slot.
-/

namespace AgentBash

set_option autoImplicit false

namespace DeliveryRole

abbrev State.slot (state : State) : Int := state.role.pid

def Names (slot pid : Int) : Prop := slot = pid ∨ slot = -pid

/-- The places from which a custodian collects its children. -/
def Place.collects : Place → Bool
  | .acknowledging | .answering _ | .collecting => true
  | _ => false

structure CustodianSound (slot pid : Int) (zombie : Bool) (custodian : Custodian) : Prop where
  lonely : custodian.place.collects = false → custodian.offspring = 0
  waiting : custodian.gate = .waiting → custodian.place = .reading
  closed : custodian.gate = .closed →
    custodian.place = .reading ∨ custodian.place = .certifying ∨ custodian.place = .exiting
  named : zombie = false → custodian.gate = .admitted → custodian.place ≠ .exiting → slot = pid

/-- A custodian whose gate is still held by the one that forked it. -/
def State.Unadmitted (state : State) (party : Party) (pid : Int) : Prop :=
  ∃ zombie custodian, state.table pid = some ⟨party, zombie, some custodian⟩ ∧
    custodian.gate = .waiting

def State.Waitable (state : State) (party : Party) (pid : Int) : Prop :=
  ∃ custody, state.table pid = some ⟨party, true, custody⟩

/-- What a reaper knows at its position. -/
def PositionSound (state : State) (party : Party) : Position → Prop
  | .idle => True
  | .forked pid => state.Unadmitted party pid ∧ ¬ Names state.slot pid
  | .admitting pid => state.Unadmitted party pid ∧ state.slot = pid
  | .refusing pid => state.Unadmitted party pid
  | .retiring pid => state.Waitable party pid
  | .exchanging pid value =>
      state.Waitable party pid ∧ (Names state.slot pid ∨ Names value pid → state.slot = value)
  | .reaping pid => state.Waitable party pid ∧ ¬ Names state.slot pid
  | .confirming pid | .challenged pid _ | .checking pid _ =>
      state.slot = pid ∨ state.slot = -pid ∧ 1 < pid
  | .proving => state.TreeEmpty

structure Sound (state : State) : Prop where
  pids : ∀ pid process, state.table pid = some process → 1 < pid
  slot : state.slot = 0 ∨ state.slot = unknown ∨ ∃ pid process custodian, Names state.slot pid ∧
    state.table pid = some process ∧ process.custody = some custodian
  custodians : ∀ pid process custodian, state.table pid = some process →
    process.custody = some custodian → CustodianSound state.slot pid process.zombie custodian
  position : ∀ party position, state.phase = party.at_ position → PositionSound state party position

theorem Start.sound {state : State} (start : Start state) : Sound state where
  pids pid process found := (start.table pid process found).1
  slot := .inl (congrArg Role.pid start.role)
  custodians pid process custodian found custody := by
    rw [(start.table pid process found).2] at custody
    cases custody
  position party position stands := by
    rw [start.phase] at stands
    cases party with
    | supervisor =>
        cases stands
        trivial
    | guardian => cases stands

section Slots

variable {role after : Role} {slot pid other : Int} {party : Party} {one two : Position}

theorem Party.at_injective {party other : Party} (same : party.at_ one = other.at_ two) :
    party = other ∧ one = two := by
  cases party <;> cases other <;> cases same
  · exact ⟨rfl, rfl⟩
  · exact ⟨rfl, rfl⟩

theorem names_unique (one : Names slot pid) (two : Names slot other) (is_pid : 1 < pid)
    (is_other : 1 < other) : pid = other := by
  unfold Names at one two
  omega

theorem not_names_unknown (is_pid : 1 < pid) : ¬ Names unknown pid := by
  unfold Names unknown
  omega

theorem not_names_zero (is_pid : 1 < pid) : ¬ Names 0 pid := by
  unfold Names
  omega

theorem publish_pid : (role.publish pid).1.pid = if role.pid = 0 then pid else role.pid := by
  unfold Role.publish Role.compareExchange
  split
  · rfl
  · rfl

theorem drained_pid : (role.drained pid).pid = if role.pid = pid then -pid else role.pid := by
  unfold Role.drained Role.compareExchange
  split
  · rfl
  · rfl

theorem guardianTreeDrained_pid :
    role.guardianTreeDrained.pid = if role.pid = unknown then 0 else role.pid := by
  unfold Role.guardianTreeDrained Role.compareExchange
  split
  · rfl
  · rfl

/-- The slot after `before_reap`, which no one could change under the reaper of its custodian. -/
theorem beforeReap_pid {value : Int} (loaded : Names role.pid pid ∨ Names value pid → role.pid = value) :
    (role.beforeReap value pid).pid = Role.retiredSlot role.pid pid := by
  by_cases named : Names role.pid pid ∨ Names value pid
  · have same := loaded named
    unfold Role.beforeReap
    simp only
    rw [same]
    split
    · rw [Role.compareExchange, if_pos same]
    · next unchanged =>
      rw [not_not] at unchanged
      rw [unchanged, same]
  · rw [not_or, Names, not_or, Names, not_or] at named
    have retired : Role.retiredSlot value pid = value := by
      rw [Role.retiredSlot, if_neg named.2.1, if_neg named.2.2]
    have kept : role.beforeReap value pid = role := by
      unfold Role.beforeReap
      simp only
      rw [retired, if_neg (not_not.mpr rfl)]
    rw [kept, Role.retiredSlot, if_neg named.1.1, if_neg named.1.2]

end Slots

section Custodians

variable {role after_ : Role} {pid : Int} {before after : Custodian} {event : Event}

/-- From the inner places a custodian goes on with the gate that it has. -/
theorem CustodianSound.goesOn {slot : Int} {place next : Place} {gate : Gate} {offspring more : Nat}
    (sound : CustodianSound slot pid false ⟨place, gate, offspring⟩)
    (inner : place ≠ .reading ∧ place ≠ .certifying ∧ place ≠ .exiting)
    (lonely : next.collects = false → more = 0) :
    CustodianSound slot pid false ⟨next, gate, more⟩ where
  lonely := lonely
  waiting waits := absurd (sound.waiting waits) inner.1
  closed closes := by
    rcases sound.closed closes with at_ | at_ | at_
    · exact absurd at_ inner.1
    · exact absurd at_ inner.2.1
    · exact absurd at_ inner.2.2
  named _ admitted _ := sound.named rfl admitted inner.2.2

/-- A step of a custodian that is alive: it changes the slot only from its own number. -/
theorem Custodian.Step.sound (step : Custodian.Step pid role before event after_ after)
    (sound : CustodianSound role.pid pid false before) :
    CustodianSound after_.pid pid false after ∧
      (after_.pid = role.pid ∨ role.pid = pid ∧ after_.pid = -pid ∧ event = .certify pid ∧
        before.offspring = 0) := by
  cases step with
  | admitted =>
      refine ⟨⟨fun _ => sound.lonely rfl, nofun, nofun, fun _ _ _ => ?_⟩, .inl rfl⟩
      exact sound.named rfl rfl nofun
  | not_admitted =>
      exact ⟨⟨fun _ => sound.lonely rfl, nofun, fun _ => .inr (.inl rfl), nofun⟩, .inl rfl⟩
  | prepared => exact ⟨sound.goesOn (by decide) fun _ => sound.lonely rfl, .inl rfl⟩
  | not_prepared => exact ⟨sound.goesOn (by decide) fun _ => sound.lonely rfl, .inl rfl⟩
  | subreaper => exact ⟨sound.goesOn (by decide) fun _ => sound.lonely rfl, .inl rfl⟩
  | no_subreaper => exact ⟨sound.goesOn (by decide) fun _ => sound.lonely rfl, .inl rfl⟩
  | forked => exact ⟨sound.goesOn (by decide) nofun, .inl rfl⟩
  | not_forked => exact ⟨sound.goesOn (by decide) fun _ => sound.lonely rfl, .inl rfl⟩
  | loaded => exact ⟨sound.goesOn (by decide) nofun, .inl rfl⟩
  | stored => exact ⟨sound.goesOn ⟨nofun, nofun, nofun⟩ nofun, .inl rfl⟩
  | nothing => exact ⟨sound.goesOn (by decide) nofun, .inl rfl⟩
  | collected => exact ⟨sound.goesOn (by decide) nofun, .inl rfl⟩
  | no_child => exact ⟨sound.goesOn (by decide) fun _ => rfl, .inl rfl⟩
  | certified =>
      refine ⟨⟨fun _ => sound.lonely rfl, fun waits => ?_, fun _ => .inr (.inr rfl),
        fun _ _ other => absurd rfl other⟩, ?_⟩
      · exact absurd (sound.waiting waits) nofun
      · rw [drained_pid]
        split
        · next named => exact .inr ⟨named, rfl, rfl, sound.lonely rfl⟩
        · exact .inl rfl
  | @descendants place gate offspring more =>
      have collects : ¬ place.collects = false := fun lonely =>
        absurd (sound.lonely lonely) (Nat.succ_ne_zero _)
      exact ⟨⟨fun lonely => absurd lonely collects, sound.waiting, sound.closed, sound.named⟩, .inl rfl⟩

theorem Custodian.Step.not_waiting (step : Custodian.Step pid role before event after_ after)
    (sound : CustodianSound role.pid pid false before) : before.gate ≠ .waiting := by
  intro waits
  have reads := sound.waiting waits
  cases step with
  | admitted => cases waits
  | not_admitted => cases waits
  | descendants =>
      have lonely : _ + 1 = 0 := sound.lonely (by rw [reads]; rfl)
      exact Nat.succ_ne_zero _ lonely
  | _ => cases reads

end Custodians

section Steps

variable {state after : State} {event : Event} {held_before moved pid other : Int} {party : Party}

theorem put_self {process : Option Process} : state.put pid process pid = process :=
  Function.update_self _ _ _

theorem put_other {process : Option Process} (differs : other ≠ pid) :
    state.put pid process other = state.table other := Function.update_of_ne differs _ _

theorem Sound.found (sound : Sound state) (named : Names state.slot pid) (is_pid : 1 < pid) :
    ∃ process custodian, state.table pid = some process ∧ process.custody = some custodian := by
  rcases sound.slot with free | lost | ⟨holder, process, custodian, holds, found, role⟩
  · rw [free] at named
    exact absurd named (not_names_zero is_pid)
  · rw [lost] at named
    exact absurd named (not_names_unknown is_pid)
  · rw [names_unique named holds is_pid (sound.pids holder process found)]
    exact ⟨process, custodian, found, role⟩

/-- What a step does to the slot. -/
inductive Moves (state : State) (event : Event) : Int → Prop
  | stays : Moves state event state.slot
  | publishes {pid : Int} (free : state.slot = 0) (does : event = .publish pid true)
      (is_pid : 1 < pid) : Moves state event pid
  | certifies {pid : Int} {parent : Party} {custodian : Custodian} (held : state.slot = pid)
      (is_pid : 1 < pid) (does : event = .certify pid) (alive : state.table pid = some ⟨parent, false, some custodian⟩)
      (childless : custodian.offspring = 0) : Moves state event (-pid)
  | loses {pid : Int} {party : Party} (held : state.slot = pid) (is_pid : 1 < pid)
      (does : event = .retire pid) (dead : state.Waitable party pid) : Moves state event unknown
  | frees {pid : Int} {party : Party} (drained : state.slot = -pid) (is_pid : 1 < pid)
      (does : event = .retire pid) (dead : state.Waitable party pid) : Moves state event 0
  | proves (lost : state.slot = unknown) (does : event = .prove) (empty : state.TreeEmpty) :
      Moves state event 0

theorem Step.moves (step : Step state event after) (sound : Sound state) :
    Moves state event after.slot := by
  cases step with
  | @publish party pid stands =>
      have known : state.Unadmitted party pid ∧ _ := sound.position party _ stands
      obtain ⟨⟨zombie, custodian, found, _⟩, _⟩ := known
      show Moves state _ (state.role.publish pid).1.pid
      rw [publish_pid]
      split
      · next free => exact .publishes free (by simp [Role.publish, free]) (sound.pids _ _ found)
      · exact .stays
  | @retire party pid value stands =>
      have known : state.Waitable party pid ∧ _ := sound.position party _ stands
      obtain ⟨dead, loaded⟩ := known
      have is_pid : 1 < pid := by
        obtain ⟨custody, found⟩ := dead
        exact sound.pids pid _ found
      show Moves state _ (state.role.beforeReap value pid).pid
      rw [beforeReap_pid loaded, Role.retiredSlot]
      split
      · next held => exact .loses held is_pid rfl dead
      · split
        · next drained => exact .frees drained is_pid rfl dead
        · exact .stays
  | prove stands =>
      have empty : state.TreeEmpty := sound.position .guardian _ stands
      show Moves state _ state.role.guardianTreeDrained.pid
      rw [guardianTreeDrained_pid]
      split
      · next lost => exact .proves lost rfl empty
      · exact .stays
  | @custodian pid parent before _ role after found step =>
      have before_sound := sound.custodians pid _ before found rfl
      rcases (step.sound before_sound).2 with same | ⟨held, drained, does, childless⟩
      · show Moves state _ role.pid
        rw [same]
        exact .stays
      · show Moves state _ role.pid
        rw [drained]
        exact .certifies held (sound.pids pid _ found) does found childless
  | _ => exact .stays

theorem pids_put (sound : Sound state) {process : Option Process} (is_pid : 1 < pid) :
    ∀ other found, state.put pid process other = some found → 1 < other := by
  intro other found stands
  by_cases same : other = pid
  · rw [same]
    exact is_pid
  · rw [put_other same] at stands
    exact sound.pids other found stands

theorem Step.pids (step : Step state event after) (sound : Sound state) :
    ∀ pid process, after.table pid = some process → 1 < pid := by
  cases step with
  | fork stands fresh valid => exact pids_put sound valid
  | openGate stands found role => exact pids_put sound (sound.pids _ _ found)
  | refuse stands found role => exact pids_put sound (sound.pids _ _ found)
  | @reap party pid stands =>
      have known : state.Waitable party pid ∧ _ := sound.position party _ stands
      obtain ⟨⟨custody, found⟩, _⟩ := known
      exact pids_put sound (sound.pids _ _ found)
  | custodian found step => exact pids_put sound (sound.pids _ _ found)
  | spawn source fresh valid => exact pids_put sound valid
  | @die pid process orphans found alive leaves =>
      intro other one stands
      simp only at stands
      split at stands
      · next same =>
        rw [same]
        exact sound.pids _ _ found
      · rcases Option.or_eq_some_iff.mp stands with there | ⟨_, orphan⟩
        · exact sound.pids _ _ there
        · exact (leaves.fresh other one orphan).2.1
  | loseSupervisor stands =>
      intro other one stands
      obtain ⟨process, found, _⟩ := Option.map_eq_some_iff.mp stands
      exact sound.pids _ _ found
  | _ => exact sound.pids

/-- What is known of a custodian stays when the slot keeps the number of a live one. -/
theorem CustodianSound.holds {zombie : Bool} {custodian : Custodian}
    (sound : CustodianSound held_before pid zombie custodian)
    (keeps : zombie = false → held_before = pid → moved = pid) :
    CustodianSound moved pid zombie custodian where
  lonely := sound.lonely
  waiting := sound.waiting
  closed := sound.closed
  named alive admitted inside := keeps alive (sound.named alive admitted inside)

/-- What is known of every custodian in a table. -/
def CustodiansSound (slot : Int) (table : Int → Option Process) : Prop :=
  ∀ pid process custodian, table pid = some process → process.custody = some custodian →
    CustodianSound slot pid process.zombie custodian

theorem custodians_put {found : Process} (sound : Sound state)
    (keeps : ∀ other process, other ≠ pid → state.table other = some process →
      process.zombie = false → state.slot = other → moved = other)
    (changed : ∀ custodian, found.custody = some custodian →
      CustodianSound moved pid found.zombie custodian) :
    CustodiansSound moved (state.put pid (some found)) := by
  intro other process custodian stands role
  by_cases same : other = pid
  · subst same
    rw [put_self] at stands
    cases stands
    exact changed custodian role
  · rw [put_other same] at stands
    exact (sound.custodians other process custodian stands role).holds (keeps other process same stands)

/-- The slot may move as long as it keeps the number of every live process. -/
theorem custodians_moved (sound : Sound state)
    (keeps : ∀ other process, state.table other = some process → process.zombie = false →
      state.slot = other → moved = other) : CustodiansSound moved state.table :=
  fun other process custodian found role =>
    (sound.custodians other process custodian found role).holds (keeps other process found)

theorem custodians_opened {party : Party} {process : Process} {custodian : Custodian}
    (sound : Sound state) (stands : state.phase = party.at_ (.admitting pid))
    (found : state.table pid = some process) (role : process.custody = some custodian) :
    CustodiansSound state.slot (state.put pid
      (some { process with custody := some { custodian with gate := .admitted } })) := by
  have known : state.Unadmitted party pid ∧ state.slot = pid := sound.position party _ stands
  obtain ⟨⟨zombie, same, there, waits⟩, held⟩ := known
  cases there.symm.trans found
  cases role
  have before := sound.custodians _ _ _ found rfl
  refine custodians_put sound (fun _ _ _ _ _ held => held) fun other role => ?_
  cases role
  exact ⟨before.lonely, nofun, nofun, fun _ _ _ => held⟩

theorem custodians_refused {party : Party} {process : Process} {custodian : Custodian}
    (sound : Sound state) (stands : state.phase = party.at_ (.refusing pid))
    (found : state.table pid = some process) (role : process.custody = some custodian) :
    CustodiansSound state.slot (state.put pid
      (some { process with custody := some { custodian with gate := .closed } })) := by
  have known : state.Unadmitted party pid := sound.position party _ stands
  obtain ⟨zombie, same, there, waits⟩ := known
  cases there.symm.trans found
  cases role
  have before := sound.custodians _ _ _ found rfl
  refine custodians_put sound (fun _ _ _ _ _ held => held) fun other role => ?_
  cases role
  exact ⟨before.lonely, nofun, fun _ => .inl (before.waiting waits), nofun⟩

theorem custodians_published (sound : Sound state) :
    CustodiansSound (state.role.publish pid).1.pid state.table := by
  refine custodians_moved sound fun other process found _ held => ?_
  have is_pid := sound.pids other process found
  rw [publish_pid, if_neg]
  · exact held
  · have held : state.role.pid = other := held
    omega

theorem custodians_retired {party : Party} {value : Int} (sound : Sound state)
    (stands : state.phase = party.at_ (.exchanging pid value)) :
    CustodiansSound (state.role.beforeReap value pid).pid state.table := by
  have known : state.Waitable party pid ∧ _ := sound.position party _ stands
  obtain ⟨⟨custody, dead⟩, loaded⟩ := known
  refine custodians_moved sound fun other process found alive held => ?_
  have differs : other ≠ pid := by
    rintro rfl
    cases dead.symm.trans found
    cases alive
  have is_pid := sound.pids pid _ dead
  have is_other := sound.pids other process found
  have held : state.role.pid = other := held
  rw [beforeReap_pid loaded, held, Role.retiredSlot, if_neg differs, if_neg (by omega)]

theorem custodians_proved (sound : Sound state) :
    CustodiansSound state.role.guardianTreeDrained.pid state.table := by
  refine custodians_moved sound fun other process found _ held => ?_
  have is_pid := sound.pids other process found
  have held : state.role.pid = other := held
  rw [guardianTreeDrained_pid, if_neg, held]
  unfold unknown
  omega

theorem custodians_reaped (sound : Sound state) :
    CustodiansSound state.slot (state.put pid none) := by
  intro other process custodian found role
  by_cases same : other = pid
  · have removed : state.put pid none pid = none := put_self
    rw [same] at found
    cases removed.symm.trans found
  · rw [put_other same] at found
    exact sound.custodians other process custodian found role

theorem custodians_stepped {parent : Party} {before custody : Custodian} {event : Event} {role : Role}
    (sound : Sound state) (found : state.table pid = some ⟨parent, false, some before⟩)
    (step : Custodian.Step pid state.role before event role custody) :
    CustodiansSound role.pid (state.put pid (some ⟨parent, false, some custody⟩)) := by
  have effect := step.sound (sound.custodians pid _ before found rfl)
  refine custodians_put sound (fun other process differs there alive held => ?_) fun _ role => ?_
  · rcases effect.2 with same | ⟨held_here, _⟩
    · exact same.trans held
    · exact absurd (held.symm.trans held_here) differs
  · cases role
    exact effect.1

theorem custodians_died {process : Process} {orphans : Int → Option Process} (sound : Sound state)
    (found : state.table pid = some process) (leaves : state.Leaves process orphans) :
    CustodiansSound state.slot fun other =>
      if other = pid then some { process with zombie := true }
      else (state.table other).or (orphans other) := by
  intro other one custodian stands role
  simp only at stands
  split at stands
  · next same =>
    cases stands
    have before := sound.custodians pid process custodian found role
    rw [same]
    exact ⟨before.lonely, before.waiting, before.closed, nofun⟩
  · rcases Option.or_eq_some_iff.mp stands with there | ⟨_, orphan⟩
    · exact sound.custodians other one custodian there role
    · rw [(leaves.fresh other one orphan).2.2.2] at role
      cases role

theorem custodians_adopted (sound : Sound state) :
    CustodiansSound state.slot fun pid => (state.table pid).map Process.adopted := by
  intro other one custodian stands role
  obtain ⟨process, found, rfl⟩ := Option.map_eq_some_iff.mp stands
  obtain ⟨before, there, rfl⟩ := Option.map_eq_some_iff.mp role
  have known := sound.custodians other process before found there
  split
  · next waits => exact ⟨known.lonely, nofun, fun _ => .inl (known.waiting waits), nofun⟩
  · exact known

theorem Step.custodians (step : Step state event after) (sound : Sound state) :
    CustodiansSound after.slot after.table := by
  cases step with
  | fork stands fresh valid =>
      refine custodians_put sound (fun _ _ _ _ _ held => held) fun custodian role => ?_
      cases role
      exact ⟨fun _ => rfl, fun _ => rfl, nofun, nofun⟩
  | openGate stands found role => exact custodians_opened sound stands found role
  | refuse stands found role => exact custodians_refused sound stands found role
  | publish stands => exact custodians_published sound
  | retire stands => exact custodians_retired sound stands
  | prove stands => exact custodians_proved sound
  | reap stands => exact custodians_reaped sound
  | custodian found step => exact custodians_stepped sound found step
  | spawn source fresh valid =>
      refine custodians_put sound (fun _ _ _ _ _ held => held) fun custodian role => ?_
      cases role
  | die found alive leaves => exact custodians_died sound found leaves
  | loseSupervisor stands => exact custodians_adopted sound
  | _ => exact sound.custodians

theorem custody_put {process found : Process} {custodian changed : Custodian}
    (there : state.table other = some process) (role : process.custody = some custodian)
    (now : found.custody = some changed) :
    ∃ process custodian, state.put pid (some found) other = some process ∧
      process.custody = some custodian := by
  by_cases same : other = pid
  · rw [same, put_self]
    exact ⟨found, changed, rfl, now⟩
  · rw [put_other same]
    exact ⟨process, custodian, there, role⟩

theorem Step.keeps_custody (step : Step state event after) (sound : Sound state) {process : Process}
    {custodian : Custodian} (there : state.table other = some process)
    (role : process.custody = some custodian) (named : Names state.slot other) :
    ∃ process custodian, after.table other = some process ∧ process.custody = some custodian := by
  cases step with
  | fork stands fresh valid => exact custody_put there role rfl
  | openGate stands found held => exact custody_put there role rfl
  | refuse stands found held => exact custody_put there role rfl
  | custodian found step => exact custody_put there role rfl
  | @reap party pid stands =>
      have known : state.Waitable party pid ∧ ¬ Names state.slot pid := sound.position party _ stands
      have differs : other ≠ pid := by
        rintro rfl
        exact known.2 named
      exact ⟨process, custodian, (put_other differs).trans there, role⟩
  | @spawn party pid source fresh valid =>
      have differs : other ≠ pid := by
        rintro rfl
        cases fresh.symm.trans there
      exact ⟨process, custodian, (put_other differs).trans there, role⟩
  | @die pid found_process orphans found alive leaves =>
      by_cases same : other = pid
      · rw [same] at there
        cases found.symm.trans there
        exact ⟨_, custodian, if_pos same, role⟩
      · refine ⟨process, custodian, (if_neg same).trans ?_, role⟩
        rw [there]
        rfl
  | loseSupervisor stands =>
      have adopted : process.adopted.custody = some (if custodian.gate = .waiting then
          { custodian with gate := .closed } else custodian) := by
        rw [Process.adopted, role]
        rfl
      refine ⟨process.adopted, _, ?_, adopted⟩
      show (state.table other).map Process.adopted = _
      rw [there]
      rfl
  | _ => exact ⟨process, custodian, there, role⟩

/-- The slot still names what it named, or is as free or lost as it was. -/
theorem Step.slot (step : Step state event after) (sound : Sound state) :
    after.slot = 0 ∨ after.slot = unknown ∨ ∃ pid process custodian, Names after.slot pid ∧
      after.table pid = some process ∧ process.custody = some custodian := by
  have moves := step.moves sound
  generalize now : after.slot = slot at moves
  cases moves with
  | stays =>
      rcases sound.slot with free | lost | ⟨pid, process, custodian, named, there, role⟩
      · exact .inl free
      · exact .inr (.inl lost)
      · obtain ⟨process, custodian, there, role⟩ := step.keeps_custody sound there role named
        exact .inr (.inr ⟨pid, process, custodian, named, there, role⟩)
  | publishes free does is_pid =>
      cases step with
      | @publish party pid stands =>
          have known : state.Unadmitted party pid ∧ _ := sound.position party _ stands
          obtain ⟨⟨zombie, custodian, found, _⟩, _⟩ := known
          injection does with same
          rw [← same]
          exact .inr (.inr ⟨pid, _, custodian, .inl rfl, found, rfl⟩)
      | custodian found step => cases step <;> cases does
      | _ => cases does
  | certifies held is_pid does alive childless =>
      obtain ⟨process, custodian, there, role⟩ := step.keeps_custody sound alive rfl (.inl held)
      exact .inr (.inr ⟨_, process, custodian, .inr rfl, there, role⟩)
  | loses held is_pid does dead => exact .inr (.inl rfl)
  | frees drained is_pid does dead => exact .inl rfl
  | proves lost does empty => exact .inl rfl

theorem unadmitted_put (here : state.Unadmitted party other) {process : Option Process}
    (differs : other ≠ pid) :
    ∃ zombie custodian, state.put pid process other = some ⟨party, zombie, some custodian⟩ ∧
      custodian.gate = .waiting := by
  obtain ⟨zombie, custodian, found, waits⟩ := here
  exact ⟨zombie, custodian, (put_other differs).trans found, waits⟩

theorem waitable_put (here : state.Waitable party other) {process : Option Process}
    (differs : other ≠ pid) : ∃ custody, state.put pid process other = some ⟨party, true, custody⟩ := by
  obtain ⟨custody, found⟩ := here
  exact ⟨custody, (put_other differs).trans found⟩

theorem PositionSound.custodian {position : Position} {parent : Party} {before changed : Custodian}
    {role : Role} (known : PositionSound state party position) (sound : Sound state)
    (found : state.table pid = some ⟨parent, false, some before⟩)
    (step : Custodian.Step pid state.role before event role changed) :
    PositionSound { state with role, table := state.put pid (some ⟨parent, false, some changed⟩) }
      party position := by
  have is_pid := sound.pids pid _ found
  have before_sound := sound.custodians pid _ before found rfl
  have effect := (step.sound before_sound).2
  have busy := step.not_waiting before_sound
  -- neither a custodian at its gate nor a dead one takes a step
  have unadmitted {other : Int} (here : state.Unadmitted party other) : other ≠ pid ∧ 1 < other := by
    obtain ⟨zombie, custodian, there, waits⟩ := here
    refine ⟨?_, sound.pids _ _ there⟩
    rintro rfl
    cases there.symm.trans found
    exact busy waits
  have waitable {other : Int} (here : state.Waitable party other) : other ≠ pid ∧ 1 < other := by
    obtain ⟨custody, there⟩ := here
    refine ⟨?_, sound.pids _ _ there⟩
    rintro rfl
    cases there.symm.trans found
  have others {other : Int} (differs : other ≠ pid ∧ 1 < other) :
      (Names role.pid other → Names state.slot other) ∧
        (Names state.slot other → role.pid = state.slot) := by
    rcases effect with same | ⟨held, drained, _⟩
    · rw [same]
      exact ⟨id, fun _ => rfl⟩
    · have held : state.slot = pid := held
      rw [held, drained]
      refine ⟨fun named => ?_, fun named => ?_⟩
      · exact absurd (names_unique named (.inr rfl) differs.2 is_pid) differs.1
      · exact absurd (names_unique named (.inl rfl) differs.2 is_pid) differs.1
  have confirmed {other : Int} (asked : state.slot = other ∨ state.slot = -other ∧ 1 < other) :
      role.pid = other ∨ role.pid = -other ∧ 1 < other := by
    rcases effect with same | ⟨held, drained, _⟩
    · rw [same]
      exact asked
    · have held : state.slot = pid := held
      omega
  cases position with
  | idle => trivial
  | forked other =>
      have differs := unadmitted known.1
      exact ⟨unadmitted_put known.1 differs.1, fun named => known.2 ((others differs).1 named)⟩
  | admitting other =>
      have differs := unadmitted known.1
      exact ⟨unadmitted_put known.1 differs.1, ((others differs).2 (.inl known.2)).trans known.2⟩
  | refusing other => exact unadmitted_put known (unadmitted known).1
  | retiring other => exact waitable_put known (waitable known).1
  | exchanging other value =>
      have differs := waitable known.1
      refine ⟨waitable_put known.1 differs.1, fun named => ?_⟩
      rcases named with named | named
      · have before_named := (others differs).1 named
        exact ((others differs).2 before_named).trans (known.2 (.inl before_named))
      · have same := known.2 (.inr named)
        have before_named : Names state.slot other := same ▸ named
        exact ((others differs).2 before_named).trans same
  | reaping other =>
      have differs := waitable known.1
      exact ⟨waitable_put known.1 differs.1, fun named => known.2 ((others differs).1 named)⟩
  | confirming other => exact confirmed known
  | challenged other number => exact confirmed known
  | checking other number => exact confirmed known
  | proving =>
      refine ⟨known.1, fun other process there => ?_⟩
      by_cases same : other = pid
      · have there : state.put pid _ other = some process := there
        rw [same, put_self] at there
        cases there
        have parents := known.2 pid _ found
        exact parents
      · exact known.2 other process ((put_other same).symm.trans there)

theorem PositionSound.spawn {position : Position} {parent : Party}
    (known : PositionSound state party position) (stands : state.phase = party.at_ position)
    (source : state.Gains parent) (fresh : state.table pid = none) :
    PositionSound { state with table := state.put pid (some { parent := parent }) } party position := by
  have unadmitted {other : Int} (here : state.Unadmitted party other) : other ≠ pid := by
    obtain ⟨zombie, custodian, there, waits⟩ := here
    rintro rfl
    cases fresh.symm.trans there
  have waitable {other : Int} (here : state.Waitable party other) : other ≠ pid := by
    obtain ⟨custody, there⟩ := here
    rintro rfl
    cases fresh.symm.trans there
  cases position with
  | idle => trivial
  | forked other => exact ⟨unadmitted_put known.1 (unadmitted known.1), known.2⟩
  | admitting other => exact ⟨unadmitted_put known.1 (unadmitted known.1), known.2⟩
  | refusing other => exact unadmitted_put known (unadmitted known)
  | retiring other => exact waitable_put known (waitable known)
  | exchanging other value => exact ⟨waitable_put known.1 (waitable known.1), known.2⟩
  | reaping other => exact ⟨waitable_put known.1 (waitable known.1), known.2⟩
  | confirming other => exact known
  | challenged other number => exact known
  | checking other number => exact known
  | proving =>
      refine ⟨known.1, fun other process there => ?_⟩
      by_cases same : other = pid
      · have there : state.put pid _ other = some process := there
        rw [same, put_self] at there
        cases there
        -- a guardian without a child gets none
        rintro rfl
        rcases source with idle | ⟨child, its, there, is_child⟩ | ⟨_, _, supervising⟩
        · cases (Party.at_injective (stands.symm.trans idle)).2
        · exact known.2 child its there is_child
        · obtain ⟨_, guarding⟩ := known.1
          cases guarding.symm.trans supervising
      · exact known.2 other process ((put_other same).symm.trans there)

theorem PositionSound.die {position : Position} {process : Process} {orphans : Int → Option Process}
    (known : PositionSound state party position) (found : state.table pid = some process)
    (alive : process.zombie = false) (leaves : state.Leaves process orphans) :
    PositionSound { state with
      table := fun other => if other = pid then some { process with zombie := true }
        else (state.table other).or (orphans other) } party position := by
  have unadmitted {other : Int} (here : state.Unadmitted party other) :
      ∃ zombie custodian, (if other = pid then some { process with zombie := true }
        else (state.table other).or (orphans other)) = some ⟨party, zombie, some custodian⟩ ∧
        custodian.gate = .waiting := by
    obtain ⟨zombie, custodian, there, waits⟩ := here
    by_cases same : other = pid
    · rw [same] at there
      cases found.symm.trans there
      exact ⟨true, custodian, if_pos same, waits⟩
    · refine ⟨zombie, custodian, (if_neg same).trans ?_, waits⟩
      rw [there]
      rfl
  have waitable {other : Int} (here : state.Waitable party other) :
      ∃ custody, (if other = pid then some { process with zombie := true }
        else (state.table other).or (orphans other)) = some ⟨party, true, custody⟩ := by
    obtain ⟨custody, there⟩ := here
    by_cases same : other = pid
    · rw [same] at there
      cases found.symm.trans there
      cases alive
    · refine ⟨custody, (if_neg same).trans ?_⟩
      rw [there]
      rfl
  cases position with
  | idle => trivial
  | forked other => exact ⟨unadmitted known.1, known.2⟩
  | admitting other => exact ⟨unadmitted known.1, known.2⟩
  | refusing other => exact unadmitted known
  | retiring other => exact waitable known
  | exchanging other value => exact ⟨waitable known.1, known.2⟩
  | reaping other => exact ⟨waitable known.1, known.2⟩
  | confirming other => exact known
  | challenged other number => exact known
  | checking other number => exact known
  | proving =>
      refine ⟨known.1, fun other one there => ?_⟩
      simp only at there
      split at there
      · cases there
        exact known.2 pid process found
      · rcases Option.or_eq_some_iff.mp there with there | ⟨_, orphan⟩
        · exact known.2 other one there
        · rw [(leaves.fresh other one orphan).2.2.1]
          exact known.2 pid process found

theorem position_only (party : Party) (next : Position) (known : PositionSound after party next)
    (stands : after.phase = party.at_ next) :
    ∀ party position, after.phase = party.at_ position → PositionSound after party position := by
  intro other position also
  obtain ⟨same_party, same⟩ := Party.at_injective (stands.symm.trans also)
  rw [← same_party, ← same]
  exact known

theorem Step.position (step : Step state event after) (sound : Sound state) :
    ∀ party position, after.phase = party.at_ position → PositionSound after party position := by
  cases step with
  | @fork party pid stands fresh valid =>
      refine position_only party (.forked pid) ⟨⟨false, {}, put_self, rfl⟩, fun named => ?_⟩ rfl
      obtain ⟨process, custodian, there, _⟩ := sound.found named valid
      cases fresh.symm.trans there
  | @publish party pid stands =>
      have known : PositionSound state party (.forked pid) := sound.position party _ stands
      by_cases free : state.role.pid = 0
      · have accepted : (state.role.publish pid).2 = true := decide_eq_true free
        refine position_only party (.admitting pid) ⟨known.1, ?_⟩ (by rw [accepted]; rfl)
        show (state.role.publish pid).1.pid = pid
        rw [publish_pid, if_pos free]
      · have rejected : (state.role.publish pid).2 = false := decide_eq_false free
        exact position_only party (.refusing pid) known.1 (by rw [rejected]; rfl)
  | @openGate party pid process custodian stands found role => exact position_only party .idle trivial rfl
  | @refuse party pid process custodian stands found role => exact position_only party .idle trivial rfl
  | @observe party pid process stands found child zombie =>
      have known : state.Waitable party pid := by
        obtain ⟨parent, dead, custody⟩ := process
        cases child
        cases zombie
        exact ⟨custody, found⟩
      exact position_only party (.retiring pid) known rfl
  | @load party pid stands =>
      have known : state.Waitable party pid := sound.position party _ stands
      refine position_only party (.exchanging pid state.role.pid) ⟨known, fun _ => rfl⟩ rfl
  | @retire party pid value stands =>
      have known : state.Waitable party pid ∧ _ := sound.position party _ stands
      obtain ⟨dead, loaded⟩ := known
      refine position_only party (.reaping pid) ⟨dead, ?_⟩ rfl
      obtain ⟨custody, found⟩ := dead
      have is_pid := sound.pids pid _ found
      show ¬ Names (state.role.beforeReap value pid).pid pid
      rw [beforeReap_pid loaded, Role.retiredSlot]
      split
      · exact not_names_unknown is_pid
      · split
        · exact not_names_zero is_pid
        · next other drained => exact not_or.mpr ⟨other, drained⟩
  | @reap party pid stands => exact position_only party .idle trivial rfl
  | exclude stands live => exact sound.position
  | @confirm party pid stands named => exact position_only party (.confirming pid) (.inl named) rfl
  | @challenge party pid number stands next =>
      have known : PositionSound state party (.confirming pid) := sound.position party _ stands
      exact position_only party (.challenged pid number) known rfl
  | @overflow party pid stands none_ => exact position_only party .idle trivial rfl
  | @named party pid number stands named =>
      exact position_only party (.checking pid number) (.inl named) rfl
  | @not_named party pid number stands other => exact position_only party .idle trivial rfl
  | @confirmed party pid number stands same => exact position_only party .idle trivial rfl
  | @unanswered party pid number stands other =>
      have known : PositionSound state party (.checking pid number) := sound.position party _ stands
      exact position_only party (.challenged pid number) known rfl
  | @deadline party pid number stands other => exact position_only party .idle trivial rfl
  | takeOver stands => exact position_only .guardian .idle trivial rfl
  | noChild stands empty =>
      exact position_only .guardian .proving ⟨⟨_, rfl⟩, empty.2⟩ rfl
  | prove stands => exact position_only .guardian .idle trivial rfl
  | custodian found step =>
      exact fun party position stands => (sound.position party position stands).custodian sound found step
  | spawn source fresh valid =>
      exact fun party position stands =>
        (sound.position party position stands).spawn stands source fresh
  | die found alive leaves =>
      exact fun party position stands => (sound.position party position stands).die found alive leaves
  | loseSupervisor stands =>
      intro party position other
      cases party with
      | supervisor => cases other
      | guardian => cases other

theorem Step.sound (step : Step state event after) (sound : Sound state) : Sound after where
  pids := step.pids sound
  slot := step.slot sound
  custodians := step.custodians sound
  position := step.position sound

theorem Run.keeps_sound {start : State} {history : List Transition} (run : Run start history state)
    (sound : Sound start) : Sound state := by
  induction run with
  | nothing => exact sound
  | more run step ih => exact step.sound ih

end Steps

end DeliveryRole

end AgentBash
