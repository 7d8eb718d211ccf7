import AgentBash.Supervisor.RoleCustody

/-!
# The protocol of the delivery role

What a run does to the slot and to its challenges. A published custodian gives its responsibility
back by its certificate and its reaping, or loses it until the guardian has no child left; a
confirmation has an acknowledgement of its own challenge behind it.
-/

namespace AgentBash

set_option autoImplicit false

namespace DeliveryRole

section Returns

variable {state : State} {history : List Transition} {pid : Int}

structure Certifies (pid : Int) (step : Transition) : Prop where
  event : step.event = .certify pid
  childless : ∃ parent custodian, step.before.table pid = some ⟨parent, false, some custodian⟩ ∧
    custodian.offspring = 0

structure Retires (pid : Int) (step : Transition) : Prop where
  event : step.event = .retire pid
  dead : ∃ party, step.before.Waitable party pid

structure Proves (step : Transition) : Prop where
  event : step.event = .prove
  empty : step.before.TreeEmpty

def Keeps (slot : Int) (history : List Transition) : Prop := ∀ step ∈ history, step.after.slot = slot

/-- Free again by the certificate and the reaping of the custodian. -/
def Certified (pid : Int) (history : List Transition) : Prop :=
  ∃ held certifies drained retires rest,
    history = held ++ certifies :: (drained ++ retires :: rest) ∧ Keeps pid held ∧
      Certifies pid certifies ∧ Keeps (-pid) drained ∧ Retires pid retires

/-- Free again by the loss of the custodian and the proof that the tree is empty. -/
def Lost (pid : Int) (history : List Transition) : Prop :=
  ∃ held loses lost proves rest,
    history = held ++ loses :: (lost ++ proves :: rest) ∧ Keeps pid held ∧
      Retires pid loses ∧ Keeps unknown lost ∧ Proves proves

/-- How far the responsibility for a published custodian has come. -/
inductive Course (pid : Int) : List Transition → Int → Prop
  | held {history : List Transition} (keeps : Keeps pid history) : Course pid history pid
  | certified {held : List Transition} {certifies : Transition} {drained : List Transition}
      (keeps : Keeps pid held) (certified : Certifies pid certifies)
      (drains : Keeps (-pid) drained) : Course pid (held ++ certifies :: drained) (-pid)
  | lost {held : List Transition} {loses : Transition} {lost : List Transition}
      (keeps : Keeps pid held) (retires : Retires pid loses)
      (unknowns : Keeps unknown lost) : Course pid (held ++ loses :: lost) unknown
  | free {history : List Transition} {slot : Int}
      (freed : Certified pid history ∨ Lost pid history) : Course pid history slot

theorem keeps_nothing {slot : Int} : Keeps slot [] := fun _ inside => absurd inside List.not_mem_nil

theorem Keeps.append {slot : Int} {step : Transition} (keeps : Keeps slot history)
    (same : step.after.slot = slot) : Keeps slot (history ++ [step]) := by
  intro other inside
  rcases List.mem_append.mp inside with inside | inside
  · exact keeps other inside
  · rw [List.mem_singleton.mp inside]
    exact same

theorem Certified.append {step : Transition} (certified : Certified pid history) :
    Certified pid (history ++ [step]) := by
  obtain ⟨held, certifies, drained, retires, rest, rfl, facts⟩ := certified
  exact ⟨held, certifies, drained, retires, rest ++ [step], by simp, facts⟩

theorem Lost.append {step : Transition} (lost : Lost pid history) : Lost pid (history ++ [step]) := by
  obtain ⟨held, loses, unknowns, proves, rest, rfl, facts⟩ := lost
  exact ⟨held, loses, unknowns, proves, rest ++ [step], by simp, facts⟩

theorem Course.step {event : Event} {after : State} (course : Course pid history state.slot)
    (is_pid : 1 < pid) (moves : Moves state event after.slot) :
    Course pid (history ++ [⟨state, event, after⟩]) after.slot := by
  generalize before : state.slot = slot at course
  generalize now : after.slot = next at moves
  cases course with
  | held keeps =>
      cases moves with
      | stays =>
          rw [before]
          exact .held (keeps.append (now.trans before))
      | publishes free => omega
      | certifies held also does alive childless =>
          have same := before.symm.trans held
          subst same
          exact .certified keeps ⟨does, _, _, alive, childless⟩ keeps_nothing
      | loses held also does dead =>
          have same := before.symm.trans held
          subst same
          exact .lost keeps ⟨does, _, dead⟩ keeps_nothing
      | frees drained also => omega
      | proves lost => unfold unknown at lost; omega
  | @certified held certifies drained keeps certified drains =>
      cases moves with
      | stays =>
          rw [before, List.append_assoc, List.cons_append]
          exact .certified keeps certified (drains.append (now.trans before))
      | publishes free => omega
      | certifies held also => omega
      | loses held also => omega
      | frees drained_ also does dead =>
          have same := Int.neg_inj.mp (before.symm.trans drained_)
          subst same
          have retires : Retires pid ⟨state, event, after⟩ := ⟨does, _, dead⟩
          refine .free (.inl ⟨held, certifies, drained, _, [], ?_, keeps, certified, drains, retires⟩)
          rw [List.append_assoc, List.cons_append]
      | proves lost => unfold unknown at lost; omega
  | @lost held loses unknowns keeps retires still =>
      have before : state.slot = -1 := before
      cases moves with
      | stays =>
          rw [before, List.append_assoc, List.cons_append]
          exact .lost keeps retires (still.append (now.trans before))
      | publishes free => omega
      | certifies held also => omega
      | loses held also => omega
      | frees drained also => omega
      | proves lost does empty =>
          have proves : Proves ⟨state, event, after⟩ := ⟨does, empty⟩
          refine .free (.inr ⟨held, loses, unknowns, _, [], ?_, keeps, retires, still, proves⟩)
          rw [List.append_assoc, List.cons_append]
  | free freed =>
      rcases freed with certified | lost
      · exact .free (.inl certified.append)
      · exact .free (.inr lost.append)

theorem Course.freed {slot : Int} (course : Course pid history slot) (is_pid : 1 < pid)
    (free : slot = 0) : Certified pid history ∨ Lost pid history := by
  cases course with
  | held keeps => omega
  | certified keeps certifies drains => omega
  | lost keeps retires unknowns => exact absurd free (by decide)
  | free freed => exact freed

/-- From a published custodian on, the slot follows the course of its responsibility. -/
theorem Run.course {start : State} (run : Run start history state) (sound : Sound start)
    (published : start.slot = pid) (is_pid : 1 < pid) : Course pid history state.slot := by
  induction run with
  | nothing =>
      rw [published]
      exact .held keeps_nothing
  | more run step ih => exact ih.step is_pid (step.moves (run.keeps_sound sound))

end Returns

section Challenges

variable {state after : State} {event : Event} {history : List Transition} {pid : Int}
  {party : Party} {number : Nat}

/-- What a step does to the challenge and to the last acknowledgement. -/
inductive Words (state : State) (event : Event) : Nat → Nat → Prop
  | stay (other : ∀ pid number, event ≠ .challenge pid number) :
      Words state event state.role.challenge state.role.acknowledged
  | challenges {pid : Int} (does : event = .challenge pid (state.role.challenge + 1)) :
      Words state event (state.role.challenge + 1) state.role.acknowledged
  | acknowledges {pid : Int} {number : Nat} {parent : Party} {custodian : Custodian}
      (does : event = .acknowledge pid number)
      (alive : state.table pid = some ⟨parent, false, some custodian⟩)
      (answers : custodian.place = .answering number) : Words state event state.role.challenge number

theorem compareExchange_words {role : Role} {current new : Int} :
    (role.compareExchange current new).challenge = role.challenge ∧
      (role.compareExchange current new).acknowledged = role.acknowledged := by
  unfold Role.compareExchange
  split
  · exact ⟨rfl, rfl⟩
  · exact ⟨rfl, rfl⟩

theorem beforeReap_words {role : Role} {value : Int} :
    (role.beforeReap value pid).challenge = role.challenge ∧
      (role.beforeReap value pid).acknowledged = role.acknowledged := by
  unfold Role.beforeReap
  simp only
  split
  · exact compareExchange_words
  · exact ⟨rfl, rfl⟩

theorem Words.same {role : Role} (same : role.challenge = state.role.challenge ∧
    role.acknowledged = state.role.acknowledged)
    (other : ∀ pid number, event ≠ .challenge pid number) :
    Words state event role.challenge role.acknowledged := by
  rw [same.1, same.2]
  exact .stay other

theorem nextChallenge_eq {role : Role} (next : role.nextChallenge = some number) :
    number = role.challenge + 1 := by
  unfold Role.nextChallenge at next
  split at next
  · exact (Option.some.inj next).symm
  · cases next

theorem Step.words (step : Step state event after) :
    Words state event after.role.challenge after.role.acknowledged := by
  cases step with
  | publish stands => exact .same compareExchange_words nofun
  | retire stands => exact .same beforeReap_words nofun
  | prove stands => exact .same compareExchange_words nofun
  | @challenge party pid number stands next =>
      cases nextChallenge_eq next
      exact .challenges rfl
  | @custodian pid parent before event role changed found step =>
      cases step with
      | stored => exact .acknowledges rfl found rfl
      | certified => exact .same compareExchange_words nofun
      | _ => exact .stay nofun
  | _ => exact .stay nofun

/-- A custodian that answers has loaded its number from the slot. -/
def Answers (state : State) (number : Nat) : Prop :=
  ∃ pid process custodian, state.table pid = some process ∧ process.custody = some custodian ∧
    custodian.place = .answering number

theorem answers_put {found : Process} (here : ∀ custodian, found.custody = some custodian →
      custodian.place = .answering number → number = state.role.challenge ∨ Answers state number)
    {other : Int} {process : Process} {custodian : Custodian}
    (there : state.put pid (some found) other = some process)
    (role : process.custody = some custodian) (answers : custodian.place = .answering number) :
    number = state.role.challenge ∨ Answers state number := by
  by_cases same : other = pid
  · rw [same, put_self] at there
    cases there
    exact here custodian role answers
  · rw [put_other same] at there
    exact .inr ⟨other, process, custodian, there, role, answers⟩

theorem Step.answers (step : Step state event after) (answers : Answers after number) :
    number = state.role.challenge ∨ Answers state number := by
  obtain ⟨other, process, custodian, there, role, answers⟩ := answers
  cases step with
  | fork stands fresh valid =>
      refine answers_put (fun custodian role answers => ?_) there role answers
      cases role
      cases answers
  | @openGate party pid process before stands found held =>
      refine answers_put (fun custodian role answers => ?_) there role answers
      cases role
      exact .inr ⟨pid, process, before, found, held, answers⟩
  | @refuse party pid process before stands found held =>
      refine answers_put (fun custodian role answers => ?_) there role answers
      cases role
      exact .inr ⟨pid, process, before, found, held, answers⟩
  | @reap party pid stands =>
      have there : state.put pid none other = some process := there
      by_cases same : other = pid
      · rw [same, put_self] at there
        cases there
      · rw [put_other same] at there
        exact .inr ⟨other, process, custodian, there, role, answers⟩
  | @custodian pid parent before event words changed found step =>
      refine answers_put (fun custodian role answers => ?_) there role answers
      cases role
      cases step with
      | loaded =>
          cases answers
          exact .inl rfl
      | descendants => exact .inr ⟨pid, _, _, found, rfl, answers⟩
      | _ => cases answers
  | spawn source fresh valid =>
      refine answers_put (fun custodian role answers => ?_) there role answers
      cases role
  | @die pid dead orphans found alive leaves =>
      simp only at there
      split at there
      · cases there
        exact .inr ⟨pid, dead, custodian, found, role, answers⟩
      · rcases Option.or_eq_some_iff.mp there with there | ⟨_, orphan⟩
        · exact .inr ⟨other, process, custodian, there, role, answers⟩
        · rw [(leaves.fresh other process orphan).2.2.2] at role
          cases role
  | loseSupervisor stands =>
      obtain ⟨before, found, rfl⟩ := Option.map_eq_some_iff.mp there
      obtain ⟨held, custody, rfl⟩ := Option.map_eq_some_iff.mp role
      refine .inr ⟨other, before, held, found, custody, ?_⟩
      split at answers
      · exact answers
      · exact answers
  | _ => exact .inr ⟨other, process, custodian, there, role, answers⟩

/-- The challenge for whose answer a call of `confirm_role` waits. -/
def Position.asked : Position → Option (Int × Nat)
  | .challenged pid number | .checking pid number => some (pid, number)
  | _ => none

def Phase.asked : Phase → Option (Int × Nat)
  | .supervising position | .guarding position => position.asked
  | .orphaned => none

theorem asked_at {position : Position} : (party.at_ position).asked = position.asked := by
  cases party with
  | supervisor => rfl
  | guardian => rfl

theorem Step.asks (step : Step state event after) (asks : after.phase.asked = some (pid, number)) :
    event = .challenge pid number ∨ state.phase.asked = some (pid, number) := by
  cases step with
  | challenge stands next =>
      simp only [asked_at] at asks
      cases asks
      exact .inl rfl
  | named stands held =>
      simp only [asked_at] at asks
      rw [stands, asked_at]
      exact .inr asks
  | unanswered stands differs =>
      simp only [asked_at] at asks
      rw [stands, asked_at]
      exact .inr asks
  | custodian found step => exact .inr asks
  | spawn source fresh valid => exact .inr asks
  | die found alive leaves => exact .inr asks
  | exclude stands live => exact .inr asks
  | publish stands =>
      simp only [asked_at] at asks
      split at asks
      · cases asks
      · cases asks
  | _ =>
      simp only [asked_at] at asks
      cases asks

/-- While a call waits, the slot names its custodian, or is as that custodian left it. -/
theorem Sound.asked (sound : Sound state) (asks : state.phase.asked = some (pid, number)) :
    state.slot = pid ∨ state.slot = -pid ∧ 1 < pid := by
  obtain ⟨party, position, stands⟩ : ∃ party position, state.phase = Party.at_ party position := by
    cases phase : state.phase with
    | supervising position => exact ⟨.supervisor, position, rfl⟩
    | guarding position => exact ⟨.guardian, position, rfl⟩
    | orphaned =>
        rw [phase] at asks
        cases asks
  have known := sound.position party position stands
  rw [stands, asked_at] at asks
  cases position with
  | challenged other number =>
      cases asks
      exact known
  | checking other number =>
      cases asks
      exact known
  | _ => cases asks

/-- The custodian acknowledged the challenge while the slot named it. -/
def Acknowledged (pid : Int) (number : Nat) (history : List Transition) : Prop :=
  ∃ step ∈ history, step.event = .acknowledge pid number ∧ step.before.slot = pid

/-- The challenge was published, and if it is acknowledged now, it was by the custodian. -/
def Asked (pid : Int) (number acknowledged : Nat) (history : List Transition) : Prop :=
  ∃ earlier asks later, history = earlier ++ asks :: later ∧ asks.event = .challenge pid number ∧
    (acknowledged = number → Acknowledged pid number later)

/-- What the history tells about the words of the slot. -/
structure Recorded (history : List Transition) (state : State) : Prop where
  numbers : ∀ step ∈ history, ∀ pid number, step.event = .challenge pid number →
    number ≤ state.role.challenge
  acknowledged : state.role.acknowledged ≤ state.role.challenge
  answering : ∀ number, Answers state number → number ≤ state.role.challenge
  asked : ∀ pid number, state.phase.asked = some (pid, number) →
    Asked pid number state.role.acknowledged history

theorem Start.recorded (start : Start state) : Recorded [] state where
  numbers step inside := absurd inside List.not_mem_nil
  acknowledged := by
    have words := start.role
    exact words ▸ Nat.le_refl 0
  answering number answers := by
    obtain ⟨pid, process, custodian, found, role, _⟩ := answers
    rw [(start.table pid process found).2] at role
    cases role
  asked pid number asks := by
    rw [start.phase] at asks
    cases asks

theorem Asked.append {acknowledged moved : Nat} {step : Transition}
    (asked : Asked pid number acknowledged history)
    (answers : moved = number → acknowledged = number ∨
      step.event = .acknowledge pid number ∧ step.before.slot = pid) :
    Asked pid number moved (history ++ [step]) := by
  obtain ⟨earlier, asks, later, rfl, event, answered⟩ := asked
  refine ⟨earlier, asks, later ++ [step], by simp, event, fun same => ?_⟩
  rcases answers same with before | ⟨acknowledges, named⟩
  · obtain ⟨other, inside, facts⟩ := answered before
    exact ⟨other, List.mem_append_left _ inside, facts⟩
  · exact ⟨step, List.mem_append_right _ (List.mem_singleton.mpr rfl), acknowledges, named⟩

theorem Sound.answering_named (sound : Sound state) {parent : Party} {custodian : Custodian}
    (alive : state.table pid = some ⟨parent, false, some custodian⟩)
    (answers : custodian.place = .answering number) : state.slot = pid := by
  have known := sound.custodians pid _ custodian alive rfl
  have admitted : custodian.gate = .admitted := by
    cases gate : custodian.gate with
    | admitted => rfl
    | waiting => cases answers.symm.trans (known.waiting gate)
    | closed =>
        rcases known.closed gate with at_ | at_ | at_
        · cases answers.symm.trans at_
        · cases answers.symm.trans at_
        · cases answers.symm.trans at_
  refine known.named rfl admitted ?_
  rw [answers]
  exact nofun

theorem Recorded.step (recorded : Recorded history state) (sound : Sound state)
    (step : Step state event after) : Recorded (history ++ [⟨state, event, after⟩]) after := by
  have words := step.words
  have grows : state.role.challenge ≤ after.role.challenge := by
    generalize after.role.challenge = challenge, after.role.acknowledged = acknowledged at words
    cases words with
    | stay => exact Nat.le_refl _
    | challenges => exact Nat.le_succ _
    | acknowledges => exact Nat.le_refl _
  refine ⟨?_, ?_, ?_, ?_⟩
  · intro one inside pid number does
    rcases List.mem_append.mp inside with inside | inside
    · exact Nat.le_trans (recorded.numbers one inside pid number does) grows
    · rw [List.mem_singleton.mp inside] at does
      have does : event = .challenge pid number := does
      generalize after.role.challenge = challenge, after.role.acknowledged = acknowledged at words
      cases words with
      | stay other => exact absurd does (other pid number)
      | challenges also =>
          cases does.symm.trans also
          exact Nat.le_refl _
      | acknowledges also => cases does.symm.trans also
  · have before := recorded.acknowledged
    generalize after.role.challenge = challenge, after.role.acknowledged = acknowledged at words
    cases words with
    | stay => exact before
    | challenges => exact Nat.le_trans before (Nat.le_succ _)
    | acknowledges does alive answers =>
        exact recorded.answering _ ⟨_, _, _, alive, rfl, answers⟩
  · intro number answers
    rcases step.answers answers with loaded | answers
    · rw [loaded]
      exact grows
    · exact Nat.le_trans (recorded.answering number answers) grows
  · intro pid number asks
    rcases step.asks asks with does | before
    · -- the challenge is new, so that nobody can have acknowledged it
      refine ⟨history, _, [], rfl, does, fun same => ?_⟩
      have old := recorded.acknowledged
      generalize after.role.challenge = challenge, after.role.acknowledged = acknowledged at words same
      cases words with
      | stay other => exact absurd does (other pid number)
      | challenges also =>
          cases does.symm.trans also
          omega
      | acknowledges also => cases does.symm.trans also
    · refine (recorded.asked pid number before).append fun same => ?_
      generalize after.role.challenge = challenge, after.role.acknowledged = acknowledged at words same
      cases words with
      | stay => exact .inl same
      | challenges => exact .inl same
      | @acknowledges other answered parent custodian does alive answers =>
          have named := sound.answering_named alive answers
          have is_other := sound.pids other _ alive
          have whose : other = pid := by
            rcases sound.asked before with held | ⟨drained, is_pid⟩
            · exact named.symm.trans held
            · have drained : state.slot = -pid := drained
              omega
          refine .inr ⟨?_, whose ▸ named⟩
          rw [← whose, ← same]
          exact does

theorem Run.recorded {start : State} (run : Run start history state) (first : Start start) :
    Recorded history state := by
  induction run with
  | nothing => exact first.recorded
  | more run step ih => exact ih.step (run.keeps_sound first.sound) step

end Challenges

section Protocols

variable {state after start : State} {event : Event} {history : List Transition} {pid : Int}

def Event.reaps : Event → Option Int
  | .observe pid | .load pid | .retire pid | .reap pid => some pid
  | _ => none

/-- What holds of every run. -/
structure Protocol (history : List Transition) (final : State) : Prop where
  publishing : ∀ step ∈ history, ∀ pid accepted, step.event = .publish pid accepted →
    step.before.slot ≠ 0 → accepted = false ∧ step.after.slot = step.before.slot
  returning : ∀ earlier publishes later pid, history = earlier ++ publishes :: later →
    publishes.event = .publish pid true → final.slot = 0 → Certified pid later ∨ Lost pid later
  reaping : ∀ step ∈ history, ∀ pid, step.event.reaps = some pid → ¬ Names step.before.slot pid →
    step.after.slot = step.before.slot
  confirming : ∀ earlier confirms later pid number, history = earlier ++ confirms :: later →
    confirms.event = .confirm pid number →
      ∃ before asks between, earlier = before ++ asks :: between ∧
        asks.event = .challenge pid number ∧ Acknowledged pid number between
  fresh : ∀ earlier asks between again later pid other number repeated,
    history = earlier ++ asks :: (between ++ again :: later) →
      asks.event = .challenge pid number → again.event = .challenge other repeated →
        number < repeated

/-- A run is one up to any of its steps, that step and a run from there on. -/
theorem Run.split (run : Run start history state) {earlier later : List Transition}
    {step : Transition} (split_ : history = earlier ++ step :: later) :
    Run start earlier step.before ∧ Step step.before step.event step.after ∧
      Run step.after later state := by
  induction run generalizing later with
  | nothing => exact absurd split_.symm (by simp)
  | @more history before event after run last ih =>
      rcases List.eq_nil_or_concat later with rfl | ⟨front, final, rfl⟩
      · obtain ⟨same, same_step⟩ := List.append_inj' split_ rfl
        cases same_step
        rw [← same]
        exact ⟨run, last, .nothing⟩
      · have front_eq : history ++ [⟨before, event, after⟩] = (earlier ++ step :: front) ++ [final] := by
          rw [split_, List.concat_eq_append, List.append_assoc, List.cons_append]
        obtain ⟨same, same_step⟩ := List.append_inj' front_eq rfl
        cases same_step
        obtain ⟨first, here, rest⟩ := ih same
        rw [List.concat_eq_append]
        exact ⟨first, here, rest.more last⟩

theorem Step.publish_refused {accepted : Bool} (step : Step state (.publish pid accepted) after)
    (held : state.slot ≠ 0) : accepted = false ∧ after.slot = state.slot := by
  cases step with
  | publish stands =>
      refine ⟨decide_eq_false held, ?_⟩
      show (state.role.publish pid).1.pid = state.role.pid
      rw [publish_pid, if_neg held]
  | custodian found step => cases step

theorem Step.publish_accepted (step : Step state (.publish pid true) after) (sound : Sound state) :
    after.slot = pid ∧ 1 < pid := by
  generalize does : Event.publish pid true = event at step
  cases step with
  | @publish party other stands =>
      injection does with same accepted
      have known : state.Unadmitted party other ∧ _ := sound.position party _ stands
      obtain ⟨⟨_, _, found, _⟩, _⟩ := known
      rw [same]
      refine ⟨?_, sound.pids other _ found⟩
      show (state.role.publish other).1.pid = other
      rw [publish_pid, if_pos (of_decide_eq_true accepted.symm)]
  | custodian found step => cases step <;> cases does
  | _ => cases does

theorem Step.reaps_other (step : Step state event after) (sound : Sound state)
    (reaps : event.reaps = some pid) (other : ¬ Names state.slot pid) : after.slot = state.slot := by
  have moves := step.moves sound
  generalize after.slot = slot at moves ⊢
  cases moves with
  | stays => rfl
  | publishes free does => rw [does] at reaps; cases reaps
  | certifies held is_pid does => rw [does] at reaps; cases reaps
  | loses held is_pid does =>
      rw [does] at reaps
      cases reaps
      exact absurd (.inl held) other
  | frees drained is_pid does =>
      rw [does] at reaps
      cases reaps
      exact absurd (.inr drained) other
  | proves lost does => rw [does] at reaps; cases reaps

/-- A confirmation is given where the acknowledgement is the challenge of the call. -/
theorem Step.confirms {number : Nat} (step : Step state (.confirm pid number) after) :
    state.phase.asked = some (pid, number) ∧ state.role.acknowledged = number := by
  cases step with
  | confirmed stands same =>
      rw [stands, asked_at]
      exact ⟨rfl, same⟩
  | custodian found step => cases step

theorem Step.challenge_larger {number : Nat} (step : Step state (.challenge pid number) after) :
    state.role.challenge < number := by
  cases step with
  | challenge stands next =>
      rw [nextChallenge_eq next]
      exact Nat.lt_succ_self _
  | custodian found step => cases step

/-- Every run of the daemon, the guardian and their custodians follows the protocol of the slot. -/
theorem delivery_role_protocol (first : Start start) (run : Run start history state) :
    Protocol history state where
  publishing step inside pid accepted does held := by
    obtain ⟨earlier, later, split_⟩ := List.append_of_mem inside
    obtain ⟨_, here, _⟩ := run.split split_
    rw [does] at here
    exact here.publish_refused held
  returning earlier publishes later pid split_ does free := by
    obtain ⟨before, here, rest⟩ := run.split split_
    have sound := before.keeps_sound first.sound
    rw [does] at here
    obtain ⟨published, is_pid⟩ := here.publish_accepted sound
    exact (rest.course (here.sound sound) published is_pid).freed is_pid free
  reaping step inside pid reaps other := by
    obtain ⟨earlier, later, split_⟩ := List.append_of_mem inside
    obtain ⟨before, here, _⟩ := run.split split_
    exact here.reaps_other (before.keeps_sound first.sound) reaps other
  confirming earlier confirms later pid number split_ does := by
    obtain ⟨before, here, _⟩ := run.split split_
    rw [does] at here
    obtain ⟨asks, same⟩ := here.confirms
    obtain ⟨sooner, asked, between, earlier_eq, challenge, acknowledged⟩ :=
      (before.recorded first).asked pid number asks
    exact ⟨sooner, asked, between, earlier_eq, challenge, acknowledged same⟩
  fresh earlier asks between again later pid other number repeated split_ does again_does := by
    have split_again : history = (earlier ++ asks :: between) ++ again :: later := by
      rw [split_, List.append_assoc, List.cons_append]
    obtain ⟨before, here, _⟩ := run.split split_again
    rw [again_does] at here
    have inside : asks ∈ earlier ++ asks :: between := by simp
    have known := (before.recorded first).numbers asks inside pid number does
    exact Nat.lt_of_le_of_lt known here.challenge_larger

def emptyDaemon : State where
  role := {}
  phase := .supervising .idle
  table _ := none

theorem emptyDaemon_start : Start emptyDaemon := ⟨rfl, rfl, nofun⟩

/-- A custodian that is killed behind its gate leaves the slot unknown. -/
theorem delivery_role_protocol_killed : ∃ history final,
    Run emptyDaemon history final ∧ history.length = 8 ∧ final.slot = unknown ∧
      Protocol history final := by
  have forked := Run.nothing.more (@Step.fork emptyDaemon .supervisor 7 rfl rfl (by decide))
  have published := forked.more (@Step.publish _ .supervisor 7 rfl)
  have childless (custodian : Custodian) (role : some ({} : Custodian) = some custodian)
      (busy : 0 < custodian.offspring) : ∃ pid, (fun _ : Int => (none : Option Process)) pid ≠ none := by
    cases role
    exact absurd busy (by decide)
  have killed := published.more (@Step.die _ 7 _ (fun _ => none) rfl rfl ⟨nofun, childless⟩)
  have admitted := killed.more (@Step.openGate _ .supervisor 7 _ _ rfl rfl rfl)
  have observed := admitted.more (@Step.observe _ .supervisor 7 _ rfl rfl rfl rfl)
  have loaded := observed.more (@Step.load _ .supervisor 7 rfl)
  have retired := loaded.more (@Step.retire _ .supervisor 7 _ rfl)
  have reaped := retired.more (@Step.reap _ .supervisor 7 rfl)
  exact ⟨_, _, reaped, rfl, rfl, delivery_role_protocol emptyDaemon_start reaped⟩

end Protocols

end DeliveryRole

end AgentBash
