import AgentBash.Supervisor.CompletionCustody
import AgentBash.Delivery.Rules

/-!
# The completion lane

The delivery lock owns the delivery part of the record and the number of helpers that were
started: at most one, once one was the persisted record says that it was attempted, and a
record that was left provisional with nobody at the lock stays unresolved.
-/

namespace AgentBash

set_option autoImplicit false

open Durable

def Durable.Disk.record {ω : Type} (disk : Disk layout ω) : Option Meta := disk.files File.metaJson

def Durable.Disk.registered {ω : Type} (disk : Disk layout ω) : Bool :=
  (disk.files File.registration).isSome

def offersRetry (record : Option Meta) : Bool :=
  record.any fun entry => entry.delivery.completionLifecycle == .retryablePreAdmissionFailure

namespace CompletionLane

/-- What the disk does not keep: whether a provisional record, and one that offered a retry, was
ever left behind by all holders of the lock, whether such an offer was ever given up, and who has
announced a helper since the lock was free. -/
structure History where
  orphaned : Bool := false
  spent : Bool := false
  offered : Bool := false
  announcers : List Nat := []
  deriving DecidableEq

abbrev View := HandleDisk × History

/-- The helpers that were started, with the history. -/
structure Past extends History where
  spawned : Nat

structure Ledger where
  record : Option Meta
  past : Past
  registered : Bool

def unresolved (delivery : CompletionDeliveryMeta) : Prop :=
  delivery.completionLifecycle = .provisionalTransfer ∨
    delivery.completionLifecycle = .nonReplayableUnknownTransfer

def provisional (record : Option Meta) : Prop :=
  ∃ entry, record = some entry ∧ entry.delivery.completionLifecycle = .provisionalTransfer

/-- The new record is provisional and the old one was not. -/
def announces (old : Option Meta) (new : CompletionDeliveryMeta) : Bool :=
  new.completionLifecycle == .provisionalTransfer &&
    !old.any fun entry => entry.delivery.completionLifecycle == .provisionalTransfer

theorem announces_iff {old : Option Meta} {new : CompletionDeliveryMeta} :
    announces old new = true ↔ new.completionLifecycle = .provisionalTransfer ∧
      ¬ provisional old := by
  cases old <;> simp [announces, provisional]

/-- Whether records also have to be truthful about helpers that were never started. That is so
only where nothing fails between a v2 record and the spawn it announces. -/
class Truth where
  required : Prop

section Faults

/-- The v2 worker that holds the lock has announced a helper and not started it yet. -/
structure Announced (pid : Nat) (disk : HandleDisk) : Prop where
  registered : disk.registered = true
  provisional : provisional disk.record
  none : disk.world.completions = 0
  newest : disk.Newest pid Lock.delivery

/-- The requests whose failure makes the helper one that was not started. -/
def Critical : Request layout outside → Prop
  | .read .registration | .read .externalTransferCustody | .replace .externalTransferCustody _
  | .sync | .external .openAttempt | .external (.system .attemptEvidence)
  | .external (.spawnHelper .complete) => True
  | _ => False

def failure : Request.Choice outside → Prop
  | .fault _ | .outside (.fail _) => True
  | _ => False

/-- The holder of the lock sees that a registration is missing, and nothing fails from an
announcement to the spawn. -/
structure Conclusive (pid : Nat) (op : Request layout outside) (choice : Request.Choice outside)
    (disk : HandleDisk) : Prop where
  absence : disk.Newest pid Lock.delivery → op = .read File.registration →
    disk.registered = false → ¬ failure choice
  announced : Announced pid disk → Critical op → ¬ failure choice

class Heeds [Truth] (policy : System.Policy completionSystem) : Prop where
  heeds : Truth.required → ∀ pid op choice disk, policy.call pid op choice disk →
    Conclusive pid op choice disk

end Faults

variable [Truth]

/-- The record owns up to its past. -/
structure Explains (delivery : CompletionDeliveryMeta) (past : Past) : Prop where
  started : 1 ≤ past.spawned → delivery.attempted = true
  left : past.orphaned = true → unresolved delivery
  spent : past.spent = true → delivery.completionLifecycle.permitsAttempt = false
  unstarted : Truth.required → delivery.attempted = true → past.spawned = 0 → unresolved delivery

/-- While nobody holds the lock, an open record is one left behind, an offer stands for everybody
and nobody has announced anything. -/
structure Valid (free : Bool) (ledger : Ledger) : Prop where
  recorded : ∃ record, ledger.record = some record ∧ Explains record.delivery ledger.past
  once : ledger.past.spawned ≤ 1
  kept : ledger.past.offered = true →
    offersRetry ledger.record = true ∨ ledger.past.spent = true
  marked : free = true → provisional ledger.record → ledger.past.orphaned = true
  offered : free = true → offersRetry ledger.record = true → ledger.past.offered = true
  quiet : free = true → ledger.past.announcers = []

def Past.rewritten (past : Past) (pid : Nat) (old : Option Meta) (new : CompletionDeliveryMeta) :
    Past :=
  { past with
    spent := past.spent ||
      (offersRetry old && new.completionLifecycle != .retryablePreAdmissionFailure)
    announcers := if announces old new then pid :: past.announcers else past.announcers }

/-- An offer that stands for everybody stays the same, or no attempt is left. -/
def Stands (ledger : Ledger) (new : CompletionDeliveryMeta) : Prop :=
  ledger.past.offered = true →
    ledger.record.map (·.delivery) = some new ∨ new.completionLifecycle.permitsAttempt = false

/-- Whoever announced a helper settles the record as an attempt only once one was started, and an
outcome becomes unknown only where it was open. -/
structure Honest (pid : Nat) (ledger : Ledger) (new : CompletionDeliveryMeta) : Prop where
  settles : Truth.required → pid ∈ ledger.past.announcers → provisional ledger.record →
    new.completionLifecycle ≠ .provisionalTransfer → new.attempted = true →
    1 ≤ ledger.past.spawned
  doubts : new.completionLifecycle = .nonReplayableUnknownTransfer →
    provisional ledger.record ∨ ledger.record.map (·.delivery) = some new

/-- What a holder of the delivery lock may do to the record and to the count. -/
inductive Moved (pid : Nat) (before after : Ledger) : Prop
  | write (new : Meta) (written : after.record = some new)
      (past : after.past = before.past.rewritten pid before.record new.delivery)
      (stands : Stands before new.delivery) (honest : Honest pid before new.delivery)
  | spawn (open_ : provisional before.record) (record : after.record = before.record)
      (expected : before.past.orphaned = false)
      (past : after.past = { before.past with spawned := before.past.spawned + 1 })

/-- Leaving the lock to nobody may leave a provisional record, or an offer, behind. -/
structure Dropped (before after : Ledger) : Prop where
  record : after.record = before.record
  spawned : after.past.spawned = before.past.spawned
  spent : after.past.spent = before.past.spent
  orphaned : before.past.orphaned = true → after.past.orphaned = true
  offered : before.past.offered = true → after.past.offered = true

/-- What nobody takes from `pid` while it holds the lock below others. -/
structure Keeps (pid : Nat) (before after : Ledger) : Prop where
  offered : after.past.offered = before.past.offered
  silent : pid ∉ before.past.announcers → pid ∉ after.past.announcers

omit [Truth] in
theorem keeps_rewritten {pid other : Nat} {before after : Ledger} {new : CompletionDeliveryMeta}
    (past : after.past = before.past.rewritten other before.record new)
    (apart : announces before.record new = true → pid ≠ other) : Keeps pid before after := by
  refine ⟨by rw [past]; rfl, fun silent => ?_⟩
  rw [past, Past.rewritten]
  split
  · next announced =>
    rw [List.mem_cons, not_or]
    exact ⟨apart announced, silent⟩
  · exact silent

theorem Moved.keeps {pid other : Nat} {before after : Ledger} (apart : other ≠ pid)
    (moved : Moved other before after) : Keeps pid before after := by
  cases moved with
  | write new _ past _ _ => exact keeps_rewritten past fun _ => apart.symm
  | spawn _ _ _ past => exact ⟨by rw [past], fun silent => by rw [past]; exact silent⟩

theorem Valid.taken {ledger : Ledger} (valid : Valid true ledger) : Valid false ledger :=
  ⟨valid.recorded, valid.once, valid.kept, nofun, nofun, nofun⟩

/-- The record stays as it is, so what is left behind can be told from it. -/
theorem Valid.left {record : Option Meta} {past : Past} {registered : Bool}
    (valid : Valid false ⟨record, past, registered⟩) : ∃ history : History,
      Valid true ⟨record, ⟨history, past.spawned⟩, registered⟩ ∧
        Dropped ⟨record, past, registered⟩ ⟨record, ⟨history, past.spawned⟩, registered⟩ := by
  obtain ⟨entry, present, explains⟩ := valid.recorded
  have offers : past.offered || offersRetry record →
      offersRetry record = true ∨ past.spent = true := by
    intro either
    rcases Bool.or_eq_true_iff.mp either with offered | offers
    · exact valid.kept offered
    · exact .inl offers
  have all (orphaned : Bool) (left : past.orphaned = true → orphaned = true)
      (marked : provisional record → orphaned = true)
      (known : orphaned = true → unresolved entry.delivery) :
      Valid true ⟨record, ⟨⟨orphaned, past.spent, past.offered || offersRetry record, []⟩,
        past.spawned⟩, registered⟩ ∧
      Dropped ⟨record, past, registered⟩ ⟨record, ⟨⟨orphaned, past.spent,
        past.offered || offersRetry record, []⟩, past.spawned⟩, registered⟩ :=
    ⟨⟨⟨entry, present, ⟨explains.started, known, explains.spent, explains.unstarted⟩⟩, valid.once,
      offers, fun _ => marked, fun _ offered => Bool.or_eq_true_iff.mpr (.inr offered),
      fun _ => rfl⟩,
    ⟨rfl, rfl, rfl, left, fun offered => Bool.or_eq_true_iff.mpr (.inl offered)⟩⟩
  by_cases open_ : provisional record
  · refine ⟨_, all true (fun _ => rfl) (fun _ => rfl) fun _ => ?_⟩
    obtain ⟨left, present', lifecycle⟩ := open_
    obtain rfl : entry = left := Option.some.inj (present.symm.trans present')
    exact .inl lifecycle
  · exact ⟨_, all past.orphaned id (fun left => absurd left open_) explains.left⟩

def owned : Owned layout outside History where
  name := Lock.delivery
  Resource := Ledger
  resource files world ghost :=
    ⟨files .metaJson, ⟨ghost, world.completions⟩, (files .registration).isSome⟩
  Log := Unit
  log _ _ := ()
  Valid := Valid
  Moves := Moved
  Drops := Dropped
  growth :=
    { Growth.none Moved Dropped with
      Keeps := Keeps
      keeps_refl := fun _ _ => ⟨rfl, id⟩
      keeps_trans := fun one two =>
        ⟨two.offered.trans one.offered, fun silent => two.silent (one.silent silent)⟩
      moves_keep := fun apart moved => moved.keeps apart }
  Depth _ := True
  shallow _ deep := deep
  one := trivial
  taken valid := valid.taken
  left valid := valid.left.imp fun _ known => ⟨known.1, .inr known.2⟩

abbrev discipline : Discipline completionSystem History := owned.discipline CompletionEntry.program

abbrev Fact := Ledger → Prop

abbrev Frame (pid : Nat) (F : View → Prop) : Prop :=
  owned.Frame CompletionEntry.program pid F

abbrev Local (pid : Nat) (P : View → Prop) : Prop := owned.Local CompletionEntry.program pid P

def margin : Margin where
  files file := file ≠ .metaJson ∧ file ≠ .registration
  ops op := op ≠ .spawnHelper .complete

theorem blind : Blind owned margin where
  writes {file} content view other := by
    refine ⟨?_, rfl⟩
    simp only [Owned.value, owned, Disk.put]
    rw [Function.update_of_ne (Ne.symm other.1), Function.update_of_ne (Ne.symm other.2)]
  asks view other acted := by
    refine ⟨?_, rfl⟩
    simp only [Owned.value, owned]
    rw [Outside.act_completions acted other]

omit [Truth] in
theorem custody : margin.Custody where
  marker := ⟨nofun, nofun⟩
  cleanup := ⟨nofun, nofun⟩
  boot := nofun

variable {policy : System.Policy completionSystem} {pid : Nat} {α : Type} {P F : View → Prop}
  {fact : Fact}

theorem spectator (known : Local pid P) :
    Spectator owned.lane CompletionEntry.program margin pid P :=
  blind.spectator known

abbrev Holds (pid : Nat) (F : View → Prop) (fact : Fact) : View → Prop := owned.Holds pid F fact

abbrev Stays (pid : Nat) (F : View → Prop) : View → Prop := owned.Stays pid F

theorem holds_local (frame : Frame pid F) : Local pid (Holds pid F fact) :=
  Owned.Holds.local_ frame

section Writes

/-- A retry is offered only while none stands for everybody. -/
def Unoffered (retries : Nat) (ledger : Ledger) : Prop :=
  retries = 0 → ledger.past.offered = false

/-- No helper was started and nobody was ever gone: the attempt is still free. A first attempt
has no offered retry to lose. -/
structure Untried (retries : Nat) (ledger : Ledger) : Prop where
  none : ledger.past.spawned = 0
  attended : ledger.past.orphaned = false
  first : retries = 0 → ledger.past.spent = false ∧ offersRetry ledger.record = false
  unoffered : Unoffered retries ledger

/-- Nobody has announced a helper since the lock was taken. -/
def Quiet (ledger : Ledger) : Prop := ledger.past.announcers = []

/-- What a process may rely on that integrates the end of a transfer it has forked. -/
structure Licence (pid retries : Nat) (ledger : Ledger) : Prop where
  unoffered : Unoffered retries ledger
  silent : pid ∉ ledger.past.announcers

omit [Truth] in
theorem Licence.kept {retries : Nat} {before after : Ledger} (keeps : Keeps pid before after)
    (licence : Licence pid retries before) : Licence pid retries after :=
  ⟨fun none => keeps.offered.trans (licence.unoffered none), keeps.silent licence.silent⟩

omit [Truth] in
theorem Licence.of_quiet {retries : Nat} {ledger : Ledger} (free : Untried retries ledger)
    (quiet : Quiet ledger) : Licence pid retries ledger :=
  ⟨free.unoffered, by rw [quiet]; exact List.not_mem_nil⟩

/-- The licence of a holder of the lock. -/
abbrev Licensed (pid retries : Nat) : View → Prop := owned.Shares pid (Licence pid retries)

/-- The attempt belongs to the worker that holds the lock. -/
structure Attended (ledger : Ledger) : Prop where
  own : ledger.past.orphaned = false
  started : Truth.required → 1 ≤ ledger.past.spawned

/-- What was known of the past before the record was written. -/
def outlived (fact : Fact) : Fact := fun ledger =>
  ∃ before, fact before ∧ ledger.past.spawned = before.past.spawned ∧
    ledger.past.orphaned = before.past.orphaned ∧ ledger.registered = before.registered

/-- What a record write leads to; after an error the old record may or may not be replaced. -/
def wrote (pid : Nat) (fact : Fact) (delivery : CompletionDeliveryMeta) :
    Except IoError Unit → Fact
  | .ok _ => fun ledger => ∃ before, fact before ∧
      ledger.past = before.past.rewritten pid before.record delivery ∧
      ledger.registered = before.registered ∧
      ∃ now, ledger.record = some now ∧ now.delivery = delivery
  | .error _ => outlived fact

omit [Truth] in
theorem outlived_of_wrote {delivery : CompletionDeliveryMeta} {ledger : Ledger}
    (known : wrote pid fact delivery (.ok ()) ledger) : outlived fact ledger := by
  obtain ⟨before, held, past, registered, -⟩ := known
  exact ⟨before, held, by rw [past]; rfl, by rw [past]; rfl, registered⟩

/-- A holder that reads the record knows it until it writes. -/
structure Seen (record : Meta) (ledger : Ledger) : Prop where
  present : ledger.record = some record
  explains : Explains record.delivery ledger.past
  kept : ledger.past.offered = true →
    offersRetry ledger.record = true ∨ ledger.past.spent = true

def seen (fact : Fact) : Except IoError Meta → Fact
  | .ok record => fun ledger => fact ledger ∧ Seen record ledger
  | .error _ => fact

/-- A write is allowed where the new record explains the past as well as the old one did. -/
structure Fits (pid : Nat) (ledger : Ledger) (delivery : CompletionDeliveryMeta) : Prop where
  explains : Explains delivery (ledger.past.rewritten pid ledger.record delivery)
  stands : Stands ledger delivery
  honest : Honest pid ledger delivery

def Allowed (pid : Nat) (fact : Fact) (delivery : CompletionDeliveryMeta) : Prop :=
  ∀ ledger, fact ledger → Fits pid ledger delivery

/-- What is known beside the lock survives a write: it announces nothing, or nothing is known. -/
def Survives (F : View → Prop) (fact : Fact) (delivery : CompletionDeliveryMeta) : Prop :=
  ∀ ledger, fact ledger → announces ledger.record delivery = true → ∀ view, F view

omit [Truth] in
theorem survives_nothing {delivery : CompletionDeliveryMeta} :
    Survives (fun _ => True) fact delivery := fun _ _ _ _ => trivial

omit [Truth] in
theorem survives_settled {delivery : CompletionDeliveryMeta}
    (settled : delivery.completionLifecycle ≠ .provisionalTransfer) :
    Survives F fact delivery :=
  fun _ _ announced => absurd (announces_iff.mp announced).1 settled

section Allowances

variable {delivery : CompletionDeliveryMeta} {ledger : Ledger} {retries : Nat}

omit [Truth] in
theorem Stands.of_attempted (attempted : delivery.attempted = true) : Stands ledger delivery :=
  fun _ => .inr (CompletionDeliveryMeta.not_permits_of_attempted attempted)

omit [Truth] in
theorem attempted_of_admitted (admitted : delivery.completionLifecycle = .admittedOutcome) :
    delivery.attempted = true := by
  by_contra other
  unfold CompletionDeliveryMeta.completionLifecycle at admitted
  rw [if_neg other] at admitted
  split at admitted <;> split at admitted <;> cases admitted

theorem Allowed.of_attended (admitted : delivery.completionLifecycle = .admittedOutcome)
    (own : ∀ ledger, fact ledger → Attended ledger) : Allowed pid fact delivery := by
  intro ledger known
  have attended := own ledger known
  have attempted := attempted_of_admitted admitted
  refine ⟨⟨fun _ => attempted, fun left => ?_, fun _ => ?_, fun required _ none => ?_⟩,
    .of_attempted attempted, fun required _ _ _ _ => attended.started required,
    fun unknown => nomatch admitted.symm.trans unknown⟩
  · exact absurd (attended.own.symm.trans left) nofun
  · exact CompletionDeliveryMeta.not_permits_of_attempted attempted
  · have some := attended.started required
    have none : ledger.past.spawned = 0 := none
    omega

/-- The outcome is unknown to others only, not to the process that announced the helper. -/
theorem Allowed.of_unknown (attempted : delivery.attempted = true)
    (unknown : delivery.completionLifecycle = .nonReplayableUnknownTransfer)
    (silent : ∀ ledger, fact ledger → pid ∉ ledger.past.announcers)
    (open_ : ∀ ledger, fact ledger → provisional ledger.record) :
    Allowed pid fact delivery :=
  fun ledger known => ⟨⟨fun _ => attempted, fun _ => .inr unknown,
    fun _ => CompletionDeliveryMeta.not_permits_of_attempted attempted, fun _ _ _ => .inr unknown⟩,
    .of_attempted attempted, fun _ announced => absurd announced (silent ledger known),
    fun _ => .inl (open_ ledger known)⟩

theorem Allowed.of_provisional : Allowed pid fact provisionalCompletionDeliveryTransferMeta :=
  fun _ _ => ⟨⟨fun _ => rfl, fun _ => .inl rfl, fun _ => rfl, fun _ _ _ => .inl rfl⟩,
    .of_attempted rfl, fun _ _ _ other => absurd rfl other, nofun⟩

omit [Truth] in
theorem not_announces_of_seen {observed : Meta} (present : ledger.record = some observed) :
    announces ledger.record observed.delivery = false := by
  by_contra announced
  obtain ⟨open_, closed⟩ := announces_iff.mp (by simpa using announced)
  exact closed ⟨observed, present, open_⟩

/-- Whoever has read the record may write its delivery part back. -/
theorem Allowed.of_seen (observed : Meta) (same : delivery = observed.delivery) :
    Allowed pid (seen fact (.ok observed)) delivery := by
  subst same
  rintro ledger ⟨-, present, explains, -⟩
  have kept : ledger.past.rewritten pid ledger.record observed.delivery = ledger.past := by
    rw [Past.rewritten, not_announces_of_seen present]
    simp only [offersRetry, present, Option.any_some, bne, Bool.and_not_self, Bool.or_false,
      Bool.false_eq_true, if_false]
  have same : ledger.record.map (·.delivery) = some observed.delivery := by
    rw [present]
    rfl
  refine ⟨by rw [kept]; exact explains, fun _ => .inl same, fun _ _ open_ settled => ?_,
    fun _ => .inr same⟩
  · obtain ⟨entry, present', lifecycle⟩ := open_
    obtain rfl : observed = entry := Option.some.inj (present.symm.trans present')
    exact absurd lifecycle settled

theorem survives_seen (observed : Meta) (same : delivery = observed.delivery) :
    Survives F (seen fact (.ok observed)) delivery := by
  subst same
  rintro ledger ⟨-, present, -⟩ announced
  exact nomatch announced.symm.trans (not_announces_of_seen present)

omit [Truth] in
theorem preAdmissionFailure_lifecycle (error : String) (code : DeliveryErrorCode)
    (retryable : Bool) : (preAdmissionFailure error code retryable retries).completionLifecycle =
      if (retryable && retries == 0) = true then .retryablePreAdmissionFailure
      else .closedPreAdmissionFailure := by
  unfold preAdmissionFailure CompletionDeliveryMeta.completionLifecycle
  cases retryable && retries == 0 <;> rfl

omit [Truth] in
theorem preAdmissionFailure_settled {error : String} {code : DeliveryErrorCode}
    {retryable : Bool} : (preAdmissionFailure error code retryable retries).completionLifecycle ≠
      .provisionalTransfer := by
  rw [preAdmissionFailure_lifecycle]
  split <;> exact nofun

theorem honest_failure {error : String} {code : DeliveryErrorCode} {retryable : Bool} :
    Honest pid ledger (preAdmissionFailure error code retryable retries) := by
  refine ⟨fun _ _ _ _ attempted => (nomatch attempted), fun unknown => ?_⟩
  rw [preAdmissionFailure_lifecycle] at unknown
  split at unknown <;> cases unknown

/-- A failure before the admission of a first attempt may offer a retry, a later one closes. -/
theorem Allowed.of_failure {error : String} {code : DeliveryErrorCode} {retryable : Bool}
    (free : ∀ ledger, fact ledger → ledger.past.spawned = 0 ∧ ledger.past.orphaned = false ∧
      (retries = 0 → ledger.past.spent = false))
    (unoffered : ∀ ledger, fact ledger → Unoffered retries ledger) :
    Allowed pid fact (preAdmissionFailure error code retryable retries) := by
  intro ledger known
  obtain ⟨none, attended, unspent⟩ := free ledger known
  by_cases offers : (retryable && retries == 0) = true
  · have first : retries = 0 := by simpa using (Bool.and_eq_true_iff.mp offers).2
    refine ⟨⟨fun some => ?_, fun left => ?_, fun spent => ?_, fun _ attempted => nomatch attempted⟩,
      fun offered => ?_, honest_failure⟩
    · have some : 1 ≤ ledger.past.spawned := some
      omega
    · exact absurd (attended.symm.trans left) nofun
    · simp [Past.rewritten, unspent first, preAdmissionFailure_lifecycle, offers] at spent
    · exact nomatch offered.symm.trans (unoffered ledger known first)
  · have closed : (preAdmissionFailure error code retryable retries).completionLifecycle.permitsAttempt
        = false := by
      rw [preAdmissionFailure_lifecycle, if_neg offers]
      rfl
    refine ⟨⟨fun some => ?_, fun left => ?_, fun _ => closed, fun _ attempted => nomatch attempted⟩,
      fun _ => .inr closed, honest_failure⟩
    · have some : 1 ≤ ledger.past.spawned := some
      omega
    · exact absurd (attended.symm.trans left) nofun

theorem free_of_permits (explains : Explains delivery ledger.past)
    (permits : delivery.completionLifecycle.permitsAttempt = true) :
    ledger.past.spawned = 0 ∧ ledger.past.orphaned = false ∧ ledger.past.spent = false := by
  refine ⟨?_, ?_, ?_⟩
  · by_contra some
    have attempted := explains.started (Nat.one_le_iff_ne_zero.mpr some)
    rw [CompletionDeliveryMeta.not_permits_of_attempted attempted] at permits
    cases permits
  · by_contra left
    rcases explains.left (by simpa using left) with open_ | unknown
    · rw [open_] at permits
      cases permits
    · rw [unknown] at permits
      cases permits
  · by_contra spent
    rw [explains.spent (by simpa using spent)] at permits
    cases permits

/-- A first attempt follows a record that offers nothing, and so does not stand for an offer. -/
theorem untried_of_permits {record : Meta} (known : Seen record ledger)
    (permits : record.delivery.completionLifecycle.permitsAttempt = true) :
    Untried (nextRetryCount record.delivery record.delivery.completionLifecycle) ledger := by
  obtain ⟨none, attended, unspent⟩ := free_of_permits known.explains permits
  have other : nextRetryCount record.delivery record.delivery.completionLifecycle = 0 →
      offersRetry ledger.record = false := by
    intro first
    by_contra offers
    have retry : record.delivery.completionLifecycle = .retryablePreAdmissionFailure := by
      simpa [offersRetry, known.present] using offers
    unfold nextRetryCount at first
    rw [if_pos retry] at first
    omega
  refine ⟨none, attended, fun first => ⟨unspent, other first⟩, fun first => ?_⟩
  by_contra offered
  rcases known.kept (by simpa using offered) with offers | spent
  · exact nomatch offers.symm.trans (other first)
  · exact nomatch spent.symm.trans unspent

end Allowances

theorem replaceMeta_keeps (frame : Frame pid F) {record : Meta}
    (allowed : Allowed pid fact record.delivery) (survives : Survives F fact record.delivery)
    {view : View} (inv : owned.Inv view) (holds : Holds pid F fact view) :
    owned.lane.Keeps pid view (view.1.write (L := layout) File.metaJson record)
      (Holds pid F (wrote pid fact record.delivery (.ok ()))) := by
  have valid := holds.valid inv
  have fits := allowed _ holds.2.2
  let past := (owned.value view).past.rewritten pid (owned.value view).record record.delivery
  let after : View := (view.1.write (L := layout) File.metaJson record, past.toHistory)
  have present : (owned.value after).record = some record :=
    Disk.put_same view.1 (L := layout) File.metaJson _
  have rewritten : (owned.value after).past = past := rfl
  have registered : (owned.value after).registered = (owned.value view).registered := by
    simp only [after, Owned.value, owned, Disk.write]
    rw [Disk.put_other view.1 _ (by exact nofun : File.registration ≠ File.metaJson)]
  have moved : owned.Moved pid view after :=
    ⟨holds.1, .write record present rewritten fits.stands fits.honest, rfl⟩
  have framed : F after := by
    by_cases announced : announces (owned.value view).record record.delivery = true
    · exact survives _ holds.2.2 announced _
    · exact frame.same rfl rfl (moved.passed (keeps_rewritten rewritten
        fun announces => absurd announces announced)) holds.2.1
  have kept : (owned.value after).past.offered = true →
      offersRetry (owned.value after).record = true ∨ (owned.value after).past.spent = true := by
    intro offered
    rw [present, rewritten]
    rcases valid.kept offered with offers | spent
    · cases offering : offersRetry (some record) with
      | true => exact .inl rfl
      | false =>
          have other : (record.delivery.completionLifecycle == .retryablePreAdmissionFailure) =
            false := offering
          exact .inr (by simp only [past, Past.rewritten, offers, bne, other]; simp)
    · exact .inr (by simp only [past, Past.rewritten, spent, Bool.true_or])
  exact Owned.keeps_moved inv rfl moved
    ⟨⟨record, present, fits.explains⟩, valid.once, kept, nofun, nofun, nofun⟩
    ⟨holds.1, framed, _, holds.2.2, rewritten, registered, record, present, rfl⟩

theorem atomicWriteMeta_spec (frame : Frame pid F) {record : Meta}
    (allowed : Allowed pid fact record.delivery) (survives : Survives F fact record.delivery) :
    Spec discipline policy pid (Holds pid F fact) (atomicWrite .metaJson record)
      fun result => Holds pid F (wrote pid fact record.delivery result) := by
  refine Spec.bind (Lane.replace
    (Q := fun result => Holds pid F (wrote pid fact record.delivery result))
    (holds_local frame).stable
    (fun _ _ inv holds _ _ => replaceMeta_keeps frame allowed survives inv holds)
    fun _ _ _ _ holds => holds.imp fun ledger known => ⟨ledger, known, rfl, rfl, rfl⟩)
    (fun _ => ?_) fun _ _ _ holds => holds
  refine (spectator (holds_local frame)).syncDirectory.relax fun result view _ holds => ?_
  cases result with
  | ok _ => exact holds
  | error _ => exact holds.imp fun _ known => outlived_of_wrote known

theorem writeMetaAtomic_spec (frame : Frame pid F) {record : Meta}
    (allowed : Allowed pid fact record.delivery) (survives : Survives F fact record.delivery) :
    Spec discipline policy pid (Holds pid F fact) (writeMetaAtomic record)
      fun result => Holds pid F (wrote pid fact record.delivery result) := by
  refine Spec.handle (spectator (holds_local frame)).readDeliveryMode fun answer => ?_
  cases answer <;> exact atomicWriteMeta_spec frame allowed survives

theorem readMeta_spec (frame : Frame pid F) :
    Spec discipline policy pid (Holds pid F fact) readMeta
      fun result => Holds pid F (seen fact result) := by
  refine readFile_spec (holds_local frame).stable (fun view content inv holds present => ?_)
    (fun _ _ holds _ => holds) (fun _ _ _ _ holds => holds)
  have valid := holds.valid inv
  obtain ⟨record, there, explains⟩ := valid.recorded
  have same : some content = some record := present.symm.trans there
  cases same
  exact ⟨holds.1, holds.2.1, holds.2.2, present, explains, valid.kept⟩

end Writes

section Execution

/-- A helper was announced and none was started yet. -/
structure Primed (ledger : Ledger) : Prop where
  none : ledger.past.spawned = 0
  own : ledger.past.orphaned = false
  announced : provisional ledger.record

/-- The same where a failure will be recorded with the number of retries. -/
def ready (retries : Nat) : Fact := fun ledger =>
  Untried retries ledger ∧ provisional ledger.record

/-- A worker of the v2 path knows that there is a registration. -/
def enrolled : Fact := fun ledger => Truth.required → ledger.registered = true

def armed : Fact := fun ledger => Primed ledger ∧ enrolled ledger

omit [Truth] in
theorem primed_of_ready {retries : Nat} {ledger : Ledger} (known : ready retries ledger) :
    Primed ledger :=
  ⟨known.1.none, known.1.attended, known.2⟩

/-- What is left after a failure before the spawn: it was not a conclusive run of a v2 worker. -/
def undone (fact : Fact) : Fact := fun ledger =>
  fact ledger ∧ (Truth.required → ledger.registered = false)

theorem Attended.of_undone {ledger : Ledger} (known : undone armed ledger) : Attended ledger := by
  refine ⟨known.1.1.own, fun required => ?_⟩
  have registered := known.1.2 required
  exact nomatch registered.symm.trans (known.2 required)

/-- A critical request does not fail for an announced v2 helper. -/
theorem undone_of_failed [Heeds policy] {op : Request layout outside}
    {choice : Request.Choice outside} {view : View} (holds : Holds pid F fact view)
    (primed : ∀ ledger, fact ledger → Primed ledger)
    (permitted : policy.call pid op choice view.1) (critical : Critical op)
    (failed : failure choice) : Holds pid F (undone fact) view := by
  refine ⟨holds.1, holds.2.1, holds.2.2, fun required => ?_⟩
  have known := primed _ holds.2.2
  by_contra other
  have registered : (owned.value view).registered = true := by simpa using other
  exact (Heeds.heeds required pid op choice view.1 permitted).announced
    ⟨registered, known.announced, known.none, holds.1⟩ critical failed

/-- What starting a helper leads to; an error proves that none was started. -/
def spawnedFact (fact : Fact) : Except IoError Unit → Fact
  | .ok _ => Attended
  | .error _ => undone fact

/-- What a helper command leaves behind: only a helper that was not started never ran. -/
def ran (fact : Fact) : Except DeliveryHelperCommandError α → Fact
  | .error (.notStarted _) => undone fact
  | _ => Attended

def commanded (pid : Nat) (F : View → Prop) (fact : Fact) :
    Except IoError (Except DeliveryHelperCommandError α) → View → Prop
  | .ok answer => Holds pid F (ran fact answer)
  | .error _ => Stays pid F

theorem commanded_stays {result : Except IoError (Except DeliveryHelperCommandError α)}
    {view : View} (holds : commanded pid F fact result view) : Stays pid F view := by
  cases result with
  | ok answer => exact Owned.Holds.stays holds
  | error _ => exact holds

theorem spawnHelper_spec [Heeds policy] (frame : Frame pid F)
    (primed : ∀ ledger, fact ledger → Primed ledger) :
    Spec discipline policy pid (Holds pid F fact) (outsideAsk (.spawnHelper .complete))
      fun result => Holds pid F (spawnedFact fact result) := by
  refine Lane.external (holds_local frame).stable ?_
  intro view choice answer world _ inv holds _ permitted acted
  cases choice with
  | agree =>
      obtain ⟨rfl, rfl⟩ := Prod.mk.inj (Option.some.inj acted)
      obtain ⟨none, own, record, present, open_⟩ := primed _ holds.2.2
      have none' : view.1.world.completions = 0 := none
      have valid := holds.valid inv
      have attempted := CompletionDeliveryMeta.attempted_of_provisional open_
      let after : View := ({ view.1 with world := view.1.world.spawned pid .complete }, view.2)
      have explained : Explains record.delivery (owned.value after).past :=
        ⟨fun _ => attempted, fun _ => .inl open_,
          fun _ => CompletionDeliveryMeta.not_permits_of_attempted attempted,
          fun _ _ none => nomatch none⟩
      have counted : view.1.world.completions + 1 ≤ 1 := by omega
      have started : 1 ≤ view.1.world.completions + 1 := by omega
      have moved : owned.Moved pid view after :=
        ⟨holds.1, .spawn ⟨record, present, open_⟩ rfl own rfl, rfl⟩
      exact Owned.keeps_moved inv rfl moved
        ⟨⟨record, present, explained⟩, counted, valid.kept, nofun, nofun, nofun⟩
        ⟨holds.1, frame.same rfl rfl (moved.passed ⟨rfl, id⟩) holds.2.1, own, fun _ => started⟩
  | fail error =>
      obtain ⟨rfl, rfl⟩ := Prod.mk.inj (Option.some.inj acted)
      exact Owned.keeps_quiet inv rfl (.of_disk rfl rfl)
        (undone_of_failed holds primed permitted trivial trivial)
  | _ => cases acted

theorem waitHelper_spec [Heeds policy] (frame : Frame pid F)
    (primed : ∀ ledger, fact ledger → Primed ledger) (kind : String) :
    Spec discipline policy pid (Holds pid F fact) (waitHelper kind .complete)
      (commanded pid F fact) := by
  refine Spec.handle (spawnHelper_spec frame primed) fun answer => ?_
  cases answer with
  | error error => exact .pure fun _ _ holds => holds
  | ok _ =>
      refine Spec.handle (Q := fun _ => Holds pid F Attended)
        ((spectator (holds_local frame)).outsideAsk (by exact nofun)) fun status => ?_
      cases status <;> exact .pure fun _ _ holds => holds

section Custody

variable [Heeds policy] (frame : Frame pid F) (primed : ∀ ledger, fact ledger → Primed ledger)

/-- What a step before the spawn leads to, when its failure is one of the helper. -/
def tried {ρ : Type} (fact : Fact) : Except IoError ρ → Fact
  | .ok _ => fact
  | .error _ => undone fact

include frame primed

theorem readCritical_spec (file : File) (critical : Critical (.read file)) :
    Spec discipline policy pid (Holds pid F fact) (readOptional file)
      fun result => Holds pid F (tried fact result) := by
  refine Spec.handle (Q := fun result view => Holds pid F fact view ∧
    ∀ error, result = .error error → error.kind ≠ .notFound → Holds pid F (undone fact) view)
    (Lane.readPermitted (holds_local frame).stable (fun _ _ _ holds _ => ⟨holds, nofun⟩) ?_ ?_)
    fun answer => ?_
  · rintro view _ holds _
    refine ⟨holds, fun error same other => ?_⟩
    cases same
    exact absurd rfl other
  · intro error view _ permitted _ holds
    exact ⟨holds, fun _ _ _ => undone_of_failed holds primed permitted critical trivial⟩
  · cases answer with
    | ok content => exact .pure fun _ _ known => known.1
    | error error =>
        refine .branch (fun _ => .pure fun _ _ known => known.1) fun other => ?_
        exact .throw fun _ _ known => known.2 error rfl other

theorem beginExternalTransferCustody_spec :
    Spec discipline policy pid (Holds pid F fact) beginExternalTransferCustody
      fun result => Holds pid F (tried fact result) := by
  have known := spectator (P := Holds pid F fact) (holds_local frame)
  have boots : Spec discipline policy pid (Holds pid F fact) (outsideAsk .currentBootId)
      fun result => Holds pid F (tried fact result) := by
    refine Lane.external (holds_local frame).stable ?_
    intro view choice answer world _ inv holds _ _ acted
    cases choice with
    | boot id =>
        obtain ⟨rfl, rfl⟩ := Prod.mk.inj (Option.some.inj acted)
        exact Owned.keeps_quiet inv rfl (.of_disk rfl rfl) holds
    | _ => cases acted
  refine Spec.bind boots (fun boot => ?_) fun _ _ _ holds => holds
  refine Spec.bind (Q := fun result => Holds pid F (tried fact result)) ?_ (fun retained => ?_)
    fun _ _ _ holds => holds
  · refine Spec.bind (Q := fun result => Holds pid F (tried fact result)) ?_ (fun present => ?_)
      fun _ _ _ holds => holds
    · exact Spec.bind (readCritical_spec frame primed .externalTransferCustody trivial)
        (fun _ => .pure fun _ _ holds => holds) fun _ _ _ holds => holds
    · refine .branch (fun _ => ?_) fun _ => .pure fun _ _ holds => holds
      refine Spec.handle (Q := fun _ => Holds pid F fact) (known.readFile _) fun answer => ?_
      cases answer <;> exact .pure fun _ _ holds => holds
  · refine .branch (fun _ => .pure fun _ _ holds => holds) fun _ => ?_
    refine Spec.bind (Q := fun result => Holds pid F (tried fact result)) ?_
      (fun _ => .pure fun _ _ holds => holds) fun _ _ _ holds => holds
    refine Spec.bind (Q := fun result => Holds pid F (tried fact result)) ?_ (fun _ => ?_)
      fun _ _ _ holds => holds
    · refine Lane.askPermitted (holds_local frame).stable (fun _ => nofun)
        (fun _ error view _ permitted _ holds =>
          undone_of_failed holds primed permitted trivial trivial) ?_
      intro view answer after sound inv holds _ _ performed
      obtain ⟨rfl, rfl⟩ := Prod.mk.inj (Option.some.inj performed)
      exact ⟨sound.of_held rfl rfl rfl, .of_held (.of_frame rfl rfl rfl) rfl,
        known.writes (show Option (File.Content .externalTransferCustody) from some boot)
          custody.marker inv holds⟩
    · refine Lane.askPermitted (holds_local frame).stable (fun _ => nofun)
        (fun _ error view _ permitted _ holds =>
          undone_of_failed holds primed permitted trivial trivial) ?_
      intro view answer after sound inv holds _ _ performed
      obtain ⟨rfl, rfl⟩ := Prod.mk.inj (Option.some.inj performed)
      exact ⟨sound, .refl _ _, .idle inv holds⟩

theorem runInCustody_spec (external : Bool)
    {operation : Script (Except DeliveryHelperCommandError α)}
    (spec : Spec discipline policy pid (Holds pid F fact) operation (commanded pid F fact)) :
    Spec discipline policy pid (Holds pid F fact)
      (withExternalTransferCustody external operation) (commanded pid F fact) := by
  refine withExternalTransferCustody_begun custody external
    ((beginExternalTransferCustody_spec frame primed).relax fun result view _ holds => ?_)
    (fun _ => spectator (holds_local frame)) (fun _ _ _ holds => Owned.Holds.stays holds) spec
  cases result with
  | ok _ => exact holds
  | error _ => exact holds

end Custody

omit [Truth] in
theorem status_admitted (status : ExitStatus) :
    (completionDeliveryMetaFromStatus status).completionLifecycle = .admittedOutcome := by
  cases status <;> rfl

theorem writeSettled_spec (frame : Frame pid F) {record : Meta}
    (admitted : record.delivery.completionLifecycle = .admittedOutcome)
    (own : ∀ ledger, fact ledger → Attended ledger) :
    Spec discipline policy pid (Holds pid F fact) (writeMetaAtomic record)
      fun _ => Stays pid F :=
  (writeMetaAtomic_spec frame (.of_attended admitted own)
    (survives_settled (by rw [admitted]; exact nofun))).relax fun _ _ _ holds => holds.stays

/-- Anybody else at the lock may record that the outcome is unknown. -/
theorem writeUnknown_spec (frame : Frame pid F) {record : Meta}
    (attempted : record.delivery.attempted = true)
    (unknown : record.delivery.completionLifecycle = .nonReplayableUnknownTransfer)
    (silent : ∀ ledger, fact ledger → pid ∉ ledger.past.announcers)
    (open_ : ∀ ledger, fact ledger → provisional ledger.record) :
    Spec discipline policy pid (Holds pid F fact) (writeMetaAtomic record)
      fun _ => Stays pid F :=
  (writeMetaAtomic_spec frame (.of_unknown attempted unknown silent open_)
    (survives_settled (by rw [unknown]; exact nofun))).relax fun _ _ _ holds => holds.stays

/-- While the attempt is free, its failure may be written. -/
theorem writeFailure_spec (frame : Frame pid F) {record : Meta} {retries : Nat} {error : String}
    {code : DeliveryErrorCode} {retryable : Bool}
    (free : ∀ ledger, fact ledger → Untried retries ledger) :
    Spec discipline policy pid (Holds pid F fact)
      (writeMetaAtomic
        { record with delivery := preAdmissionFailure error code retryable retries })
      fun _ => Stays pid F := by
  refine (writeMetaAtomic_spec frame (.of_failure (fun ledger known => ?_) fun ledger known =>
    (free ledger known).unoffered) (survives_settled preAdmissionFailure_settled)).relax
    fun _ _ _ holds => holds.stays
  have untried := free ledger known
  exact ⟨untried.none, untried.attended, fun first => (untried.first first).1⟩

/-- The worker of a transfer keeps no assertion about other locks, so it may take one, and
announces its helper. -/
abbrev Working (pid : Nat) (fact : Fact) : View → Prop := Holds pid (fun _ => True) fact

/-- The record written before a spawn: nobody was spawned and nobody else can spawn. -/
theorem writeProvisional_spec (record : Meta) {retries : Nat}
    (free : ∀ ledger, fact ledger → Untried retries ledger) :
    Spec discipline policy pid (Working pid fact)
      (writeMetaAtomic { record with delivery := provisionalCompletionDeliveryTransferMeta }) fun
        | .ok _ => Working pid fun ledger => ready retries ledger ∧ outlived fact ledger
        | .error _ => Stays pid fun _ => True := by
  refine (writeMetaAtomic_spec .top .of_provisional survives_nothing).relax ?_
  intro result view _ holds
  cases result with
  | error _ => exact Owned.Holds.stays holds
  | ok _ =>
      refine holds.imp fun ledger known => ⟨⟨?_, ?_⟩, outlived_of_wrote known⟩
      · obtain ⟨before, held, past, -, now, present, announced⟩ := known
        obtain ⟨none, attended, first, unoffered⟩ := free before held
        refine ⟨by rw [past]; exact none, by rw [past]; exact attended, fun zero => ?_,
          fun zero => by rw [past]; exact unoffered zero⟩
        obtain ⟨unspent, nothing⟩ := first zero
        refine ⟨?_, ?_⟩
        · simp [past, Past.rewritten, unspent, nothing]
        · simp [offersRetry, present, announced, CompletionDeliveryMeta.completionLifecycle,
            provisionalCompletionDeliveryTransferMeta]
      · obtain ⟨_, _, _, -, now, present, announced⟩ := known
        exact ⟨now, present, by rw [announced]; rfl⟩

theorem executeLegacyTransfer_spec [Heeds policy] (record : Meta) (retryCount : Nat)
    (external : Bool) :
    Spec discipline policy pid (Working pid (Untried retryCount))
      (executeLegacyTransfer record retryCount external) fun _ => Stays pid fun _ => True := by
  have frame : Frame pid fun _ => True := .top
  refine ((spectator (holds_local frame)).outsideAsk (by exact nofun)).before ?_
    fun _ _ _ holds => holds.stays
  intro request
  cases request with
  | error error => exact writeFailure_spec frame fun _ free => free
  | ok _ =>
      refine Spec.bind (writeProvisional_spec record fun _ free => free) (fun _ => ?_)
        fun _ _ _ holds => holds
      refine Spec.strengthen (P := Working pid (ready retryCount)) ?_ fun _ _ holds =>
        holds.imp fun _ known => known.1
      have primed : ∀ ledger, ready retryCount ledger → Primed ledger := fun _ => primed_of_ready
      refine Spec.bind (runInCustody_spec frame primed external
        (waitHelper_spec frame primed _)) (fun answer => ?_)
        fun _ _ _ holds => commanded_stays holds
      rcases answer with ⟨error | error⟩ | status
      · exact writeFailure_spec frame fun _ known => known.1.1
      · exact writeSettled_spec frame rfl fun _ own => own
      · exact writeSettled_spec frame (status_admitted status) fun _ own => own

omit [Truth] in
/-- Only a failure is an answer to a critical request without a value. -/
theorem failure_of_error {op : Outside} {choice : Decision} {disk : HandleDisk} {error : IoError}
    {world : World} (critical : Critical (.external op))
    (acted : op.act pid choice disk = some (.error error, world)) : failure (.outside choice) := by
  cases op with
  | system | openAttempt | spawnHelper =>
      cases choice with
      | fail _ => trivial
      | _ => cases acted
  | _ => cases critical

/-- A critical request that only looks changes nothing, and its failure is one of the helper. -/
theorem askCritical_spec [Heeds policy] (frame : Frame pid F)
    (primed : ∀ ledger, fact ledger → Primed ledger) {op : Outside}
    (critical : Critical (.external op)) (other : margin.ops op) :
    Spec discipline policy pid (Holds pid F fact) (outsideAsk op)
      fun result => Holds pid F (tried fact result) := by
  refine Lane.external (holds_local frame).stable ?_
  intro view choice answer world _ inv holds _ permitted acted
  cases answer with
  | ok _ => exact (spectator (holds_local frame)).asks other inv holds acted
  | error error =>
      have failed := failure_of_error critical acted
      exact (spectator (holds_local frame)).asks other inv
        (undone_of_failed holds primed permitted critical failed) acted

theorem prepareAttempt_spec [Heeds policy] (frame : Frame pid F) :
    Spec discipline policy pid (Holds pid F armed) prepareAttempt
      fun result => Holds pid F (tried armed result) := by
  have primed : ∀ ledger, armed ledger → Primed ledger := fun _ known => known.1
  refine Spec.bind (askCritical_spec frame primed trivial nofun) (fun retained => ?_)
    fun _ _ _ holds => holds
  refine Spec.bind (Q := fun result => Holds pid F (tried armed result))
    (Lane.readPermitted (holds_local frame).stable (fun _ _ _ holds _ => holds) ?_ ?_)
    (fun _ => ?_) fun _ _ _ holds => holds
  · intro view _ holds absent
    refine ⟨holds.1, holds.2.1, holds.2.2, fun _ => ?_⟩
    simp only [Owned.value, owned, absent]
    rfl
  · intro error view _ permitted _ holds
    exact undone_of_failed holds primed permitted trivial trivial
  · exact Spec.bind (askCritical_spec frame primed trivial nofun)
      (fun _ => .pure fun _ _ holds => holds) fun _ _ _ holds => holds

theorem structuredHelper_spec [Heeds policy] (frame : Frame pid F) :
    Spec discipline policy pid (Holds pid F armed) (structuredHelper .complete)
      (commanded pid F armed) := by
  refine Spec.handle (prepareAttempt_spec frame) fun prepared => ?_
  cases prepared with
  | error error => exact .pure fun _ _ holds => holds
  | ok retained =>
      refine Spec.bind (waitHelper_spec frame (fun _ known => known.1) _) (fun answer => ?_)
        fun _ _ _ holds => holds
      cases answer with
      | error error =>
          refine .pure fun _ _ holds => ?_
          cases error <;> exact holds
      | ok status =>
          have known := spectator (P := Holds pid F Attended) (holds_local frame)
          have records : Steady discipline policy pid (Holds pid F Attended)
              (recordAttempt retained status) :=
            .bind (known.outsideAsk (by exact nofun)) fun _ =>
              .branch (known.outsideAsk (by exact nofun)) .throw
          refine Spec.handle records fun receipt => ?_
          cases receipt <;> exact .pure fun _ _ holds => holds

/-- Whatever a v2 helper answers, its worker stands by the attempt. -/
theorem runStructuredHelper_spec [Heeds policy] (frame : Frame pid F) (external : Bool) :
    Spec discipline policy pid (Holds pid F armed) (runStructuredHelper .complete external) fun
      | .ok _ => Holds pid F Attended
      | .error _ => Stays pid F := by
  refine (runInCustody_spec frame (fun _ known => known.1) external
    (structuredHelper_spec frame)).relax fun result view _ holds => ?_
  match result, holds with
  | .ok (.ok _), holds => exact holds
  | .ok (.error (.admitted _)), holds => exact holds
  | .ok (.error (.notStarted _)), holds => exact holds.imp fun _ known => .of_undone known
  | .error _, holds => exact holds

theorem acceptContinuation_spec :
    Steady discipline policy pid (Working pid fact) acceptContinuation := by
  have known := spectator (P := Working pid fact) (holds_local .top)
  refine .bind (known.outsideAsk (by exact nofun)) fun _ => ?_
  have own : owned.name ≠ Lock.continuation := nofun
  refine lockedElsewhere_spec (Q := fun _ => fact) .top own (fun _ _ known => known) ?_
  exact Steady.bind (known.readFile _) fun _ => known.atomicWrite ⟨nofun, nofun⟩

theorem executeContinuationTransfer_spec [Heeds policy] (record : Meta) {retries : Nat}
    (external : Bool) :
    Spec discipline policy pid (Working pid fun ledger => Untried retries ledger ∧ enrolled ledger)
      (executeContinuationTransfer record external) fun _ => Stays pid fun _ => True := by
  have frame : Frame pid fun _ => True := .top
  refine ((spectator (holds_local frame)).outsideAsk (by exact nofun)).before ?_
    fun _ _ _ holds => holds.stays
  intro request
  cases request with
  | error error => exact .throw fun _ _ holds => holds.stays
  | ok _ =>
      refine Spec.bind (writeProvisional_spec record fun _ known => known.1) (fun _ => ?_)
        fun _ _ _ holds => holds
      refine Spec.strengthen (P := Working pid armed) ?_ fun _ _ holds =>
        holds.imp fun ledger known => ⟨primed_of_ready known.1, fun required => ?_⟩
      · refine Spec.bind (Q := fun
          | .ok _ => Working pid Attended
          | .error _ => Stays pid fun _ => True) ?_ (fun result => ?_) fun _ _ _ holds => holds
        · refine Spec.bind (runStructuredHelper_spec frame external) (fun answer => ?_)
            fun _ _ _ holds => holds
          rcases answer with ⟨error | error⟩ | _
          · exact .pure fun _ _ holds => holds
          · exact .pure fun _ _ holds => holds
          · exact (Steady.attempt acceptContinuation_spec).relax fun result _ _ holds => by
              cases result with
              | ok _ => exact holds
              | error _ => exact Owned.Holds.stays holds
        · cases result with
          | ok _ => exact writeSettled_spec frame rfl fun _ own => own
          | error _ => exact writeSettled_spec frame rfl fun _ own => own
      · obtain ⟨before, held, -, -, registered⟩ := known.2
        rw [registered]
        exact held.2 required

theorem continuationEnabled_spec [Heeds policy] (frame : Frame pid F) :
    Spec discipline policy pid (Holds pid F fact) continuationEnabled fun
      | .ok enabled => Holds pid F fun ledger => fact ledger ∧ (enabled = true → enrolled ledger)
      | .error _ => Stays pid F := by
  refine Spec.handle (Q := fun result => Holds pid F fun ledger => fact ledger ∧
    (result ≠ .error ⟨.notFound, "No such file or directory"⟩ → enrolled ledger))
    (Lane.readPermitted (holds_local frame).stable ?_ ?_ ?_) fun answer => ?_
  · intro view content _ holds present
    refine ⟨holds.1, holds.2.1, holds.2.2, fun _ _ => ?_⟩
    simp only [Owned.value, owned, present]
    rfl
  · intro view _ holds _
    exact ⟨holds.1, holds.2.1, holds.2.2, fun other => absurd rfl other⟩
  · intro error view _ permitted _ holds
    refine ⟨holds.1, holds.2.1, holds.2.2, fun _ required => ?_⟩
    by_contra other
    have absent : (owned.value view).registered = false := by simpa using other
    exact (Heeds.heeds required pid _ _ view.1 permitted).absence holds.1 rfl absent trivial
  · cases answer with
    | ok content =>
        exact .pure fun _ _ holds => holds.imp fun _ known => ⟨known.1, fun _ => known.2 nofun⟩
    | error error =>
        refine .pure fun _ _ holds => holds.imp fun _ known => ⟨known.1, fun other => ?_⟩
        refine known.2 fun same => ?_
        cases same
        cases other

theorem executeCompletionTransfer_spec [Heeds policy] (record : Meta) (retryCount : Nat)
    (external : Bool) :
    Spec discipline policy pid (Working pid (Untried retryCount))
      (executeCompletionTransfer record retryCount external)
      fun _ => Stays pid fun _ => True := by
  refine Spec.bind (continuationEnabled_spec .top) (fun enabled => ?_) fun _ _ _ holds => holds
  refine .branch (fun v2 => ?_) fun _ => ?_
  · exact (executeContinuationTransfer_spec record external).strengthen fun _ _ holds =>
      holds.imp fun _ known => ⟨known.1, known.2 v2⟩
  · exact (executeLegacyTransfer_spec record retryCount external).strengthen fun _ _ holds =>
      holds.imp fun _ known => known.1

/-- What the owner, or the custodian, makes of a transfer that came to an end. -/
theorem integrateCompletionTransfer_spec (frame : Frame pid F) (result : Except IoError Unit)
    (retryCount : Nat) (licensed : ∀ view, F view → Licensed pid retryCount view) :
    Steady discipline policy pid (Stays pid F) (integrateCompletionTransfer result retryCount) := by
  refine Spec.bind (readMeta_spec frame) (fun observed => ?_) fun _ _ _ holds => holds.stays
  cases result with
  | ok _ => exact .pure fun _ _ holds => holds.stays
  | error error =>
      let knows : Fact := seen (Licence pid retryCount) (.ok observed)
      have write (delivery : CompletionDeliveryMeta) (allowed : Allowed pid knows delivery)
          (settled : delivery.completionLifecycle ≠ .provisionalTransfer) :
          Spec discipline policy pid (Holds pid F (seen (fun _ => True) (.ok observed)))
            (writeMetaAtomic { observed with delivery } >>= fun _ =>
              Pure.pure { observed with delivery }) fun _ => Stays pid F := by
        refine Spec.strengthen (P := Holds pid F knows) ?_ fun view _ holds =>
          ⟨holds.1, holds.2.1, (licensed view holds.2.1).2, holds.2.2.2⟩
        exact Spec.bind (writeMetaAtomic_spec frame allowed (survives_settled settled))
          (fun _ => .pure fun _ _ holds => holds.stays) fun _ _ _ holds => holds.stays
      have free (permits : observed.delivery.completionLifecycle.permitsAttempt = true) :
          Allowed pid knows (completionDeliveryMetaFromOwnerLaunchError error retryCount) :=
        .of_failure (fun _ known =>
          have free := free_of_permits known.2.explains permits
          ⟨free.1, free.2.1, fun _ => free.2.2⟩) fun _ known => known.1.unoffered
      cases lifecycle : observed.delivery.completionLifecycle with
      | unclaimed => exact write _ (free (by rw [lifecycle]; rfl)) preAdmissionFailure_settled
      | retryablePreAdmissionFailure =>
          exact write _ (free (by rw [lifecycle]; rfl)) preAdmissionFailure_settled
      | provisionalTransfer =>
          exact write _ (.of_unknown rfl rfl (fun _ known => known.1.silent) fun _ known =>
            ⟨observed, known.2.present, lifecycle⟩) nofun
      | _ => exact .pure fun _ _ holds => holds.stays

end Execution

end CompletionLane

end AgentBash
