import AgentBash.Image.Store

/-!
# Accounting of the image store

One epoch of the custodian: requests and time come in any order, and every request may be refused,
held back, left unmade or served. What is retained stays accounted for, in the order in which it was
last served, and creations stay within the rate.
-/

namespace AgentBash

set_option autoImplicit false

open Durable

/-- Removing duplicates keeps the last occurrence, so a new last element replaces an old one. -/
theorem dedup_append_singleton {α : Type} [DecidableEq α] (last : α) (list : List α) :
    (list ++ [last]).dedup = list.dedup.filter (· ≠ last) ++ [last] := by
  induction list with
  | nil => rfl
  | cons first list ih =>
      rw [List.cons_append]
      by_cases again : first ∈ list
      · rw [List.dedup_cons_of_mem (List.mem_append_left _ again), ih,
          List.dedup_cons_of_mem again]
      · rw [List.dedup_cons_of_notMem again]
        by_cases same : first = last
        · rw [List.dedup_cons_of_mem (by simp [same]), ih,
            List.filter_cons_of_neg (by simp [same])]
        · rw [List.dedup_cons_of_notMem (by simp [same, again]), ih,
            List.filter_cons_of_pos (by simp [same]), List.cons_append]

namespace Image

variable [Codec]

/-- The store after some requests, of which `served` are the keys that were served. -/
structure Accounted (store : Store) (served : List Key) : Prop where
  exact : ∀ key image, store.images.lookup key = some image →
    image.bytes.length = key.len ∧ Codec.sha256 image.bytes = key.digest
  total : store.bytes = (store.images.keys.map Key.len).sum
  fits : store.bytes ≤ store.limits.bytes
  few : store.images.keys.length ≤ store.limits.count
  known : ∀ key ∈ store.images.keys, key ∈ served
  queue : store.recency = served.dedup.filter (· ∈ store.images.keys)

variable {store made : Store} {served : List Key} {key : Key} {len : Nat} {recency : List Key}

theorem accounted_new (limits : Limits) (now : Nat) : Accounted (.new limits now) [] where
  exact := fun _ _ found => nomatch found
  total := rfl
  fits := Nat.zero_le _
  few := Nat.zero_le _
  known := fun _ inside => nomatch inside
  queue := rfl

namespace Accounted

theorem nodup (accounted : Accounted store served) : store.recency.Nodup := by
  rw [accounted.queue]
  exact served.nodup_dedup.filter _

theorem mem_recency (accounted : Accounted store served) :
    key ∈ store.recency ↔ key ∈ store.images.keys := by
  rw [accounted.queue, List.mem_filter, List.mem_dedup, decide_eq_true_eq]
  exact ⟨fun both => both.2, fun retained => ⟨accounted.known key retained, retained⟩⟩

theorem perm (accounted : Accounted store served) : store.recency.Perm store.images.keys :=
  (List.perm_ext_iff_of_nodup accounted.nodup store.images.keys_nodup).mpr fun _ =>
    accounted.mem_recency

theorem retire_first (accounted : Accounted store served) (queue : store.recency = key :: recency) :
    key.len ≤ store.bytes ∧ Accounted
      { store with
        recency := recency
        images := store.images.erase key
        bytes := store.bytes - key.len } served := by
  have retained : key ∈ store.images.keys :=
    accounted.mem_recency.mp (queue ▸ List.mem_cons_self)
  have sum : key.len + ((store.images.keys.erase key).map Key.len).sum = store.bytes := by
    rw [accounted.total]
    exact List.sum_map_erase Key.len retained
  refine ⟨by omega, ?_⟩
  exact {
    exact := by
      intro other image found
      refine accounted.exact other image ?_
      by_cases same : other = key
      · rw [same, AList.lookup_erase] at found
        cases found
      · rwa [AList.lookup_erase_ne same] at found
    total := by
      simp only [AList.keys_erase]
      omega
    fits := Nat.le_trans (Nat.sub_le _ _) accounted.fits
    few := by
      simp only [AList.keys_erase]
      exact Nat.le_trans (List.length_erase_le) accounted.few
    known := by
      intro other inside
      simp only [AList.keys_erase] at inside
      exact accounted.known other (List.mem_of_mem_erase inside)
    queue := by
      have nodup := accounted.nodup
      have filtered := accounted.queue
      rw [queue] at nodup filtered
      have absent := (List.nodup_cons.mp nodup).1
      -- taking the key out of the images takes it out of the queue, where it stands first
      have narrower : (served.dedup.filter (· ∈ store.images.keys)).filter (· ≠ key) = recency := by
        rw [← filtered, List.filter_cons_of_neg (by simp)]
        refine List.filter_eq_self.mpr fun other inside => ?_
        have differs : other ≠ key := by
          rintro rfl
          exact absent inside
        exact decide_eq_true differs
      rw [List.filter_filter] at narrower
      rw [← narrower]
      refine List.filter_congr fun other _ => ?_
      simp only [AList.keys_erase]
      rw [← Bool.decide_and]
      exact decide_eq_decide.mpr store.images.keys_nodup.mem_erase_iff.symm }

theorem insert {image : File} (accounted : Accounted store served) (cold : key ∉ store.images)
    (length : image.bytes.length = key.len) (digest : Codec.sha256 image.bytes = key.digest)
    (few : store.images.keys.length < store.limits.count)
    (fits : key.len ≤ store.limits.bytes - store.bytes) :
    Accounted
      { store with
        images := store.images.insert key image
        bytes := store.bytes + key.len
        recency := store.recency.filter (· ≠ key) ++ [key] } (served ++ [key]) := by
  have absent : key ∉ store.images.keys := fun inside => cold (AList.mem_keys.mpr inside)
  have keys : (store.images.insert key image).keys = key :: store.images.keys := by
    rw [AList.keys_insert, List.erase_of_not_mem absent]
  have bounded := accounted.fits
  exact {
    exact := by
      intro other found stored
      by_cases same : other = key
      · rw [same, AList.lookup_insert] at stored
        rw [← Option.some.inj stored, same]
        exact ⟨length, digest⟩
      · rw [AList.lookup_insert_ne same] at stored
        exact accounted.exact other found stored
    total := by
      simp only [keys, List.map_cons, List.sum_cons]
      rw [accounted.total, Nat.add_comm]
    fits := by
      change store.bytes + key.len ≤ store.limits.bytes
      omega
    few := by
      simp only [keys, List.length_cons]
      exact few
    known := by
      intro other inside
      simp only [keys] at inside
      rcases List.mem_cons.mp inside with same | inside
      · exact same ▸ List.mem_append_right _ List.mem_cons_self
      · exact List.mem_append_left _ (accounted.known other inside)
    queue := by
      simp only [keys]
      rw [dedup_append_singleton, List.filter_append, accounted.queue]
      congr 1
      · rw [List.filter_filter, List.filter_filter]
        refine List.filter_congr fun other _ => ?_
        by_cases same : other = key
        · simp [same]
        · simp [same]
      · simp }

theorem touch (accounted : Accounted store served) (retained : key ∈ store.images) :
    Accounted { store with recency := store.recency.filter (· ≠ key) ++ [key] }
      (served ++ [key]) where
  exact := accounted.exact
  total := accounted.total
  fits := accounted.fits
  few := accounted.few
  known := fun other inside => List.mem_append_left _ (accounted.known other inside)
  queue := by
    have inside : key ∈ store.images.keys := AList.mem_keys.mp retained
    have moved : store.recency.filter (· ≠ key) =
        (served.dedup.filter (· ≠ key)).filter (· ∈ store.images.keys) := by
      rw [accounted.queue, List.filter_filter, List.filter_filter]
      exact List.filter_congr fun other _ => Bool.and_comm _ _
    have last : [key].filter (· ∈ store.images.keys) = [key] :=
      List.filter_cons_of_pos (decide_eq_true inside)
    change store.recency.filter (· ≠ key) ++ [key] =
      (served ++ [key]).dedup.filter (· ∈ store.images.keys)
    rw [dedup_append_singleton, List.filter_append, moved, last]

end Accounted

section Room

/-- Retiring stops before the queue is empty: an empty store is never crowded. -/
theorem retire_ok (admitted : len ≤ store.limits.bytes) (accounted : Accounted store served)
    (queue : store.recency = recency) :
    ∃ made, Store.retire len recency store = some made ∧ Accounted made served ∧
      made.crowded len = false ∧ made.limits = store.limits ∧ made.creation = store.creation ∧
      ∀ key, key ∈ made.images → key ∈ store.images := by
  induction recency generalizing store with
  | nil =>
      have empty : store.images.keys = [] :=
        (accounted.perm.symm.trans (by rw [queue])).eq_nil
      have bytes : store.bytes = 0 := by
        rw [accounted.total, empty]
        rfl
      have calm : store.crowded len = false := by
        have count := store.limits.count_mem
        simp only [Store.crowded, empty, List.length_nil, bytes, Bool.or_eq_false_iff,
          decide_eq_false_iff_not]
        omega
      refine ⟨store, ?_, accounted, calm, rfl, rfl, fun key inside => inside⟩
      unfold Store.retire
      rw [calm]
      rfl
  | cons key recency ih =>
      unfold Store.retire
      split
      · obtain ⟨covered, smaller⟩ := accounted.retire_first queue
        obtain ⟨made, retired, rest⟩ := ih (by exact admitted) smaller rfl
        obtain ⟨counted, calm, limits, creation, subset⟩ := rest
        refine ⟨made, ?_, counted, calm, limits, creation, fun other inside => ?_⟩
        · simp only [Nat.not_lt.mpr covered, if_false, retired]
        · exact (AList.mem_erase.mp (subset other inside)).2
      · next calm =>
        exact ⟨store, rfl, accounted, Bool.eq_false_iff.mpr calm, rfl, rfl, fun key inside => inside⟩

theorem makeRoom_ok (admitted : len ≤ store.limits.bytes) (accounted : Accounted store served) :
    ∃ made, store.makeRoom len = some made ∧ Accounted made served ∧
      made.crowded len = false ∧ made.limits = store.limits ∧ made.creation = store.creation ∧
      ∀ key, key ∈ made.images → key ∈ store.images :=
  retire_ok admitted accounted rfl

end Room

section Rate

open Rate

/-- The creation rate is a token bucket of whole seconds. -/
def CreationRate.bucket (rate : CreationRate) : Bucket := ⟨rate.available, rate.refill⟩

variable {rate : CreationRate} {now count : Nat}

omit [Codec] in
theorem CreationRate.filled_bucket (within : rate.available ≤ count) :
    (rate.filled now count).bucket = rate.bucket.refill nanosPerSecond count now := by
  unfold CreationRate.filled bucket Bucket.refill
  generalize (now - rate.refill) / nanosPerSecond = elapsed
  by_cases passed : elapsed > 0
  · have level : min (rate.available + min elapsed count) count =
        min (rate.available + elapsed) count := by omega
    simp only [if_pos passed, level]
  · have none_ : elapsed = 0 := by omega
    simp only [none_, Nat.add_zero, Nat.zero_mul, Nat.min_eq_left within, gt_iff_lt, Nat.lt_irrefl,
      if_false]

omit [Codec] in
theorem CreationRate.take_bucket (within : rate.available ≤ count) :
    (rate.take now count).1 = (rate.bucket.take nanosPerSecond count now).1 ∧
      (rate.take now count).2.bucket = (rate.bucket.take nanosPerSecond count now).2 := by
  unfold CreationRate.take Bucket.take
  rw [← filled_bucket within]
  by_cases empty : (rate.filled now count).available = 0
  · have level : (rate.filled now count).bucket.level = 0 := empty
    simp only [if_pos empty, if_pos level, and_self]
  · have level : (rate.filled now count).bucket.level ≠ 0 := empty
    simp only [if_neg empty, if_neg level]
    exact ⟨trivial, rfl⟩

/-- The instants of the attempts so far are within the rate. -/
def Paced (store : Store) (now : Nat) (attempts : List Nat) : Prop :=
  Bucket.Kept nanosPerSecond store.limits.count store.creation.bucket now attempts

variable {attempts : List Nat}

omit [Codec] in
theorem Paced.take (paced : Paced store now attempts) :
    Paced { store with creation := (store.creation.take now store.limits.count).2 } now
      (if (store.creation.take now store.limits.count).1 then attempts ++ [now] else attempts) := by
  obtain ⟨granted, bucket⟩ := @CreationRate.take_bucket store.creation now store.limits.count paced.level
  unfold Paced
  rw [granted, bucket]
  exact Bucket.Kept.take (by decide) paced

end Rate

section Requests

/-- A request takes a token and goes on to allocate. -/
def Store.attempts (store : Store) (request : Request) (now : Nat) : Bool :=
  match requestKey store.limits request with
  | .error _ => false
  | .ok (key, _) => key ∉ store.images && (store.creation.take now store.limits.count).1

def Served.keys : Served → List Key
  | .image key _ _ => [key]
  | _ => []

variable {request : Request} {now : Nat} {attempts : List Nat}

omit [Codec] in
theorem requestKey_len {limits : Limits} {copying : Copying}
    (admitted : requestKey limits request = .ok (key, copying)) : key.len ≤ limits.bytes := by
  obtain ⟨⟨packet, files⟩, _, rest⟩ := ok_of_bind admitted
  simp only at rest
  split at rest
  · split at rest
    · cases rest
    · obtain ⟨digest, _, rest⟩ := ok_of_bind rest
      split at rest
      · cases rest
      · obtain ⟨size, measured, rest⟩ := ok_of_bind rest
        split at rest
        · cases rest
        · next same =>
          have found := congrArg (fun pair => pair.1.len) (Except.ok.inj rest)
          rw [← found, ← not_not.mp same]
          exact sourceSize_le measured
  · cases rest

theorem create_ok {copying : Copying} (accounted : Accounted store served)
    (cold : key ∉ store.images) (admitted : key.len ≤ store.limits.bytes) :
    ∃ outcome made, store.create key copying request = some (outcome, made) ∧
      Accounted made (served ++ outcome.keys) ∧ made.limits = store.limits ∧
      made.creation = store.creation := by
  obtain ⟨roomy, room, counted, calm, limits, creation, subset⟩ := makeRoom_ok admitted accounted
  unfold Store.create
  rw [room]
  simp only [Store.crowded, Bool.or_eq_false_iff, decide_eq_false_iff_not, not_le, not_lt] at calm
  cases copied : materialize copying key.len key.digest with
  | error error =>
      refine ⟨.unmade error, roomy, rfl, ?_, limits, creation⟩
      simpa [Served.keys] using counted
  | ok image =>
      obtain ⟨length, digest⟩ := materialize_ok copied
      have still : key ∉ roomy.images := fun inside => cold (subset key inside)
      exact ⟨_, _, rfl, counted.insert still length digest calm.1 calm.2, limits, creation⟩

/-- Whatever a request is, it ends without a panic and leaves a store that is accounted for. -/
theorem serve_ok (accounted : Accounted store served) (paced : Paced store now attempts) :
    ∃ outcome made, store.serve request now = some (outcome, made) ∧
      Accounted made (served ++ outcome.keys) ∧ made.limits = store.limits ∧
      Paced made now (if store.attempts request now then attempts ++ [now] else attempts) := by
  unfold Store.serve Store.attempts
  cases checked : requestKey store.limits request with
  | error error =>
      refine ⟨.refused error, store, rfl, ?_, rfl, paced⟩
      simpa [Served.keys] using accounted
  | ok pair =>
      obtain ⟨key, copying⟩ := pair
      by_cases hit : key ∈ store.images
      · simp only [hit, if_true, not_true_eq_false, decide_false, Bool.false_and]
        exact ⟨_, _, rfl, accounted.touch hit, rfl, paced⟩
      · simp only [hit, if_false, not_false_eq_true, decide_true, Bool.true_and]
        have taken := paced.take
        have counted : Accounted
            { store with creation := (store.creation.take now store.limits.count).2 } served :=
          ⟨accounted.exact, accounted.total, accounted.fits, accounted.few, accounted.known,
            accounted.queue⟩
        split
        · next granted =>
          rw [if_pos granted] at taken
          obtain ⟨outcome, made, created, grown, limits, creation⟩ :=
            @create_ok _ _ _ _ request copying counted hit (requestKey_len checked)
          refine ⟨outcome, made, created, grown, limits, ?_⟩
          unfold Paced
          rw [limits, creation]
          exact taken
        · next refused =>
          rw [if_neg refused] at taken
          refine ⟨.backpressure request.sent, _, rfl, ?_, rfl, taken⟩
          simpa [Served.keys] using counted

end Requests

section Epochs

/-- One live epoch: the store, the clock, the keys in the order they were served, and the instants
of the cold creations that were attempted. -/
structure Epoch where
  store : Store
  now : Nat
  served : List Key
  attempts : List Nat

inductive Event
  | wait (nanos : Nat)
  | request (request : Request)

namespace Epoch

def start (limits : Limits) (now : Nat) : Epoch := ⟨.new limits now, now, [], []⟩

/-- One event; nothing is a panic of the custodian. -/
def step (epoch : Epoch) : Event → Option Epoch
  | .wait nanos => some { epoch with now := epoch.now + nanos }
  | .request request =>
      (epoch.store.serve request epoch.now).map fun (outcome, store) => {
        store := store
        now := epoch.now
        served := epoch.served ++ outcome.keys
        attempts :=
          if epoch.store.attempts request epoch.now then epoch.attempts ++ [epoch.now]
          else epoch.attempts }

def run (epoch : Epoch) (events : List Event) : Option Epoch := events.foldlM step epoch

structure Sound (limits : Limits) (epoch : Epoch) : Prop where
  limits : epoch.store.limits = limits
  accounted : Accounted epoch.store epoch.served
  paced : Paced epoch.store epoch.now epoch.attempts

theorem sound_start (limits : Limits) (now : Nat) : Sound limits (start limits now) where
  limits := rfl
  accounted := accounted_new limits now
  paced := Rate.Bucket.kept_full _ _ _

theorem step_sound {limits : Limits} {epoch : Epoch} (event : Event) (sound : Sound limits epoch) :
    ∃ after, epoch.step event = some after ∧ Sound limits after := by
  cases event with
  | wait nanos =>
      exact ⟨_, rfl, sound.limits, sound.accounted, sound.paced.later (Nat.le_add_right _ _)⟩
  | request request =>
      obtain ⟨outcome, made, served, accounted, same, paced⟩ :=
        @serve_ok _ _ _ request _ _ sound.accounted sound.paced
      refine ⟨⟨made, epoch.now, epoch.served ++ outcome.keys,
        if epoch.store.attempts request epoch.now then epoch.attempts ++ [epoch.now]
        else epoch.attempts⟩, ?_, same.trans sound.limits, accounted, paced⟩
      rw [step, served]
      rfl

theorem run_sound {limits : Limits} {epoch : Epoch} (events : List Event)
    (sound : Sound limits epoch) : ∃ after, epoch.run events = some after ∧ Sound limits after := by
  induction events generalizing epoch with
  | nil => exact ⟨epoch, rfl, sound⟩
  | cons event events ih =>
      obtain ⟨middle, stepped, sound⟩ := step_sound event sound
      obtain ⟨after, ran, sound⟩ := ih sound
      refine ⟨after, ?_, sound⟩
      rw [run, List.foldlM_cons, stepped]
      exact ran

end Epoch

theorem sum_lengths (accounted : Accounted store served) :
    (store.images.entries.map fun entry => entry.2.bytes.length).sum = store.bytes := by
  have lengths : store.images.entries.map (fun entry => entry.2.bytes.length) =
      store.images.keys.map Key.len := by
    rw [AList.keys, List.keys, List.map_map]
    refine List.map_congr_left fun entry inside => ?_
    exact (accounted.exact entry.1 entry.2 (AList.mem_lookup_iff.mpr inside)).1
  rw [lengths, accounted.total]

/-- An epoch never panics. After any requests its images are accounted for and within the limits,
its queue holds their keys in the order they were last served, a hit answers with the image of its
key and retires nothing, and creations stay within the rate. -/
theorem store_accounts (limits : Limits) (begun : Nat) (events : List Event) :
    ∃ epoch, (Epoch.start limits begun).run events = some epoch ∧
      epoch.store.bytes = (epoch.store.images.entries.map fun entry => entry.2.bytes.length).sum ∧
      epoch.store.bytes ≤ limits.bytes ∧ epoch.store.images.keys.length ≤ limits.count ∧
      epoch.store.recency.Nodup ∧ epoch.store.recency.Perm epoch.store.images.keys ∧
      epoch.store.recency = epoch.served.dedup.filter (· ∈ epoch.store.images.keys) ∧
      (∀ key image, epoch.store.images.lookup key = some image →
        image.bytes.length = key.len ∧ Codec.sha256 image.bytes = key.digest) ∧
      (∀ len ≤ limits.bytes, ∃ made, epoch.store.makeRoom len = some made ∧
        made.crowded len = false) ∧
      (∀ request key copying image, requestKey limits request = .ok (key, copying) →
        epoch.store.images.lookup key = some image →
        ∃ made, epoch.store.serve request epoch.now =
            some (.image key (some image) request.sent, made) ∧
          made.images = epoch.store.images ∧ made.bytes = epoch.store.bytes ∧
          made.creation = epoch.store.creation) ∧
      ∀ first width, Rate.Bucket.within first (first + width) epoch.attempts ≤
        limits.count + width / nanosPerSecond + 1 := by
  obtain ⟨epoch, ran, same, accounted, paced⟩ := Epoch.run_sound events (Epoch.sound_start limits begun)
  subst same
  refine ⟨epoch, ran, (sum_lengths accounted).symm, accounted.fits, accounted.few, accounted.nodup,
    accounted.perm, accounted.queue, accounted.exact, fun len admitted => ?_, ?_, paced.window⟩
  · obtain ⟨made, room, _, calm, _⟩ := makeRoom_ok admitted accounted
    exact ⟨made, room, calm⟩
  · intro request key copying image admitted stored
    have hit : key ∈ epoch.store.images := AList.lookup_isSome.mp (by rw [stored]; rfl)
    refine ⟨{ epoch.store with recency := epoch.store.recency.filter (· ≠ key) ++ [key] }, ?_, rfl,
      rfl, rfl⟩
    rw [Store.serve, admitted]
    simp only [hit, if_true, Store.reply, stored]

end Epochs

end Image

end AgentBash
