import AgentBash.Delivery.HelperLane

/-!
# Pinning in every interleaving

What each part of `pin_to_handle` keeps, and with it all runs of launchers: a snapshot in the cache
is whole, what is recorded is linked, and cleanup takes nothing that is linked.
-/

namespace AgentBash

set_option autoImplicit false

open Durable HelperStorage

namespace HelperCache

variable [Codec] {policy : System.Policy helperSystem} {pid : Nat} {handle : Handle}
  {sha256 : String}

section Installing

theorem validate_steady {F : View → Prop} (stable : Stable discipline pid F) :
    Steady discipline policy pid F (validateCachedHelper sha256) := by
  refine Steady.bind (quiet_steady (.openFile _) trivial stable) fun file => ?_
  refine Steady.bind (quiet_steady (.metadata file) trivial stable) fun version => ?_
  refine Steady.bind Steady.ofExcept fun _ => ?_
  refine Steady.bind (quiet_steady (.digest file) trivial stable) fun observed => ?_
  exact Steady.branch Steady.pure Steady.throw

/-- A file that is being written: so many bytes of the image are there. -/
def Copied (pid : Nat) (handle : Handle) (sha256 : String) (file : Nat) (content : Bytes)
    (s : HelperStorage) : Prop :=
  (Base pid handle s ∧ HelperStorage.Staged sha256 handle file s) ∧
    (s.links.nodes file).content = content

variable {file : Nat} {content : Bytes}

omit [Codec] in
theorem lasting_staged :
    Lasting pid fun s => Base pid handle s ∧ HelperStorage.Staged sha256 handle file s :=
  Lasting.and (Lone.lasting lone_base) fun around _ staged => staged.around around

omit [Codec] in
theorem lasting_copied : Lasting pid (Copied pid handle sha256 file content) := by
  intro before after around beside copied
  refine ⟨lasting_staged around beside copied.1, ?_⟩
  rw [around.nodes]
  exact copied.2

theorem append_spec {bytes : Bytes} {offset : Nat} :
    Spec discipline policy pid (Owning pid (Copied pid handle sha256 file (bytes.take offset)))
      (ask (.append file ((bytes.drop offset).take 65536))) fun result =>
        Owning pid fun s => (Base pid handle s ∧ HelperStorage.Staged sha256 handle file s) ∧
          ∀ count : Nat, result = .ok count →
            0 < count ∧ (s.links.nodes file).content = bytes.take (offset + count) := by
  refine held_spec lasting_copied ?_
  rintro s choice answer after sane ⟨⟨base, staged⟩, copied⟩ act
  rcases act_cases act id with ⟨error, rfl, rfl⟩ | performed
  · exact ⟨.refl sane, ⟨base, staged⟩, nofun⟩
  · cases choice <;> simp only [HelperStorage.perform, reduceCtorEq] at performed
    next count _ =>
    split at performed
    · next bound =>
      obtain ⟨rfl, rfl⟩ := Prod.mk.inj (Option.some.inj performed)
      obtain ⟨acts, base', staged'⟩ := acts_write sane base staged
      refine ⟨acts, ⟨base', staged'⟩, fun also same => ?_⟩
      cases same
      refine ⟨bound.1, ?_⟩
      have fits : count ≤ 65536 := bound.2.trans (List.length_take_le _ _)
      have taken : ((bytes.drop offset).take 65536).take count = (bytes.drop offset).take count := by
        rw [List.take_take, Nat.min_eq_left fits]
      simp only [setLinks, Links.nodes_write_same, copied, taken]
      exact List.take_add.symm
    · cases performed

theorem copyRest_spec {bytes : Bytes} {fuel offset : Nat} (enough : bytes.length ≤ offset + fuel) :
    Spec discipline policy pid (Owning pid (Copied pid handle sha256 file (bytes.take offset)))
      (copyRest file bytes fuel offset) fun result =>
        Owning pid fun s => (Base pid handle s ∧ HelperStorage.Staged sha256 handle file s) ∧
          (result = .ok () → (s.links.nodes file).content = bytes) := by
  induction fuel generalizing offset with
  | zero =>
      refine Spec.pure fun view _ held => ⟨held.1, held.2.1, fun _ => ?_⟩
      exact held.2.2.trans (List.take_of_length_le enough)
  | succ fuel ih =>
      refine Spec.branch (fun _ => ?_) fun done => ?_
      · refine Spec.bind append_spec (fun count => ?_) fun _ _ _ held => ⟨held.1, held.2.1, nofun⟩
        intro next view inv held
        obtain ⟨positive, content⟩ := held.2.2 count rfl
        exact ih (by omega) next view inv ⟨held.1, held.2.1, content⟩
      · refine Spec.pure fun view _ held => ⟨held.1, held.2.1, fun _ => ?_⟩
        exact held.2.2.trans (List.take_of_length_le (not_lt.mp done))

theorem create_spec {temp : HelperName} (named : temp = .temp sha256 handle) :
    Spec discipline policy pid (Owning pid (Base pid handle)) (ask (.createNew temp)) fun result =>
      Owning pid fun s => Base pid handle s ∧
        ∀ file : Nat, result = .ok file → Copied pid handle sha256 file [] s := by
  subst named
  refine held_spec (Lone.lasting lone_base) ?_
  intro s choice answer after sane base act
  rcases act_cases act id with ⟨error, rfl, rfl⟩ | performed
  · exact ⟨.refl sane, base, fun _ same => by cases same⟩
  · cases choice <;> simp only [HelperStorage.perform, reduceCtorEq] at performed
    split at performed <;> obtain ⟨rfl, rfl⟩ := Prod.mk.inj (Option.some.inj performed)
    · exact ⟨.refl sane, base, fun _ same => by cases same⟩
    · obtain ⟨acts, base', staged⟩ := acts_create sane base
      refine ⟨acts, base', fun file same => ?_⟩
      cases same
      refine ⟨⟨base', staged⟩, ?_⟩
      simp only [setLinks, Links.create, Links.nodes_link, Links.nodes_allocate_new]

theorem sync_spec :
    Spec discipline policy pid (Owning pid (Copied pid handle sha256 file content))
      (ask (.syncAll file)) fun result => Owning pid fun s =>
        (Base pid handle s ∧ HelperStorage.Staged sha256 handle file s) ∧
          (result = .ok () → (s.links.nodes file).content = content ∧
            (s.links.nodes file).synced = true) := by
  refine held_spec lasting_copied ?_
  rintro s choice answer after sane ⟨⟨base, staged⟩, copied⟩ act
  rcases act_cases act id with ⟨error, rfl, rfl⟩ | performed
  · exact ⟨.refl sane, ⟨base, staged⟩, nofun⟩
  · simp only [HelperStorage.perform] at performed
    obtain ⟨rfl, rfl⟩ := Prod.mk.inj (Option.some.inj performed)
    obtain ⟨acts, base', staged'⟩ := acts_write sane base staged
    refine ⟨acts, ⟨base', staged'⟩, fun _ => ?_⟩
    simp only [setLinks, Links.nodes_write_same]
    exact ⟨copied, trivial⟩

/-- A whole file that only its temporary name leads to. -/
def Written (pid : Nat) (handle : Handle) (sha256 : String) (file : Nat) (s : HelperStorage) : Prop :=
  (Base pid handle s ∧ HelperStorage.Staged sha256 handle file s) ∧
    Whole sha256 (s.links.nodes file)

theorem lasting_written : Lasting pid (Written pid handle sha256 file) := by
  intro before after around beside written
  refine ⟨lasting_staged around beside written.1, ?_⟩
  rw [around.nodes]
  exact written.2

theorem publish_spec : Spec discipline policy pid (Owning pid (Written pid handle sha256 file))
    (ask (.hardLink (.temp sha256 handle) (.cached sha256))) fun _ =>
      Owning pid (Base pid handle) := by
  refine held_spec lasting_written ?_
  rintro s choice answer after sane ⟨⟨base, staged⟩, whole⟩ act
  rcases act_cases act id with ⟨error, rfl, rfl⟩ | performed
  · exact ⟨.refl sane, base⟩
  · simp only [HelperStorage.perform, staged.found] at performed
    split at performed
    · obtain ⟨rfl, rfl⟩ := Prod.mk.inj (Option.some.inj performed)
      exact ⟨.refl sane, base⟩
    · obtain ⟨rfl, rfl⟩ := Prod.mk.inj (Option.some.inj performed)
      exact ⟨.refl sane, base⟩
    · next found absent =>
      obtain ⟨rfl, rfl⟩ := Prod.mk.inj (Option.some.inj performed)
      cases found
      exact acts_publish sane base staged.found whole absent

theorem removeTemp_steady : Steady discipline policy pid (Owning pid (Base pid handle))
    (ask (.removeFile (.temp sha256 handle))) := by
  refine held_spec (Lone.lasting lone_base) ?_
  intro s choice answer after sane base act
  rcases act_cases act id with ⟨error, rfl, rfl⟩ | performed
  · exact ⟨.refl sane, base⟩
  · simp only [HelperStorage.perform] at performed
    split at performed <;> obtain ⟨rfl, rfl⟩ := Prod.mk.inj (Option.some.inj performed)
    · exact ⟨.refl sane, base⟩
    · obtain ⟨acts, mine⟩ := acts_remove sane base.toMine
        (show (HelperName.temp sha256 handle).owner = some handle from rfl)
      exact ⟨acts, mine, base.remove_temp⟩

theorem linkTemp_spec (file : Nat) : Spec discipline policy pid (Owning pid (Written pid handle sha256 file))
    (linkTemp (.temp sha256 handle) (.cached sha256)) fun _ => Owning pid (Base pid handle) := by
  refine Spec.handle publish_spec fun result => ?_
  cases result with
  | ok _ => exact Steady.pure
  | error error =>
      refine Steady.branch Steady.pure ?_
      exact Steady.bind (Steady.attempt removeTemp_steady) fun _ => Steady.throw

/-- However an installation ends, the cache holds whole snapshots only. -/
theorem install_steady (image : SealedImage) : Steady discipline policy pid
    (Owning pid (Base pid handle)) (installCachedHelper image handle) := by
  have stable : Stable discipline pid (Owning pid (Base pid handle)) :=
    owning_stable (Lone.lasting lone_base)
  refine Steady.bind (quiet_steady (.tryExists _) trivial stable) fun present => ?_
  refine Steady.branch ?_ ?_
  · exact Steady.bind (validate_steady stable) fun _ => Steady.pure
  · refine Spec.bind (create_spec rfl) (fun file => ?_) fun _ _ _ held => ⟨held.1, held.2.1⟩
    refine Spec.bind (Q := fun result => Owning pid fun s =>
      (Base pid handle s ∧ HelperStorage.Staged image.sha256 handle file s) ∧
        (result = .ok () → (s.links.nodes file).content = image.bytes))
      ?_ (fun _ => ?_) fun _ _ _ held => ⟨held.1, held.2.1.1⟩
    · refine (copyRest_spec (Nat.le_add_left _ _)).strengthen fun view _ held => ?_
      exact ⟨held.1, held.2.2 file rfl⟩
    refine Spec.bind (Q := fun result => Owning pid fun s =>
      (Base pid handle s ∧ HelperStorage.Staged image.sha256 handle file s) ∧
        (result = .ok () → (s.links.nodes file).content = image.bytes ∧
          (s.links.nodes file).synced = true)) ?_ (fun _ => ?_) fun _ _ _ held => ⟨held.1, held.2.1.1⟩
    · exact sync_spec.strengthen fun view _ held => ⟨held.1, held.2.1, held.2.2 rfl⟩
    refine Spec.bind (Q := fun _ => Owning pid (Base pid handle)) ?_ (fun _ => ?_)
      fun _ _ _ held => held
    · refine (linkTemp_spec file).strengthen fun view _ held => ?_
      obtain ⟨content, synced⟩ := held.2.2 rfl
      exact ⟨held.1, held.2.1, by rw [content]; exact image.exact_, synced⟩
    refine Steady.bind removeTemp_steady fun _ => ?_
    exact Steady.bind (validate_steady stable) fun _ => Steady.pure

end Installing

section Linking

variable {name : HelperName} {helper : ConfiguredHelper} {P : HelperStorage → Prop}

theorem leads_link {s : HelperStorage} {other : HelperName} {file : Nat} {digest : String}
    (absent : s.links.find name = none) (leads : s.Leads other digest) :
    (s.link name file).Leads other digest := by
  obtain ⟨also, found, same⟩ := leads
  refine ⟨also, (Links.find_link_other ?_).trans found, same⟩
  rintro rfl
  rw [absent] at found
  cases found

theorem leads_drop {s : HelperStorage} {digest : String} (leads : s.Leads name digest)
    (inside : name.directory = some handle) :
    (s.setLinks (s.links.unlink (.cached sha256))).Leads name digest := by
  obtain ⟨also, found, same⟩ := leads
  refine ⟨also, (Links.find_unlink_other ?_).trans found, same⟩
  rintro rfl
  cases inside

/-- The interpreter is linked, when there is one. -/
structure Interpreted (pid : Nat) (handle : Handle) (helper : ConfiguredHelper)
    (s : HelperStorage) : Prop extends Base pid handle s where
  interpreter : ∀ interpreter, helper.interpreter = some interpreter →
    s.Leads (.interpreter handle) interpreter.sha256

/-- All that a launch pins is linked. -/
structure Linked (pid : Nat) (handle : Handle) (helper : ConfiguredHelper)
    (s : HelperStorage) : Prop extends Interpreted pid handle helper s where
  executable : s.Leads (.helper handle) helper.executable.sha256

theorem lone_interpreted : Lone pid (Interpreted pid handle helper) := fun beside held =>
  ⟨held.toBase.beside beside, fun interpreter some_ =>
    (held.interpreter interpreter some_).beside held.toMine beside rfl⟩

theorem lone_linked : Lone pid (Linked pid handle helper) := fun beside held =>
  ⟨lone_interpreted beside held.toInterpreted, held.executable.beside held.toMine beside rfl⟩

/-- A snapshot of the cache is linked under a name of the directory, or nothing happens. -/
theorem pin_spec (inside : name.directory = some handle) (lasting : Lasting pid P)
    (base : ∀ s, P s → Base pid handle s)
    (linked : ∀ s file, P s → s.links.find name = none → Base pid handle (s.link name file) →
      P (s.link name file)) :
    Spec discipline policy pid (Owning pid P) (ask (.hardLink (.cached sha256) name)) fun result =>
      Owning pid fun s => P s ∧ (result = .ok () → s.Leads name sha256) := by
  refine held_spec lasting ?_
  intro s choice answer after sane holds act
  rcases act_cases act id with ⟨error, rfl, rfl⟩ | performed
  · exact ⟨.refl sane, holds, fun same => by cases same⟩
  · simp only [HelperStorage.perform] at performed
    split at performed <;> obtain ⟨rfl, rfl⟩ := Prod.mk.inj (Option.some.inj performed)
    · exact ⟨.refl sane, holds, fun same => by cases same⟩
    · exact ⟨.refl sane, holds, fun same => by cases same⟩
    · next file found absent =>
      obtain ⟨acts, base', leads⟩ := acts_pin sane (base s holds) inside found absent
      exact ⟨acts, linked s file holds absent base', fun _ => leads⟩

theorem pinInterpreter_spec {interpreter : SealedImage}
    (configured : helper.interpreter = some interpreter) :
    Spec discipline policy pid (Owning pid (Base pid handle)) (pinInterpreter interpreter handle)
      (Answers (Owning pid (Base pid handle)) fun _ => Owning pid (Interpreted pid handle helper)) := by
  refine Spec.bind (unavailable_steady (install_steady interpreter)) (fun _ => ?_)
    fun _ _ _ held => .error held
  refine unavailable_spec ?_
  refine (pin_spec rfl (Lone.lasting lone_base) (fun _ base => base)
    fun _ _ _ _ base => base).relax ?_
  intro result view _ held
  refine ⟨⟨held.1, held.2.1⟩, fun _ same => ⟨held.1, held.2.1, fun also some_ => ?_⟩⟩
  rw [configured] at some_
  cases some_
  exact held.2.2 same

theorem pinHelper_spec :
    Spec discipline policy pid (Owning pid (Interpreted pid handle helper))
      (ask (.hardLink (.cached helper.executable.sha256) (.helper handle)))
      (Answers (Owning pid (Base pid handle)) fun _ => Owning pid (Linked pid handle helper)) := by
  refine (pin_spec rfl (Lone.lasting lone_interpreted) (fun _ held => held.toBase)
    fun s file held absent base => ?_).relax fun result view _ held => ?_
  · exact ⟨base, fun interpreter some_ => leads_link absent (held.interpreter interpreter some_)⟩
  · exact ⟨⟨held.1, held.2.1.toBase⟩, fun _ same => ⟨held.1, held.2.1, held.2.2 same⟩⟩

end Linking

section Cleaning

variable {helper : ConfiguredHelper}

/-- What the count of links says stays true until the removal: nobody else adds a link. -/
theorem count_spec :
    Spec discipline policy pid (Owning pid (Linked pid handle helper))
      (ask (.linkCount (.cached sha256))) fun result =>
        Owning pid fun s => Linked pid handle helper s ∧
          (result = .ok (1 : Nat) → ∃ file, Sole sha256 file s) := by
  refine (quiet_spec (.linkCount (.cached sha256)) trivial
    (owning_stable (Lone.lasting lone_linked))).relax ?_
  rintro result view _ ⟨⟨holder, linked⟩, told⟩
  refine ⟨holder, linked, ?_⟩
  rintro rfl
  obtain ⟨file, found, one⟩ := told
  exact ⟨file, found, fun name also => Links.only_of_count found one also⟩

theorem drop_steady :
    Spec discipline policy pid
      (Owning pid fun s => Linked pid handle helper s ∧ ∃ file, Sole sha256 file s)
      (ask (.removeFile (.cached sha256))) fun _ => Owning pid (Linked pid handle helper) := by
  have lasting : Lasting pid fun s => ∃ file, Sole sha256 file s :=
    fun around _ sole => sole.imp fun _ sole => sole.around around
  refine held_spec (Lasting.and (Lone.lasting lone_linked) lasting) ?_
  rintro s choice answer after sane ⟨linked, file, sole⟩ act
  rcases act_cases act id with ⟨error, rfl, rfl⟩ | performed
  · exact ⟨.refl sane, linked⟩
  · simp only [HelperStorage.perform] at performed
    split at performed <;> obtain ⟨rfl, rfl⟩ := Prod.mk.inj (Option.some.inj performed)
    · exact ⟨.refl sane, linked⟩
    · obtain ⟨acts, base⟩ := acts_drop sane linked.toBase sole
      exact ⟨acts, ⟨base, fun interpreter some_ =>
        leads_drop (linked.interpreter interpreter some_) rfl⟩, leads_drop linked.executable rfl⟩

theorem cleanupEntry_steady (name : String) :
    Steady discipline policy pid (Owning pid (Linked pid handle helper)) (cleanupEntry name) := by
  refine Spec.handle count_spec fun (result : Except IoError Nat) => ?_
  cases result with
  | error error => exact Spec.pure fun _ _ held => ⟨held.1, held.2.1⟩
  | ok count =>
      refine Spec.branch (fun one => ?_) fun _ => Spec.pure fun _ _ held => ⟨held.1, held.2.1⟩
      refine Spec.bind (Q := fun _ => Owning pid (Linked pid handle helper)) (Spec.attempt ?_)
        (fun _ => Spec.pure fun _ _ held => held) fun _ _ _ held => held
      exact drop_steady.strengthen fun view _ held =>
        ⟨held.1, held.2.1, held.2.2 (congrArg Except.ok one)⟩

theorem cleanupEntries_steady (names : List String) :
    Steady discipline policy pid (Owning pid (Linked pid handle helper)) (cleanupEntries names) := by
  induction names with
  | nil => exact Steady.pure
  | cons name rest ih =>
      refine Steady.branch ?_ ih
      exact Steady.bind (cleanupEntry_steady name) fun _ => ih

theorem cleanup_steady : Steady discipline policy pid (Owning pid (Linked pid handle helper))
    cleanupUnreferencedHelperSnapshots := by
  refine Spec.handle (quiet_steady .readCache trivial (owning_stable (Lone.lasting lone_linked)))
    fun result => ?_
  cases result with
  | error error => exact Steady.pure
  | ok names => exact cleanupEntries_steady _

end Cleaning

section Launching

variable {helper : ConfiguredHelper}

theorem cacheUnchanged_steady {F : View → Prop} (stable : Stable discipline pid F)
    (validated : Except IoError FileVersion) :
    Steady discipline policy pid F (cacheUnchanged validated sha256) := by
  cases validated with
  | error error => exact Steady.pure
  | ok version =>
      refine Spec.handle (quiet_steady (.stat _) trivial stable) fun result => ?_
      cases result with
      | error error => exact Steady.pure
      | ok current => exact Steady.pure

theorem pinExecutable_spec : Spec discipline policy pid (Owning pid (Interpreted pid handle helper))
    (pinExecutable helper handle)
    (Answers (Owning pid (Base pid handle)) fun _ => Owning pid (Linked pid handle helper)) := by
  refine Spec.bind (unavailable_spec pinHelper_spec) (fun _ => ?_) fun _ _ _ held => .error held.1
  refine Spec.bind (Q := fun _ => Owning pid (Linked pid handle helper)) ?_ (fun _ => ?_)
    fun _ _ _ held => .error ⟨held.1, held.2.toBase⟩
  · exact cleanup_steady.strengthen fun _ _ held => held.2 _ rfl
  · refine (unavailable_steady (quiet_steady (.syncDirectory handle) trivial
      (owning_stable (Lone.lasting lone_linked)))).relax fun _ _ _ held => ?_
    exact ⟨⟨held.1, held.2.toBase⟩, fun _ _ => held⟩

theorem pinConfiguredInterpreter_spec :
    Spec discipline policy pid (Owning pid (Base pid handle)) (pinConfiguredInterpreter helper handle)
      (Answers (Owning pid (Base pid handle)) fun _ => Owning pid (Interpreted pid handle helper)) := by
  unfold pinConfiguredInterpreter
  cases configured : helper.interpreter with
  | none =>
      refine Spec.pure fun view _ held => .value held ⟨held.1, held.2, fun interpreter some_ => ?_⟩
      rw [configured] at some_
      cases some_
  | some interpreter => exact pinInterpreter_spec configured

theorem pinLocked_spec (validated : Except IoError FileVersion) :
    Spec discipline policy pid (Owning pid (Base pid handle)) (pinLocked helper handle validated)
      (Answers (Owning pid (Base pid handle)) fun _ => Owning pid (Linked pid handle helper)) := by
  have stable : Stable discipline pid (Owning pid (Base pid handle)) :=
    owning_stable (Lone.lasting lone_base)
  refine Steady.before (cacheUnchanged_steady stable validated) (fun unchanged => ?_)
    fun _ _ _ held => .error held
  have rest : Spec discipline policy pid (Owning pid (Base pid handle))
      (do
        pinConfiguredInterpreter helper handle
        pinExecutable helper handle)
      (Answers (Owning pid (Base pid handle)) fun _ => Owning pid (Linked pid handle helper)) := by
    refine Spec.bind pinConfiguredInterpreter_spec (fun _ => ?_) fun _ _ _ held => .error held.1
    exact pinExecutable_spec.strengthen fun _ _ held => held.2 _ rfl
  refine Spec.branch (fun _ => rest) fun _ => ?_
  exact Steady.before (unavailable_steady (install_steady helper.executable)) (fun _ => rest)
    fun _ _ _ held => .error held

/-- The lock is taken by a process that does not hold it. -/
theorem lock_spec : Spec discipline policy pid (Free pid (Base pid handle))
    (Io.ask (L := helperLayout) (E := helperOutside) (.lock .cacheLock))
    fun result view => match result with
      | .ok _ => Owning pid (Base pid handle) view
      | .error _ => Free pid (Base pid handle) view := by
  refine Lane.lock (free_stable lone_base) ?_ fun _ _ _ _ held => held
  intro view _ inv held live _ _
  refine ⟨(), ⟨inv.sane, ?_, inv.drawn⟩, ⟨.refl _ _, .of_eq rfl, .of_find fun found => found,
    .inr (.refl _)⟩, Disk.newest_acquire, held.2⟩
  rw [Disk.acquire_same]
  exact Nat.le_refl 1

theorem unlock_spec {P : HelperStorage → Prop} (lasting : Lasting pid P) :
    Spec discipline policy pid (Owning pid P)
      (Io.ask (L := helperLayout) (E := helperOutside) (.unlock .cacheLock))
      fun _ => Free pid P := by
  refine Lane.unlock (owning_stable lasting) ?_
  intro view sound inv held live _
  refine ⟨Disk.Newest.edge held.1, (), ⟨inv.sane, ?_, inv.drawn⟩, ⟨.refl _ _, .of_eq rfl,
    .of_find fun found => found, .inr (.refl _)⟩, ⟨live.1, Disk.not_mem_release sound⟩, held.2⟩
  rw [Disk.release_same]
  exact (List.length_erase_le).trans inv.alone

theorem withCacheLock_spec {script : HelperScript Unit}
    (spec : Spec discipline policy pid (Owning pid (Base pid handle)) script
      (Answers (Owning pid (Base pid handle)) fun _ => Owning pid (Linked pid handle helper))) :
    Spec discipline policy pid (Owning pid (Base pid handle)) (withCacheLock script)
      (Answers (Free pid (Base pid handle)) fun _ => Free pid (Linked pid handle helper)) := by
  refine Spec.handle spec fun result => ?_
  have linked : Lasting pid fun s => result = .ok () → Linked pid handle helper s :=
    fun _ beside linked succeeded => lone_linked beside (linked succeeded)
  refine Spec.bind ((unlock_spec (Lasting.and (Lone.lasting lone_base) linked)).strengthen
    fun view _ held => ?_) (fun _ => ?_) fun _ _ _ held => .error ⟨held.1, held.2.1⟩
  · exact ⟨held.1.1, held.1.2, fun succeeded => (held.2 () succeeded).2⟩
  · refine Spec.ofExcept fun view _ held => ⟨⟨held.1, held.2.1⟩, fun _ succeeded => ?_⟩
    exact ⟨held.1, held.2.2 succeeded⟩

theorem resolveInterpreter_spec :
    Spec discipline policy pid (Free pid (Linked pid handle helper))
      (resolveInterpreter helper.interpreter handle)
      (Answers (Free pid (Linked pid handle helper)) fun found _ =>
        ∀ interpreter, found = some interpreter → ∃ image, helper.interpreter = some image ∧
          interpreter.sha256 = image.sha256) := by
  cases configured : helper.interpreter with
  | none => exact Spec.pure fun _ _ held => .value held nofun
  | some image =>
      refine Steady.before (unavailable_steady (quiet_steady (.canonicalize _) trivial
        (free_stable lone_linked))) (fun path => ?_) fun _ _ _ held => .error held
      refine Spec.pure fun _ _ held => .value held fun interpreter same => ?_
      cases same
      exact ⟨image, rfl, rfl⟩

theorem pinToHandle_spec :
    Spec discipline policy pid (Free pid (Base pid handle)) (pinToHandle helper handle)
      (Answers (Free pid (Base pid handle)) fun binding =>
        Free pid fun s => Mine pid handle s ∧ s.Pinned handle binding) := by
  have before : Stable discipline pid (Free pid (Base pid handle)) := free_stable lone_base
  have after : Stable discipline pid (Free pid (Linked pid handle helper)) := free_stable lone_linked
  have weaker : ∀ {view}, Free pid (Linked pid handle helper) view →
      Free pid (Base pid handle) view := fun held => ⟨held.1, held.2.toBase⟩
  refine Steady.before (unavailable_steady (quiet_steady .createCacheDir trivial before))
    (fun _ => ?_) fun _ _ _ held => .error held
  refine Steady.before (Steady.attempt (validate_steady before)) (fun validated => ?_)
    fun _ _ _ held => .error held
  refine Spec.bind (Q := byResult (fun _ => Owning pid (Base pid handle))
    fun _ => Free pid (Base pid handle)) ?_ (fun _ => ?_) fun _ _ _ held => .error held
  · refine Spec.handle lock_spec fun result => ?_
    cases result with
    | ok _ => exact Spec.pure fun _ _ held => held
    | error _ => exact Spec.throw fun _ _ held => held
  refine Spec.bind (withCacheLock_spec (pinLocked_spec validated)) (fun _ => ?_)
    fun _ _ _ held => .error held.1
  refine Spec.strengthen (P := Free pid (Linked pid handle helper)) ?_ fun _ _ held => held.2 _ rfl
  refine Steady.before (unavailable_steady (quiet_steady (.canonicalize _) trivial after))
    (fun path => ?_) fun _ _ _ held => .error (weaker held)
  refine Steady.before (unavailable_steady (quiet_steady (.stat path) trivial after))
    (fun version => ?_) fun _ _ _ held => .error (weaker held)
  refine Spec.bind resolveInterpreter_spec (fun interpreter => ?_)
    fun _ _ _ held => .error (weaker held.1)
  refine Spec.strengthen (P := fun view => (∀ found, interpreter = some found → ∃ image,
      helper.interpreter = some image ∧ found.sha256 = image.sha256) ∧
      Free pid (Linked pid handle helper) view) ?_ fun _ _ held => ⟨held.2 _ rfl, held.1⟩
  refine Spec.assume fun named => ?_
  refine Steady.before (quiet_steady (.persistEnvironment handle) trivial after)
    (fun environment => ?_) fun _ _ _ held => .error (weaker held)
  refine Spec.pure fun view _ held => .value (weaker held) ⟨held.1, held.2.toMine, ?_⟩
  refine ⟨held.2.executable, fun found same => ?_⟩
  obtain ⟨image, configured, digest⟩ := named found same
  rw [digest]
  exact held.2.interpreter image configured

end Launching

end HelperCache

end AgentBash
