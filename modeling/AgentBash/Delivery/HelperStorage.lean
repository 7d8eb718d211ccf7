import AgentBash.Delivery.HelperCache

/-!
# What the helper cache keeps

What one process may do to the names and nodes of the cache, what it leaves alone for another, and
the invariant that every request keeps.
-/

namespace AgentBash

set_option autoImplicit false

open Durable

namespace HelperStorage

variable {s before after third : HelperStorage} {name other : HelperName} {file pid : Nat}
  {handle : Handle} {sha256 : String}

section Regimes

/-- What every step of a process leaves to the others. -/
structure Steps (pid : Nat) (before after : HelperStorage) : Prop where
  own : ∀ {name handle}, name.owner = some handle → before.drawn handle ≠ some pid →
    after.links.find name = before.links.find name
  drawn : ∀ {handle other}, before.drawn handle = some other → after.drawn handle = some other
  draws : ∀ {handle other}, after.drawn handle = some other →
    before.drawn handle = some other ∨ other = pid
  recorded : ∀ {handle}, before.drawn handle ≠ some pid →
    after.recorded handle = before.recorded handle
  fixed : ∀ {name file}, name.isTemp = false → before.links.find name = some file →
    after.links.nodes file = before.links.nodes file
  linked : ∀ {handle file}, (handle, file) ∈ after.linked →
    (handle, file) ∈ before.linked ∨ before.drawn handle = some pid

/-- A snapshot leaves the cache only where no handle links it and `pid` has not linked it. -/
def Drops (pid : Nat) (before after : HelperStorage) : Prop :=
  ∀ sha256 file, before.links.find (.cached sha256) = some file →
    after.links.find (.cached sha256) = some file ∨
      (∀ name, name.directory ≠ none → before.links.find name ≠ some file) ∧
        ∀ handle, before.drawn handle = some pid → (handle, file) ∉ before.linked

/-- What a process relies on about its own handle while that is not recorded. -/
structure Beside (pid : Nat) (before after : HelperStorage) : Prop where
  own : ∀ {name handle}, name.owner = some handle → before.drawn handle = some pid →
    before.recorded handle = none → after.links.find name = before.links.find name
  unrecorded : ∀ {handle}, before.drawn handle = some pid → before.recorded handle = none →
    after.recorded handle = none
  drawn : ∀ {handle}, before.drawn handle = some pid → after.drawn handle = some pid
  draws : ∀ {handle}, after.drawn handle = some pid → before.drawn handle = some pid
  fixed : ∀ {name handle file}, name.directory = some handle → before.drawn handle = some pid →
    before.recorded handle = none → before.links.find name = some file →
    after.links.nodes file = before.links.nodes file
  linked : ∀ {handle file}, before.drawn handle = some pid → (handle, file) ∈ after.linked →
    (handle, file) ∈ before.linked

/-- What nobody does without the cache lock. -/
structure Around (before after : HelperStorage) : Prop where
  shared : ∀ {name}, name.directory = none → after.links.find name = before.links.find name
  nodes : after.links.nodes = before.links.nodes
  next : after.links.next = before.links.next
  fewer : ∀ {name file}, after.links.find name = some file → before.links.find name = some file

theorem owner_of_directory (inside : name.directory = some handle) : name.owner = some handle := by
  cases name with
  | cached => cases inside
  | temp => cases inside
  | helper => exact inside
  | interpreter => exact inside

theorem isTemp_of_directory (inside : name.directory ≠ none) : name.isTemp = false := by
  cases name with
  | cached => exact absurd rfl inside
  | temp => exact absurd rfl inside
  | helper => rfl
  | interpreter => rfl

theorem Steps.refl (pid : Nat) (s : HelperStorage) : Steps pid s s where
  own _ _ := rfl
  drawn found := found
  draws found := .inl found
  recorded _ := rfl
  fixed _ _ := rfl
  linked inside := .inl inside

theorem Drops.of_find (same : ∀ {sha256 file}, before.links.find (.cached sha256) = some file →
    after.links.find (.cached sha256) = some file) : Drops pid before after :=
  fun _ _ found => .inl (same found)

theorem Steps.beside {another : Nat} (steps : Steps pid before after) (different : another ≠ pid) :
    Beside another before after := by
  have foreign : ∀ {handle}, before.drawn handle = some another → before.drawn handle ≠ some pid :=
    fun drawn mine => different (Option.some.inj (drawn.symm.trans mine))
  exact {
    own := fun owned drawn _ => steps.own owned (foreign drawn)
    unrecorded := fun drawn none => (steps.recorded (foreign drawn)).trans none
    drawn := steps.drawn
    draws := fun found => (steps.draws found).resolve_right different
    fixed := fun inside _ _ found =>
      steps.fixed (isTemp_of_directory (by rw [inside]; exact Option.some_ne_none _)) found
    linked := fun drawn inside => (steps.linked inside).resolve_right (foreign drawn) }

theorem Beside.refl (pid : Nat) (s : HelperStorage) : Beside pid s s where
  own _ _ _ := rfl
  unrecorded _ none := none
  drawn found := found
  draws found := found
  fixed _ _ _ _ := rfl
  linked _ inside := inside

theorem Beside.trans (one : Beside pid before after) (two : Beside pid after third) :
    Beside pid before third where
  own owned drawn none :=
    (two.own owned (one.drawn drawn) (one.unrecorded drawn none)).trans (one.own owned drawn none)
  unrecorded drawn none := two.unrecorded (one.drawn drawn) (one.unrecorded drawn none)
  drawn found := two.drawn (one.drawn found)
  draws found := one.draws (two.draws found)
  fixed inside drawn none found := by
    have still := (one.own (owner_of_directory inside) drawn none).trans found
    have last := two.fixed inside (one.drawn drawn) (one.unrecorded drawn none) still
    exact last.trans (one.fixed inside drawn none found)
  linked drawn inside := one.linked drawn (two.linked (one.drawn drawn) inside)

theorem Around.refl (s : HelperStorage) : Around s s := ⟨fun _ => rfl, rfl, rfl, fun found => found⟩

theorem Around.trans (one : Around before after) (two : Around after third) :
    Around before third where
  shared inside := (two.shared inside).trans (one.shared inside)
  nodes := two.nodes.trans one.nodes
  next := two.next.trans one.next
  fewer found := one.fewer (two.fewer found)

end Regimes

section Knowledge

structure Mine (pid : Nat) (handle : Handle) (s : HelperStorage) : Prop where
  drawn : s.drawn handle = some pid
  unrecorded : s.recorded handle = none
  only : ∀ other, s.drawn other = some pid → other = handle

/-- What was linked into a directory is still there. -/
def Tracked (handle : Handle) (s : HelperStorage) : Prop :=
  ∀ file, (handle, file) ∈ s.linked →
    s.links.find (.helper handle) = some file ∨ s.links.find (.interpreter handle) = some file

structure Base (pid : Nat) (handle : Handle) (s : HelperStorage) : Prop
    extends Mine pid handle s where
  tracked : Tracked handle s

/-- A file that only its temporary name leads to. -/
structure Staged (sha256 : String) (handle : Handle) (file : Nat) (s : HelperStorage) : Prop where
  found : s.links.find (.temp sha256 handle) = some file
  only : ∀ name, s.links.find name = some file → name = .temp sha256 handle

/-- A snapshot that only the cache links. -/
structure Sole (sha256 : String) (file : Nat) (s : HelperStorage) : Prop where
  found : s.links.find (.cached sha256) = some file
  only : ∀ name, s.links.find name = some file → name = .cached sha256

theorem Mine.beside (mine : Mine pid handle before) (beside : Beside pid before after) :
    Mine pid handle after where
  drawn := beside.drawn mine.drawn
  unrecorded := beside.unrecorded mine.drawn mine.unrecorded
  only other drawn := mine.only other (beside.draws drawn)

theorem Mine.find (mine : Mine pid handle before) (beside : Beside pid before after)
    (owned : name.owner = some handle) : after.links.find name = before.links.find name :=
  beside.own owned mine.drawn mine.unrecorded

theorem Base.beside (base : Base pid handle before) (beside : Beside pid before after) :
    Base pid handle after := by
  refine ⟨base.toMine.beside beside, fun file inside => ?_⟩
  rw [Mine.find base.toMine beside rfl, Mine.find base.toMine beside rfl]
  exact base.tracked file (beside.linked base.drawn inside)

theorem Staged.around (staged : Staged sha256 handle file before) (around : Around before after) :
    Staged sha256 handle file after :=
  ⟨(around.shared rfl).trans staged.found, fun name found => staged.only name (around.fewer found)⟩

theorem Sole.around (sole : Sole sha256 file before) (around : Around before after) :
    Sole sha256 file after :=
  ⟨(around.shared rfl).trans sole.found, fun name found => sole.only name (around.fewer found)⟩

theorem Base.remove_temp (base : Base pid handle s) :
    Tracked handle (s.setLinks (s.links.unlink (.temp sha256 handle))) := by
  intro file inside
  simp only [setLinks, Links.find_unlink, reduceCtorEq, if_false]
  exact base.tracked file inside

end Knowledge

section Launcher

/-- What a step of the launcher of a handle does to names and nodes. -/
structure Relinks (handle : Handle) (before after : HelperStorage) : Prop where
  own : ∀ {name other}, name.owner = some other → other ≠ handle →
    after.links.find name = before.links.find name
  fixed : ∀ {name file}, name.isTemp = false → before.links.find name = some file →
    after.links.nodes file = before.links.nodes file
  drawn : after.drawn = before.drawn
  records : after.records = before.records
  linked : ∀ {other file}, (other, file) ∈ after.linked →
    (other, file) ∈ before.linked ∨ other = handle

namespace Relinks

theorem recorded (relinks : Relinks handle before after) : after.recorded = before.recorded := by
  funext other
  simp only [HelperStorage.recorded, relinks.records]

variable (relinks : Relinks handle before after) (mine : Mine pid handle before)

include relinks mine

theorem steps : Steps pid before after where
  own {name other} owned drawn :=
    relinks.own owned fun same => drawn (same ▸ mine.drawn)
  drawn found := (congrFun relinks.drawn _).trans found
  draws found := .inl ((congrFun relinks.drawn _).symm.trans found)
  recorded _ := congrFun relinks.recorded _
  fixed := relinks.fixed
  linked inside := (relinks.linked inside).imp_right fun same => by rw [same]; exact mine.drawn

theorem keeps : Mine pid handle after where
  drawn := (congrFun relinks.drawn _).trans mine.drawn
  unrecorded := (congrFun relinks.recorded _).trans mine.unrecorded
  only other drawn := mine.only other ((congrFun relinks.drawn _).symm.trans drawn)

end Relinks

end Launcher

section Snapshots

variable [Codec] {binding : HelperBinding} {content : CacheFile}

/-- All bytes of a snapshot are there, and on the medium. -/
structure Whole (sha256 : String) (file : CacheFile) : Prop where
  digest : Codec.sha256 file.content = sha256
  synced : file.synced = true

/-- A name that leads to bytes with a digest. -/
def Leads (s : HelperStorage) (name : HelperName) (sha256 : String) : Prop :=
  ∃ file, s.links.find name = some file ∧ Codec.sha256 (s.links.nodes file).content = sha256

/-- What a binding says is linked into the directory. -/
def Pinned (s : HelperStorage) (handle : Handle) (binding : HelperBinding) : Prop :=
  s.Leads (.helper handle) binding.sha256 ∧
    ∀ interpreter, binding.interpreter = some interpreter →
      s.Leads (.interpreter handle) interpreter.sha256

/-- What stands under a name, if anything does, has a digest. -/
def Holds (s : HelperStorage) (name : HelperName) (sha256 : String) : Prop :=
  ∀ file, s.links.find name = some file → Codec.sha256 (s.links.nodes file).content = sha256

structure Agrees (s : HelperStorage) (handle : Handle) (binding : HelperBinding) : Prop where
  helper : s.Holds (.helper handle) binding.sha256
  interpreter : ∀ interpreter, binding.interpreter = some interpreter →
    s.Holds (.interpreter handle) interpreter.sha256

structure Sane (s : HelperStorage) : Prop where
  born : ∀ {name file}, s.links.find name = some file → file < s.links.next
  whole : ∀ {sha256 file}, s.links.find (.cached sha256) = some file →
    Whole sha256 (s.links.nodes file)
  logged : ∀ {handle file}, (handle, file) ∈ s.linked → s.drawn handle ≠ none
  known : ∀ {handle}, s.recorded handle ≠ none → s.drawn handle ≠ none
  bound : ∀ {handle binding}, s.recorded handle = some binding → s.Agrees handle binding

/-- A process records only what its handle has. -/
def Records (before after : HelperStorage) : Prop :=
  ∀ handle binding, (handle, binding) :: before.records = after.records →
    before.Pinned handle binding

structure Acts (pid : Nat) (before after : HelperStorage) : Prop where
  sane : Sane after
  steps : Steps pid before after
  records : Records before after
  drops : Drops pid before after

theorem Records.of_eq (same : after.records = before.records) : Records before after :=
  fun _ _ longer => absurd (longer.trans same) (List.cons_ne_self _ _)

theorem Acts.refl (sane : Sane s) : Acts pid s s :=
  ⟨sane, .refl pid s, .of_eq rfl, .of_find fun found => found⟩

theorem Leads.holds (leads : s.Leads name sha256) : s.Holds name sha256 := by
  obtain ⟨file, found, digest⟩ := leads
  intro also same
  rw [found] at same
  exact Option.some.inj same ▸ digest

theorem Pinned.agrees (pinned : s.Pinned handle binding) : s.Agrees handle binding :=
  ⟨pinned.1.holds, fun interpreter bound => (pinned.2 interpreter bound).holds⟩

theorem Leads.beside (leads : before.Leads name sha256) (mine : Mine pid handle before)
    (beside : Beside pid before after) (inside : name.directory = some handle) :
    after.Leads name sha256 := by
  obtain ⟨file, found, digest⟩ := leads
  refine ⟨file, (mine.find beside (owner_of_directory inside)).trans found, ?_⟩
  rw [beside.fixed inside mine.drawn mine.unrecorded found]
  exact digest

namespace Relinks

variable (relinks : Relinks handle before after) (mine : Mine pid handle before)

include relinks mine

theorem bound (sane : Sane before) {other : Handle}
    (recorded : after.recorded other = some binding) : after.Agrees other binding := by
  rw [relinks.recorded] at recorded
  have different : other ≠ handle := by
    rintro rfl
    rw [mine.unrecorded] at recorded
    cases recorded
  have agrees := sane.bound recorded
  have holds : ∀ {name sha256}, name.directory = some other → before.Holds name sha256 →
      after.Holds name sha256 := by
    intro name sha256 inside held file found
    rw [relinks.own (owner_of_directory inside) different] at found
    have present : name.directory ≠ none := by
      rw [inside]
      exact Option.some_ne_none _
    rw [relinks.fixed (isTemp_of_directory present) found]
    exact held file found
  exact ⟨holds rfl agrees.helper, fun interpreter bound =>
    holds rfl (agrees.interpreter interpreter bound)⟩

theorem acts (sane : Sane before)
    (born : ∀ {name file}, after.links.find name = some file → file < after.links.next)
    (whole : ∀ {sha256 file}, after.links.find (.cached sha256) = some file →
      Whole sha256 (after.links.nodes file))
    (drops : Drops pid before after) : Acts pid before after where
  sane := {
    born := born
    whole := whole
    logged := by
      intro other file inside
      rw [relinks.drawn]
      rcases relinks.linked inside with old | rfl
      · exact sane.logged old
      · rw [mine.drawn]
        exact Option.some_ne_none _
    known := by
      intro other recorded
      rw [relinks.recorded] at recorded
      rw [relinks.drawn]
      exact sane.known recorded
    bound := relinks.bound mine sane }
  steps := relinks.steps mine
  records := .of_eq relinks.records
  drops := drops

end Relinks

section Changes

theorem acts_create (sane : Sane s) (base : Base pid handle s) :
    let after := s.setLinks (s.links.create (.temp sha256 handle) content)
    Acts pid s after ∧ Base pid handle after ∧ Staged sha256 handle s.links.next after := by
  intro after
  have others : ∀ {name}, name ≠ .temp sha256 handle →
      after.links.find name = s.links.find name := fun different =>
    (Links.find_link_other different).trans Links.find_allocate
  have relinks : Relinks handle s after := {
    own := by
      intro name other owned different
      refine others fun same => different ?_
      rw [same] at owned
      exact (Option.some.inj owned).symm
    fixed := fun _ found => Links.nodes_allocate_old (sane.born found)
    drawn := rfl
    records := rfl
    linked := .inl }
  refine ⟨relinks.acts base.toMine sane ?_ ?_ ?_, ⟨relinks.keeps base.toMine, ?_⟩, ?_⟩
  · intro name file found
    by_cases same : name = .temp sha256 handle
    · rw [same] at found
      cases Links.find_link_same.symm.trans found
      exact Nat.lt_succ_self _
    · rw [others same] at found
      exact Nat.lt_succ_of_lt (sane.born found)
  · intro digest file found
    rw [others (by simp)] at found
    rw [relinks.fixed rfl found]
    exact sane.whole found
  · exact .of_find fun found => (others (by simp)).trans found
  · intro file inside
    rw [others (by simp), others (by simp)]
    exact base.tracked file inside
  · refine ⟨Links.find_link_same, fun name found => ?_⟩
    by_contra different
    rw [others different] at found
    exact absurd (sane.born found) (Nat.lt_irrefl _)

theorem acts_write (sane : Sane s) (base : Base pid handle s)
    (staged : Staged sha256 handle file s) :
    let after := s.setLinks (s.links.write file content)
    Acts pid s after ∧ Base pid handle after ∧ Staged sha256 handle file after := by
  intro after
  have relinks : Relinks handle s after := {
    own := fun _ _ => rfl
    fixed := by
      intro name other plain found
      refine Links.nodes_write_other ?_
      rintro rfl
      rw [staged.only name found] at plain
      cases plain
    drawn := rfl
    records := rfl
    linked := .inl }
  refine ⟨relinks.acts base.toMine sane sane.born ?_ (.of_find fun found => found),
    ⟨relinks.keeps base.toMine, base.tracked⟩, staged.found, staged.only⟩
  intro digest other found
  rw [relinks.fixed rfl found]
  exact sane.whole found

theorem acts_publish (sane : Sane s) (base : Base pid handle s)
    (found : s.links.find name = some file)
    (whole : Whole sha256 (s.links.nodes file)) (absent : s.links.find (.cached sha256) = none) :
    let after := s.link (.cached sha256) file
    Acts pid s after ∧ Base pid handle after := by
  intro after
  have others : ∀ name, name ≠ .cached sha256 → after.links.find name = s.links.find name :=
    fun _ => Links.find_link_other
  have relinks : Relinks handle s after := {
    own := by
      intro name other owned _
      refine others name ?_
      rintro rfl
      cases owned
    fixed := fun _ _ => rfl
    drawn := rfl
    records := rfl
    linked := .inl }
  refine ⟨relinks.acts base.toMine sane ?_ ?_ ?_, relinks.keeps base.toMine, ?_⟩
  · intro other also linked
    by_cases same : other = .cached sha256
    · rw [same] at linked
      cases Links.find_link_same.symm.trans linked
      exact sane.born found
    · rw [others other same] at linked
      exact sane.born linked
  · intro digest also linked
    by_cases same : digest = sha256
    · subst same
      cases Links.find_link_same.symm.trans linked
      exact whole
    · rw [others (.cached digest) (by simpa using same)] at linked
      exact sane.whole linked
  · refine .of_find fun {digest also} linked => ?_
    refine (others (.cached digest) fun same => ?_).trans linked
    rw [same, absent] at linked
    cases linked
  · intro also inside
    rw [others (.helper handle) nofun, others (.interpreter handle) nofun]
    exact base.tracked also inside

theorem acts_pin (sane : Sane s) (base : Base pid handle s) (inside : name.directory = some handle)
    (found : s.links.find (.cached sha256) = some file) (absent : s.links.find name = none) :
    let after := s.link name file
    Acts pid s after ∧ Base pid handle after ∧ after.Leads name sha256 := by
  intro after
  have others : ∀ {other}, other ≠ name → after.links.find other = s.links.find other :=
    Links.find_link_other
  have logged : after.linked = (handle, file) :: s.linked := by
    simp only [after, link, inside, Option.map_some, Option.toList_some, List.singleton_append]
  have not_cached : ∀ digest, HelperName.cached digest ≠ name := by
    rintro digest rfl
    cases inside
  have relinks : Relinks handle s after := {
    own := by
      intro other another owned different
      refine others fun same => different ?_
      rw [same, owner_of_directory inside] at owned
      exact (Option.some.inj owned).symm
    fixed := fun _ _ => rfl
    drawn := rfl
    records := rfl
    linked := by
      intro other also member
      rw [logged] at member
      rcases List.mem_cons.mp member with same | old
      · exact .inr (congrArg Prod.fst same)
      · exact .inl old }
  refine ⟨relinks.acts base.toMine sane ?_ ?_ ?_, ⟨relinks.keeps base.toMine, ?_⟩,
    file, Links.find_link_same, (sane.whole found).digest⟩
  · intro other also linked
    by_cases same : other = name
    · rw [same] at linked
      cases Links.find_link_same.symm.trans linked
      exact sane.born found
    · rw [others same] at linked
      exact sane.born linked
  · intro digest also linked
    rw [others (not_cached digest)] at linked
    exact sane.whole linked
  · exact .of_find fun {digest also} linked => (others (not_cached digest)).trans linked
  · -- the new entry stands under the new name; an old one stands under the other
    intro also member
    rw [logged] at member
    rcases List.mem_cons.mp member with same | old
    · cases same
      cases name with
      | cached => cases inside
      | temp => cases inside
      | helper => cases inside; exact .inl Links.find_link_same
      | interpreter => cases inside; exact .inr Links.find_link_same
    · have stays : ∀ {other}, s.links.find other = some also →
          after.links.find other = some also := by
        intro other linked
        refine (others ?_).trans linked
        rintro rfl
        rw [absent] at linked
        cases linked
      exact (base.tracked also old).imp stays stays

/-- A temporary name, or a name of the directory, is removed by its launcher. -/
theorem acts_remove (sane : Sane s) (mine : Mine pid handle s) (owned : name.owner = some handle) :
    let after := s.setLinks (s.links.unlink name)
    Acts pid s after ∧ Mine pid handle after := by
  intro after
  have others : ∀ {other}, other ≠ name → after.links.find other = s.links.find other :=
    Links.find_unlink_other
  have relinks : Relinks handle s after := {
    own := by
      intro other another owned' different
      refine others fun same => different ?_
      rw [same, owned] at owned'
      exact (Option.some.inj owned').symm
    fixed := fun _ _ => rfl
    drawn := rfl
    records := rfl
    linked := .inl }
  have not_cached : ∀ digest, HelperName.cached digest ≠ name := by
    rintro digest rfl
    cases owned
  refine ⟨relinks.acts mine sane (fun found => sane.born (Links.find_of_find_unlink found))
    (fun found => sane.whole (Links.find_of_find_unlink found)) ?_, relinks.keeps mine⟩
  exact .of_find fun {digest also} linked => (others (not_cached digest)).trans linked

theorem acts_drop (sane : Sane s) (base : Base pid handle s) (sole : Sole sha256 file s) :
    let after := s.setLinks (s.links.unlink (.cached sha256))
    Acts pid s after ∧ Base pid handle after := by
  intro after
  have others : ∀ name, name ≠ .cached sha256 → after.links.find name = s.links.find name :=
    fun _ => Links.find_unlink_other
  have relinks : Relinks handle s after := {
    own := by
      intro name other owned _
      refine others name ?_
      rintro rfl
      cases owned
    fixed := fun _ _ => rfl
    drawn := rfl
    records := rfl
    linked := .inl }
  have unlinked : ∀ name, name.directory ≠ none → s.links.find name ≠ some file := by
    intro name inside found
    rw [sole.only name found] at inside
    exact inside rfl
  refine ⟨relinks.acts base.toMine sane (fun found => sane.born (Links.find_of_find_unlink found))
    (fun found => sane.whole (Links.find_of_find_unlink found)) ?_, relinks.keeps base.toMine, ?_⟩
  · intro digest also found
    by_cases same : digest = sha256
    · subst same
      cases sole.found.symm.trans found
      refine .inr ⟨unlinked, fun other drawn logged => ?_⟩
      rw [base.only other drawn] at logged
      rcases base.tracked file logged with found | found
      · exact unlinked (.helper handle) nofun found
      · exact unlinked (.interpreter handle) nofun found
    · exact .inl ((others (.cached digest) (by simpa using same)).trans found)
  · intro also inside
    rw [others (.helper handle) nofun, others (.interpreter handle) nofun]
    exact base.tracked also inside

theorem acts_draw (sane : Sane s) (absent : s.drawn handle = none)
    (first : ∀ other, s.drawn other ≠ some pid) :
    let after := { s with drawn := Function.update s.drawn handle (some pid) }
    Acts pid s after ∧ Base pid handle after := by
  intro after
  have own : after.drawn handle = some pid := Function.update_self _ _ _
  have others : ∀ {other}, other ≠ handle → after.drawn other = s.drawn other :=
    fun different => Function.update_of_ne different _ _
  have stays : ∀ {other another}, s.drawn other = some another →
      after.drawn other = some another := by
    intro other another found
    refine (others ?_).trans found
    rintro rfl
    rw [absent] at found
    cases found
  have present : ∀ {other}, s.drawn other ≠ none → after.drawn other ≠ none := by
    intro other drawn
    obtain ⟨another, found⟩ := Option.ne_none_iff_exists'.mp drawn
    rw [stays found]
    exact Option.some_ne_none _
  refine ⟨⟨⟨sane.born, sane.whole, fun inside => present (sane.logged inside),
      fun recorded => present (sane.known recorded), fun recorded => ?_⟩, ?_, .of_eq rfl,
      .of_find fun found => found⟩, ⟨own, ?_, ?_⟩, ?_⟩
  · exact ⟨(sane.bound recorded).helper, (sane.bound recorded).interpreter⟩
  · refine ⟨fun _ _ => rfl, stays, fun {other another} found => ?_, fun _ => rfl, fun _ _ => rfl, .inl⟩
    by_cases same : other = handle
    · rw [same, own] at found
      exact .inr (Option.some.inj found).symm
    · exact .inl ((others same).symm.trans found)
  · by_contra recorded
    exact sane.known recorded absent
  · intro other drawn
    by_contra different
    rw [others different] at drawn
    exact first other drawn
  · intro file inside
    exact absurd absent (sane.logged inside)

theorem acts_record (sane : Sane s) (mine : Mine pid handle s) (pinned : s.Pinned handle binding) :
    Acts pid s { s with records := (handle, binding) :: s.records } := by
  let after := { s with records := (handle, binding) :: s.records }
  have own : after.recorded handle = some binding := List.lookup_cons_self
  have others : ∀ {other}, other ≠ handle → after.recorded other = s.recorded other :=
    fun different => by
      have apart : (_ == handle) = false := beq_eq_false_iff_ne.mpr different
      simp only [after, recorded, List.lookup_cons, apart]
  have bound : ∀ {other found}, after.recorded other = some found → after.Agrees other found := by
    intro other found recorded
    have agrees : s.Agrees other found := by
      by_cases same : other = handle
      · subst same
        exact Option.some.inj (own.symm.trans recorded) ▸ pinned.agrees
      · exact sane.bound ((others same).symm.trans recorded)
    exact ⟨agrees.helper, agrees.interpreter⟩
  have known : ∀ {other}, after.recorded other ≠ none → after.drawn other ≠ none := by
    intro other recorded
    by_cases same : other = handle
    · intro none
      rw [same] at none
      cases none.symm.trans mine.drawn
    · exact sane.known fun none => recorded ((others same).trans none)
  refine ⟨⟨sane.born, sane.whole, sane.logged, known, bound⟩, ?_, ?_, .of_find fun found => found⟩
  · refine ⟨fun _ _ => rfl, fun found => found, .inl, fun drawn => others ?_, fun _ _ => rfl, .inl⟩
    rintro rfl
    exact drawn mine.drawn
  · intro other found same
    cases (List.cons.inj same).1
    exact pinned

theorem Sane.unlink (sane : Sane s) : Sane (s.setLinks (s.links.unlink name)) where
  born found := sane.born (Links.find_of_find_unlink found)
  whole found := sane.whole (Links.find_of_find_unlink found)
  logged := sane.logged
  known := sane.known
  bound recorded :=
    ⟨fun file found => (sane.bound recorded).helper file (Links.find_of_find_unlink found),
      fun interpreter bound file found =>
        (sane.bound recorded).interpreter interpreter bound file (Links.find_of_find_unlink found)⟩

end Changes

end Snapshots

/-- The directory of a recorded handle disappears without anybody else noticing. -/
theorem beside_vanish (inside : name.directory = some handle) (recorded : s.recorded handle ≠ none) :
    Beside pid s (s.setLinks (s.links.unlink name)) where
  own {other another} owned _ none := by
    refine Links.find_unlink_other ?_
    rintro rfl
    rw [owner_of_directory inside] at owned
    cases owned
    exact recorded none
  unrecorded _ none := none
  drawn found := found
  draws found := found
  fixed _ _ _ _ := rfl
  linked _ inside := inside

theorem around_unlink (inside : name.directory ≠ none) :
    Around s (s.setLinks (s.links.unlink name)) where
  shared {other} outside := by
    refine Links.find_unlink_other ?_
    rintro rfl
    exact inside outside
  nodes := rfl
  next := rfl
  fewer found := Links.find_of_find_unlink found

end HelperStorage

end AgentBash
