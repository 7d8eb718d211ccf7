import AgentBash.Durable.Publishing
import Mathlib.Logic.Relation

/-!
# Chronicles

A chronicle is a set of files that anybody may create, each of them once and only as it follows from
what stands already and from a resource that one lock owns. Whatever followed once goes on to follow,
so that all that is ever read of a chronicle agrees.
-/

namespace AgentBash.Durable

set_option autoImplicit false

variable {L : Layout} {E : Surroundings L}

/-- What stands under which name. -/
abbrev Records (L : Layout) := (file : L.File) → Option (L.Content file)

def Records.Extends (before after : Records L) : Prop :=
  ∀ file content, before file = some content → after file = some content

theorem Records.extends_create {before : Records L} {file : L.File} {content : L.Content file}
    (absent : before file = none) :
    Records.Extends before (Function.update before file (some content)) := by
  intro other standing there
  by_cases same : other = file
  · subst same
    rw [absent] at there
    cases there
  · rw [Function.update_of_ne same]
    exact there

/-- `Follows` is what justifies a file; neither the resource nor the files that stand unjustify it. -/
structure Chronicle (L : Layout) where
  name : L.Lock
  Resource : Type
  resource : Records L → Resource
  Moves : Resource → Resource → Prop
  Valid : Resource → Prop
  logged : L.File → Bool
  Follows : Resource → Records L → (file : L.File) → L.Content file → Prop
  apart : ∀ {files : Records L} {file : L.File} (content : Option (L.Content file)),
    logged file = true → resource (Function.update files file content) = resource files
  moved : ∀ {before after : Resource} {log : Records L} {file : L.File} {content : L.Content file},
    Moves before after → Follows before log file content → Follows after log file content
  extended : ∀ {value : Resource} {before after : Records L} {file : L.File}
    {content : L.Content file}, before.Extends after → Follows value before file content →
    Follows value after file content

namespace Chronicle

variable (chronicle : Chronicle L)

def records (files : Records L) : Records L := fun file =>
  if chronicle.logged file then files file else none

def Adds (value : chronicle.Resource) (before after : Records L) : Prop :=
  ∃ file content, before file = none ∧ chronicle.Follows value before file content ∧
    after = Function.update before file (some content)

/-- Every file that stands follows. -/
def Backed (value : chronicle.Resource) (log : Records L) : Prop :=
  ∀ file content, log file = some content → chronicle.Follows value log file content

variable {chronicle}

theorem Adds.extends_ {value : chronicle.Resource} {before after : Records L}
    (adds : chronicle.Adds value before after) : before.Extends after := by
  obtain ⟨file, content, absent, -, rfl⟩ := adds
  exact Records.extends_create absent

theorem Backed.adds {value : chronicle.Resource} {before after : Records L}
    (backed : chronicle.Backed value before) (adds : chronicle.Adds value before after) :
    chronicle.Backed value after := by
  have extends_ := adds.extends_
  obtain ⟨file, content, absent, follows, rfl⟩ := adds
  intro other standing there
  by_cases same : other = file
  · subst same
    rw [Function.update_self] at there
    exact Option.some.inj there ▸ chronicle.extended extends_ follows
  · rw [Function.update_of_ne same] at there
    exact chronicle.extended extends_ (backed other standing there)

theorem follows_grows {before after : chronicle.Resource} {log : Records L} {file : L.File}
    {content : L.Content file} (grows : Relation.ReflTransGen chronicle.Moves before after)
    (follows : chronicle.Follows before log file content) :
    chronicle.Follows after log file content := by
  induction grows with
  | refl => exact follows
  | tail _ moves ih => exact chronicle.moved moves ih

variable (chronicle)

/-- The discipline of everybody who keeps to a chronicle. -/
def owned (E : Surroundings L) : Owned L E Unit where
  name := chronicle.name
  Resource := chronicle.Resource
  resource files _ _ := chronicle.resource files
  Log := Records L
  log files _ := chronicle.records files
  Valid _ := chronicle.Valid
  Moves _ := chronicle.Moves
  Drops _ _ := False
  growth :=
    { Grows := Relation.ReflTransGen chronicle.Moves
      Extends := Records.Extends
      Adds := chronicle.Adds
      Backed := chronicle.Backed
      grows_refl := fun _ => .refl
      grows_trans := .trans
      extends_refl := fun _ _ _ there => there
      extends_trans := fun one two file content there => two file content (one file content there)
      moves := .single
      drops := False.elim
      adds := Adds.extends_
      backed := fun grows backed file content there => follows_grows grows (backed file content there)
      added := Backed.adds }
  Depth count := count ≤ 1
  shallow := @shallow_alone
  one := alone_one
  taken valid := valid
  left {_ _ ghost} valid := ⟨ghost, valid, .inl rfl⟩

variable {Entry : Type} {entry : Entry → Program (requests L E)}
  {policy : System.Policy (system L E entry)} {pid : Nat} {chronicle}

/-- A file of the chronicle, for good. -/
def stands (chronicle : Chronicle L) (file : L.File) (content : L.Content file) :
    (chronicle.owned E).Resource → (chronicle.owned E).Log → Prop :=
  fun _ (log : Records L) => log file = some content

theorem stands_lasting {file : L.File} {content : L.Content file} :
    (chronicle.owned E).Lasting (chronicle.stands (E := E) file content) :=
  ⟨fun _ there => there, fun extends_ there => extends_ file content there⟩

section Steps

variable {view : Owned.View L E Unit} {file : L.File}

theorem notes_logged (logged : chronicle.logged file = true) :
    (chronicle.owned E).notes view file = view.1.files file := if_pos logged

theorem records_put (content : Option (L.Content file)) (files : Records L)
    (logged : chronicle.logged file = true) :
    chronicle.records (Function.update files file content) =
      Function.update (chronicle.records files) file content := by
  funext other
  by_cases same : other = file
  · subst same
    rw [Function.update_self, records, if_pos logged, Function.update_self]
  · rw [Function.update_of_ne same, records, Function.update_of_ne same]
    rfl

theorem noted_write {content : L.Content file} (logged : chronicle.logged file = true)
    (absent : view.1.files file = none)
    (follows : chronicle.Follows ((chronicle.owned E).value view) ((chronicle.owned E).notes view)
      file content) :
    (chronicle.owned E).Noted view (view.1.write file content, view.2) :=
  ⟨chronicle.apart (some content) logged, file, content, (notes_logged logged).trans absent, follows,
    records_put (some content) view.1.files logged⟩

theorem notes_put (content : Option (L.Content file)) (unlogged : chronicle.logged file = false) :
    (chronicle.owned E).notes (view.1.put file content, view.2) = (chronicle.owned E).notes view := by
  funext other
  change (if chronicle.logged other then (view.1.put file content).files other else none) =
    if chronicle.logged other then view.1.files other else none
  by_cases same : other = file
  · rw [same, unlogged]
    rfl
  · rw [view.1.put_other _ same]

end Steps

variable {P : Owned.View L E Unit → Prop} {file : L.File}

theorem learns_rule (frame : (chronicle.owned E).Frame entry pid P)
    (logged : chronicle.logged file = true) :
    Spec ((chronicle.owned E).discipline entry) policy pid P (Io.read file)
      (byResult (fun content view => P view ∧
        (chronicle.owned E).Knows (chronicle.stands file content) view) fun _ => P) := by
  apply Lane.read frame.stable
  · exact fun view content _ holds there => ⟨holds, (notes_logged logged).trans there⟩
  · exact fun _ _ holds _ => holds
  · exact fun _ _ _ _ holds => holds

theorem publishes_rule [DecidableEq (L.Content file)] {conflict : IoError}
    {content : L.Content file} (frame : (chronicle.owned E).Frame entry pid P)
    (logged : chronicle.logged file = true)
    (follows : ∀ view, P view → chronicle.Follows ((chronicle.owned E).value view)
      ((chronicle.owned E).notes view) file content) :
    Spec ((chronicle.owned E).discipline entry) policy pid P (Io.immutable file conflict content)
      (byResult (fun _ view => P view ∧
        (chronicle.owned E).Knows (chronicle.stands file content) view) fun _ => P) := by
  have frame' : (chronicle.owned E).Frame entry pid fun view => P view ∧
      (chronicle.owned E).Knows (chronicle.stands file content) view :=
    frame.and stands_lasting.frame
  apply immutable_rule frame.stable frame'.stable
  · intro view inv holds absent
    have noted := noted_write logged absent (follows view holds)
    have there : (view.1.write file content).files file = some content := Disk.put_same _ _ _
    exact keeps_noted inv rfl noted
      ⟨frame.same rfl rfl noted.passed holds, (notes_logged logged).trans there⟩
  · exact fun view _ holds there => ⟨holds, (notes_logged logged).trans there⟩
  · exact fun _ _ _ holds => holds.1
  · exact fun _ _ _ holds => holds

theorem moved_write {view : Owned.View L E Unit} {content : L.Content file}
    (newest : view.1.Newest pid chronicle.name) (unlogged : chronicle.logged file = false)
    (moves : chronicle.Moves (chronicle.resource view.1.files)
      (chronicle.resource (view.1.write file content).files)) :
    (chronicle.owned E).Moved pid view (view.1.write file content, view.2) :=
  ⟨newest, moves, notes_put (some content) unlogged⟩

/-- Files that are neither logged nor part of the resource are nobody's concern. -/
theorem unconcerned {free : L.File → Prop}
    (unlogged : ∀ file, free file → chronicle.logged file = false)
    (apart : ∀ file, free file → ∀ (files : Records L) (content : Option (L.Content file)),
      chronicle.resource (Function.update files file content) = chronicle.resource files) :
    Unconcerned (chronicle.owned E) free fun _ => True where
  writes {file} content view free :=
    ⟨apart file free view.1.files content, notes_put content (unlogged file free)⟩
  asks _ _ _ := ⟨rfl, rfl⟩

end Chronicle

namespace Owned

variable {γ Entry : Type} {owned : Owned L E γ} {entry : Entry → Program (requests L E)}
  {policy : System.Policy (system L E entry)} {pid : Nat} {other : L.Lock} {names : List L.Lock}

/-- At most these locks are held beside the owning one. -/
def Only (owned : Owned L E γ) (names : List L.Lock) (pid : Nat) (view : View L E γ) : Prop :=
  pid < view.1.next ∧ ∀ name, name ≠ owned.name → pid ∈ view.1.held name → name ∈ names

theorem clean_iff_only {view : View L E γ} : owned.Clean pid view ↔ owned.Only [] pid view := by
  constructor
  · exact fun clean => ⟨clean.1, fun name own inside => absurd inside (clean.2 name own)⟩
  · exact fun only => ⟨only.1, fun name own inside => List.not_mem_nil (only.2 name own inside)⟩

theorem Only.beside : owned.Beside entry pid (owned.Only names pid) where
  stable _ holds moved _ :=
    ⟨holds.1.trans_le moved.1.grows.next,
      fun name own inside => holds.2 name own (moved.1.joins holds.1 inside)⟩
  born holds := holds.1
  same held next _ holds := by
    refine ⟨next ▸ holds.1, fun name own inside => ?_⟩
    rw [held name own] at inside
    exact holds.2 name own inside

theorem Only.within : owned.Section entry pid other (owned.Only names pid)
    (owned.Only (other :: names) pid) where
  outer := Only.beside.frame
  inner := Only.beside.frame
  enter {view} holds := ⟨holds.1, fun name own inside => by
    by_cases same : name = other
    · exact same ▸ List.mem_cons_self
    · rw [view.1.acquire_other pid same] at inside
      exact List.mem_cons_of_mem _ (holds.2 name own inside)⟩
  leave {view} sound holds := ⟨holds.1, fun name own inside => by
    by_cases same : name = other
    · subst same
      exact absurd inside (Disk.not_mem_release sound)
    · rw [view.1.release_other pid same] at inside
      exact (List.mem_cons.mp (holds.2 name own inside)).resolve_left same⟩

end Owned

end AgentBash.Durable
