import AgentBash.Custody.PublicationSpecs

/-!
# Hashing in quanta

The output does not change once it is captured, so that the chunked hasher comes to the digest of
all of it, over however many quanta and errors.
-/

namespace AgentBash

set_option autoImplicit false

open Durable

namespace SourceCustody

theorem Body.fixed {before after : Body} {content : Bytes}
    (grows : Relation.ReflTransGen Body.Moves before after) (there : before.output = some content) :
    after = before := by
  induction grows with
  | refl => rfl
  | tail _ moves ih =>
      subst ih
      cases moves <;> cases there

/-- A hasher is somewhere in the output that stands. -/
structure Hashes (content : Bytes) (hasher : OutputHasher) : Prop where
  whole : hasher.expectedLen = content.length
  within : hasher.count ≤ content.length
  hashed : hasher.hashed = content.take hasher.count

def hashed (hasher : OutputHasher) : Seen := fun body _ =>
  ∃ content, body.output = some content ∧ Hashes content hasher

theorem length_readChunk {content : Bytes} {offset count : Nat} :
    (readChunk content offset count).length =
      min (min (count + 1) (64 * 1024)) (content.length - offset) := by
  rw [readChunk, List.length_take, List.length_drop]

theorem take_readChunk {content : Bytes} {offset count : Nat} :
    content.take offset ++ readChunk content offset count =
      content.take (offset + (readChunk content offset count).length) := by
  rw [List.take_add, readChunk, List.length_take, List.length_drop]
  congr 1
  rw [← List.length_drop, ← List.take_eq_take_min]

theorem Hashes.ends {content : Bytes} {hasher : OutputHasher} {count : Nat}
    (hashes : Hashes content hasher)
    (empty : (readChunk content hasher.count count).length = 0) : hasher.count = content.length := by
  have within := hashes.within
  rw [length_readChunk] at empty
  omega

theorem Hashes.advances {content : Bytes} {hasher : OutputHasher} {count : Nat}
    (hashes : Hashes content hasher) :
    Hashes content { hasher with
      count := hasher.count + (readChunk content hasher.count count).length
      hashed := hasher.hashed ++ readChunk content hasher.count count } := by
  refine ⟨hashes.whole, ?_, ?_⟩
  · have within := hashes.within
    change hasher.count + (readChunk content hasher.count count).length ≤ content.length
    rw [length_readChunk]
    omega
  · rw [hashes.hashed]
    exact take_readChunk

variable [Codec] {site : Site} {policy : System.Policy (custodySystem site)} {pid : Nat}
  {P : Sight → Prop}

theorem hashed_lasting {hasher : OutputHasher} : publications.Lasting (hashed hasher) := by
  constructor
  · rintro before after _ grows ⟨content, there, hashes⟩
    rw [Body.fixed grows there]
    exact ⟨content, there, hashes⟩
  · exact fun _ known => known

def described (descriptor : Value) : Seen := fun body _ => Describes body descriptor

theorem described_lasting {descriptor : Value} : publications.Lasting (described descriptor) := by
  constructor
  · intro before after _ grows describes
    induction grows with
    | refl => exact describes
    | tail _ moves ih => exact Describes.moves moves ih
  · exact fun _ known => known

variable (frame : PublishFrame site pid P)
include frame

theorem hashed_frame (hasher : OutputHasher) :
    PublishFrame site pid fun view => P view ∧ publications.Knows (hashed hasher) view :=
  frame.and hashed_lasting.frame

theorem readsOutput {hasher : OutputHasher} :
    Spec (publishDiscipline site) policy pid
      (fun view => P view ∧ publications.Knows (hashed hasher) view)
      (ask (.readOutput hasher.count))
      (byResult (fun (chunk : Bytes) view => P view ∧ publications.Knows (fun body _ =>
        ∃ content count, body.output = some content ∧ Hashes content hasher ∧
          chunk = readChunk content hasher.count count) view)
        fun _ view => P view ∧ publications.Knows (hashed hasher) view) := by
  have frame' := hashed_frame frame hasher
  refine Lane.external frame'.stable ?_
  intro view choice answer world _ inv holds _ _ acted
  have same : publications.Same view ({ view.1 with world := world }, view.2) := ⟨rfl, rfl⟩
  have stays : P ({ view.1 with world := world }, view.2) ∧
      publications.Knows (hashed hasher) ({ view.1 with world := world }, view.2) :=
    frame'.local_.quiet rfl rfl same holds
  rcases CustodyOp.act_cases acted with ⟨_, rfl, rfl⟩ | performed
  · exact Owned.keeps_quiet inv rfl same stays
  · cases choice with
    | count count =>
        obtain ⟨content, there, served⟩ := Option.map_eq_some_iff.mp performed
        obtain ⟨rfl, rfl⟩ := Prod.mk.inj served
        obtain ⟨content', there', hashes⟩ := holds.2
        have equal : content' = content := Option.some.inj (there'.symm.trans there)
        subst equal
        exact Owned.keeps_quiet inv rfl same ⟨stays.1, content', count, there, hashes, rfl⟩
    | _ => cases performed

/-- Whatever a read comes to, the hasher goes on from where it is; it reads nothing at the end. -/
theorem readBuffer_hashes (hasher : OutputHasher) :
    Keeping.Ends (publishDiscipline site) policy pid
      (fun view => P view ∧ publications.Knows (hashed hasher) view) hasher readBuffer
      fun result kept view => (P view ∧ publications.Knows (hashed kept) view) ∧
        (result = .ok 0 → kept.count = kept.expectedLen) := by
  apply Keeping.Ends.now
  apply Keeping.Ends.lifted (readsOutput frame)
  · intro (chunk : Bytes)
    apply Keeping.Ends.branch
    · intro empty
      apply Keeping.Ends.pure
      rintro view _ ⟨holds, content, count, there, hashes, rfl⟩
      exact ⟨⟨holds, content, there, hashes⟩, fun _ => (hashes.ends empty).trans hashes.whole.symm⟩
    · intro some_
      apply Keeping.Ends.branch
      · intro _
        apply Keeping.Ends.modified
        apply Keeping.Ends.branch
        · intro grew
          apply Keeping.Ends.throw
          -- the output does not grow behind the reader
          rintro view _ ⟨_, content, count, _, hashes, rfl⟩
          have advances : hasher.count + (readChunk content hasher.count count).length ≤
            content.length := hashes.advances.within
          have whole := hashes.whole
          omega
        · intro _
          apply Keeping.Ends.modified
          apply Keeping.Ends.pure
          rintro view _ ⟨holds, content, count, there, hashes, rfl⟩
          exact ⟨⟨holds, content, there, hashes.advances⟩,
            fun ended => absurd (Except.ok.inj ended) some_⟩
      · intro _
        apply Keeping.Ends.throw
        rintro view _ ⟨holds, content, count, there, hashes, -⟩
        exact ⟨⟨holds, content, there, hashes⟩, nofun⟩
  · exact fun _ _ holds => ⟨holds, nofun⟩

theorem finishHash_describes {hasher : OutputHasher} :
    Spec (publishDiscipline site) policy pid
      (fun view => P view ∧ publications.Knows (hashed hasher) view) (finishHash hasher)
      (byResult (fun descriptor view => (P view ∧ publications.Knows (hashed hasher) view) ∧
        publications.Knows (described descriptor) view)
        fun _ view => P view ∧ publications.Knows (hashed hasher) view) := by
  have calm := frame_calm (hashed_frame frame hasher)
  apply Spec.branch
  · intro ended
    apply Steady.before (Bystander.read calm _) _ fun _ _ _ holds => holds
    intro (content : Bytes)
    apply Spec.branch
    · intro _
      apply Spec.pure
      rintro view _ ⟨holds, content, there, hashes⟩
      have whole : hasher.hashed = content := by
        rw [hashes.hashed, ended, hashes.whole, List.take_length]
      exact ⟨⟨holds, content, there, hashes⟩, .captured content there (whole ▸ rfl)⟩
    · exact fun _ => .throw fun _ _ holds => holds
  · exact fun _ => .throw fun _ _ holds => holds

/-- A quantum comes to the descriptor of the output, or goes on from where it is. -/
theorem readQuantum_describes (fuel quantum : Nat) (hasher : OutputHasher) :
    Keeping.Ends (publishDiscipline site) policy pid
      (fun view => P view ∧ publications.Knows (hashed hasher) view) hasher
      (readQuantum fuel quantum)
      fun result kept view => (P view ∧ publications.Knows (hashed kept) view) ∧
        ∀ descriptor, result = .ok (some descriptor) →
          publications.Knows (described descriptor) view := by
  induction fuel generalizing quantum hasher with
  | zero => exact Keeping.Ends.pure fun _ _ holds => ⟨holds, nofun⟩
  | succ fuel ih =>
      apply Keeping.Ends.branch
      · exact fun _ => Keeping.Ends.pure fun _ _ holds => ⟨holds, nofun⟩
      · intro _
        apply Keeping.Ends.bind (readBuffer_hashes frame hasher)
        · intro length kept
          apply Keeping.Ends.branch
          · intro _
            apply Keeping.Ends.now
            apply Keeping.Ends.lifted ((finishHash_describes frame).strengthen
              fun view _ holds => holds.1)
            · intro descriptor
              apply Keeping.Ends.pure
              rintro view _ ⟨holds, describes⟩
              refine ⟨holds, fun other same => ?_⟩
              cases same
              exact describes
            · exact fun _ _ holds => ⟨holds, nofun⟩
          · exact fun _ => (ih _ kept).strengthen fun _ _ holds => holds.1
        · exact fun _ _ _ holds => ⟨holds.1, nofun⟩

theorem hashAll_describes (fuel : Nat) (hasher : OutputHasher) :
    Keeping.Ends (publishDiscipline site) policy pid
      (fun view => P view ∧ publications.Knows (hashed hasher) view) hasher (hashAll fuel)
      fun result _ view => P view ∧ ∀ descriptor, result = .ok descriptor →
        publications.Knows (described descriptor) view := by
  induction fuel generalizing hasher with
  | zero => exact Keeping.Ends.throw fun _ _ holds => ⟨holds.1, nofun⟩
  | succ fuel ih =>
      apply Keeping.Ends.bind (readQuantum_describes frame _ _ hasher)
      · intro found kept
        cases found with
        | some descriptor =>
            apply Keeping.Ends.pure
            rintro view _ ⟨holds, describes⟩
            refine ⟨holds.1, fun other same => ?_⟩
            cases same
            exact describes descriptor rfl
        | none => exact (ih kept).strengthen fun _ _ holds => holds.1
      · exact fun _ _ _ holds => ⟨holds.1.1, nofun⟩

theorem newHasher_hashes : Spec (publishDiscipline site) policy pid P newHasher
    (byResult (fun hasher view => P view ∧ publications.Knows (hashed hasher) view) fun _ => P) := by
  apply Spec.bind (Q := byResult (fun (content : Bytes) view => P view ∧
    publications.Knows (hashed { expectedLen := content.length }) view) fun _ => P)
  · apply Lane.read frame.stable
    · exact fun view content _ holds there =>
        ⟨holds, content, there, rfl, Nat.zero_le _, rfl⟩
    · exact fun _ _ holds _ => holds
    · exact fun _ _ _ _ holds => holds
  · exact fun _ => .pure fun _ _ holds => holds
  · exact fun _ _ _ holds => holds

theorem wholeOutput_describes : Spec (publishDiscipline site) policy pid P wholeOutput
    (byResult (fun descriptor view => P view ∧ publications.Knows (described descriptor) view)
      fun _ => P) := by
  apply Spec.bind (newHasher_hashes frame)
  · intro hasher
    apply Spec.bind (hashAll_describes frame _ hasher)
    · rintro ⟨result, kept⟩
      apply Spec.ofExcept
      intro view _ holds
      cases result with
      | ok descriptor => exact ⟨holds.1, holds.2 descriptor rfl⟩
      | error _ => exact holds.1
    · exact fun _ _ _ impossible => impossible.elim
  · exact fun _ _ _ holds => holds

end SourceCustody

end AgentBash
