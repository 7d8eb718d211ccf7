import AgentBash.Custody.PublicationRules
import AgentBash.Durable.Chronicle

/-!
# The chronicle of a publication

The header follows from the selection, the bundle from the header and from what became of the
output, and the two published files from the bundle. The capture lease owns the output: it is
captured once, or its loss is attested once.
-/

namespace AgentBash

set_option autoImplicit false

open Durable

namespace SourceCustody

/-- What became of the selected output. -/
structure Body where
  output : Option Bytes
  missing : Option Value

inductive Body.Moves : Body → Body → Prop
  | capture (content : Bytes) : Moves ⟨none, none⟩ ⟨some content, none⟩
  | lose (proof : Value) : Moves ⟨none, none⟩ ⟨none, some proof⟩

def bodyOf (files : Records custodyLayout) : Body where
  output := files SourceFile.output
  missing := files SourceFile.missingOutput

def chronicled : SourceFile → Bool
  | .selection | .observation | .sourceBundle | .outcome | .snapshot => true
  | _ => false

/-- Neither a published file nor the output. -/
def besidePublication : SourceFile → Prop
  | .selection | .observation | .output | .missingOutput | .sourceBundle | .outcome | .snapshot => False
  | _ => True

variable [Codec]

/-- An output is described by its digest, a lost one by the proof of its loss. -/
inductive Describes (body : Body) (descriptor : Value) : Prop
  | captured (content : Bytes) (there : body.output = some content)
      (same : descriptor = outputDescriptor content)
  | missing (there : body.missing = some descriptor)

theorem Describes.moves {before after : Body} {descriptor : Value} (moves : before.Moves after)
    (describes : Describes before descriptor) : Describes after descriptor := by
  cases moves <;> cases describes with
  | captured _ there => cases there
  | missing there => cases there

theorem Describes.unique {body : Body} {one two : Value}
    (valid : body.output = none ∨ body.missing = none) (first : Describes body one)
    (second : Describes body two) : one = two := by
  cases first with
  | captured content there same =>
      cases second with
      | captured content' there' same' =>
          rw [there] at there'
          rw [same, same', Option.some.inj there']
      | missing there' =>
          rcases valid with none_ | none_
          · rw [there] at none_
            cases none_
          · rw [there'] at none_
            cases none_
  | missing there =>
      cases second with
      | captured content' there' _ =>
          rcases valid with none_ | none_
          · rw [there'] at none_
            cases none_
          · rw [there] at none_
            cases none_
      | missing there' => exact Option.some.inj (there.symm.trans there')

/-- What justifies a published file. -/
def Follows (body : Body) (log : Records custodyLayout) : (file : SourceFile) → file.Content → Prop
  | .selection, _ => True
  | .observation, staged => ∃ selection : Value, log SourceFile.selection = some selection ∧
      selection.field? "observation" = some staged
  | .sourceBundle, bundle => ∃ staged descriptor, log SourceFile.observation = some staged ∧
      Describes body descriptor ∧ bundle = bundleOf staged descriptor
  | .outcome, bytes => ∃ bundle : SourceBundle, log SourceFile.sourceBundle = some bundle ∧
      bytes = bundle.outcome
  | .snapshot, bytes => ∃ bundle : SourceBundle, log SourceFile.sourceBundle = some bundle ∧
      bytes = bundle.snapshot
  | _, _ => False

theorem Follows.moved {before after : Body} {log : Records custodyLayout} {file : SourceFile}
    {content : file.Content} (moves : before.Moves after) (follows : Follows before log file content) :
    Follows after log file content := by
  cases file with
  | sourceBundle =>
      obtain ⟨staged, descriptor, there, describes, same⟩ := follows
      exact ⟨staged, descriptor, there, describes.moves moves, same⟩
  | _ => exact follows

theorem Follows.extended {body : Body} {before after : Records custodyLayout} {file : SourceFile}
    {content : file.Content} (extends_ : before.Extends after)
    (follows : Follows body before file content) : Follows body after file content := by
  cases file with
  | selection => exact follows
  | observation =>
      obtain ⟨selection, there, same⟩ := follows
      exact ⟨selection, extends_ _ _ there, same⟩
  | sourceBundle =>
      obtain ⟨staged, descriptor, there, describes, same⟩ := follows
      exact ⟨staged, descriptor, extends_ _ _ there, describes, same⟩
  | outcome =>
      obtain ⟨bundle, there, same⟩ := follows
      exact ⟨bundle, extends_ _ _ there, same⟩
  | snapshot =>
      obtain ⟨bundle, there, same⟩ := follows
      exact ⟨bundle, extends_ _ _ there, same⟩
  | _ => exact follows

def publishing : Chronicle custodyLayout where
  name := CustodyLock.sourceCapture
  Resource := Body
  resource := bodyOf
  Moves := Body.Moves
  Valid body := body.output = none ∨ body.missing = none
  logged := chronicled
  Follows := Follows
  apart {files file} content logged := by
    have other {name : SourceFile} (unlogged : chronicled name = false) :
        Function.update files file content name = files name :=
      Function.update_of_ne (fun same => by rw [same, logged] at unlogged; cases unlogged) _ _
    simp only [bodyOf]
    rw [other rfl, other rfl]
  moved := Follows.moved
  extended := Follows.extended

abbrev publications : Owned custodyLayout custodyOutside Unit := publishing.owned custodyOutside

theorem unpublished : Unconcerned publications besidePublication fun _ => True := by
  apply Chronicle.unconcerned
  · intro file free
    cases file <;> first | rfl | exact free.elim
  · intro file free files content
    have apart {name : SourceFile} (concerned : ¬ besidePublication name) : name ≠ file :=
      fun same => concerned (same ▸ free)
    have other {name : SourceFile} (concerned : ¬ besidePublication name) :
        Function.update files file content name = files name :=
      Function.update_of_ne (apart concerned) _ _
    simp only [publishing, bodyOf]
    rw [other id, other id]

end SourceCustody

end AgentBash
