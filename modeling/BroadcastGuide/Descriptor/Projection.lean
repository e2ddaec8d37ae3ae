import BroadcastGuide.Description
import BroadcastGuide.Descriptor.Loop
import BroadcastGuide.Labels

/-!
Fills a programme from its descriptors. The fields come in the order in which the guide shows them,
each from all descriptors of its kind.
-/

namespace BroadcastGuide

open Text (CharacterTable Tallied)

structure UnknownDescriptor where
  tag : UInt8
  size : Nat
  specifier : Nat
  deriving DecidableEq, Repr

namespace Projection

/-- Tags of descriptors that are known and say nothing for the guide. -/
def ignoredTags : List UInt8 :=
  [0x00, 0x4F, 0x52, 0x53, 0x5E, 0x64, 0x69, 0x83, 0x84, 0x85, 0x86]

/-- The unknown descriptors. A private data specifier holds until the next one. -/
def unknowns (specifier : Nat) : List Descriptor → List UnknownDescriptor
  | [] => []
  | .privateDataSpecifier value :: rest => unknowns value rest
  | .other tag payload :: rest =>
    if ignoredTags.contains tag || Labels.isKnownPrivate tag.toNat specifier then
      unknowns specifier rest
    else ⟨tag, payload.length, specifier⟩ :: unknowns specifier rest
  | _ :: rest => unknowns specifier rest

/-- Texts of the non-empty fields that are not empty when normalized. -/
def langTexts (table : CharacterTable) : List (String × Octets) → Tallied (List LangText)
  | [] => return []
  | (language, field) :: rest =>
    if field.isEmpty then langTexts table rest
    else do
      let text ← Text.normalize table field
      let others ← langTexts table rest
      return if text.isEmpty then others else ⟨language, text⟩ :: others

def shortEvents (ds : List Descriptor) : List ShortEvent :=
  ds.filterMap fun | .shortEvent d => some d | _ => none

def extendedEvents (ds : List Descriptor) : List ExtendedEvent :=
  ds.filterMap fun | .extendedEvent d => some d | _ => none

def components (ds : List Descriptor) : List Component :=
  ds.filterMap fun | .component d => some d | _ => none

def componentsOf (content : Nat) (ds : List Descriptor) : List Component :=
  (components ds).filter (·.streamContent == content)

def video : Nat := 1
def audio : Nat := 2
def teletext : Nat := 3

def contentCodes (ds : List Descriptor) : List Nat :=
  ds.flatMap fun | .content entries => entries.map (·.code) | _ => []

def ratingCodes (ds : List Descriptor) : List Nat :=
  ds.flatMap fun | .parentalRating entries => entries.map (·.rating) | _ => []

def cridEntries (ds : List Descriptor) : List CridEntry :=
  ds.flatMap fun | .contentIdentifier entries => entries | _ => []

/-- Labels of the codes, each code once and in the order of its first occurrence. -/
def categories (seen : List Nat) : List Nat → List String
  | [] => []
  | code :: rest =>
    if code = 0 ∨ code ∈ seen then categories seen rest
    else
      match Labels.label? Labels.contentCategories code with
      | none => categories (code :: seen) rest
      | some label =>
        if label.isEmpty then categories (code :: seen) rest
        else label :: categories (code :: seen) rest

/-- Rating codes of one to fifteen are ages less three; others are the broadcaster's own. -/
def ratings (codes : List Nat) : List Int :=
  codes.filterMap fun (code : Nat) => if 1 ≤ code ∧ code ≤ 15 then some ((code : Int) + 3) else none

def crids (table : CharacterTable) : List CridEntry → Tallied (List Crid)
  | [] => return []
  | ⟨kind, .carried value⟩ :: rest => do
    let text ← Text.normalize table value
    let others ← crids table rest
    let kindLabel := (Labels.label? Labels.cridTypes kind).getD ("0x" ++ Numeral.hexLower 2 kind)
    return ⟨kindLabel, text⟩ :: others
  | _ :: rest => crids table rest

/-- Fills a programme from its descriptors; what it says already comes first. -/
def project (table : CharacterTable) (ds : List Descriptor) (p : Programme) :
    Tallied Programme := do
  let titles ← langTexts table ((shortEvents ds).map fun d => (d.language, d.name))
  let subtitles ← langTexts table ((shortEvents ds).map fun d => (d.language, d.text))
  let assembled ← Assembler.empty.addAll table (extendedEvents ds)
  let crids ← crids table (cridEntries ds)
  let firstAudio := (componentsOf audio ds).head?
  let firstVideo := (componentsOf video ds).head?
  return { p with
    titles := p.titles ++ titles
    subtitles := p.subtitles ++ subtitles
    descriptions := p.descriptions ++ assembled.completed
    categories := p.categories ++ categories [] (contentCodes ds)
    language := p.language.or (firstAudio.map (·.language))
    videoAspect := p.videoAspect.or
      (firstVideo.map fun c => Labels.labelOrNumber Labels.aspectRatios c.aspectCode)
    audioMode := p.audioMode.or
      (firstAudio.map fun c => Labels.labelOrNumber Labels.audioModes c.componentType)
    subtitleLanguages := p.subtitleLanguages ++ (componentsOf teletext ds).map (·.language)
    ratings := p.ratings ++ ratings (ratingCodes ds)
    crids := p.crids ++ crids
    unknownDescriptors := p.unknownDescriptors ++
      (unknowns 0 ds).map fun d => ((d.tag.toNat : Int), (d.size : Int)) }

/-! ### The fields that are normalized on the way -/

/-- The fields that a projection normalizes, in order. -/
def fields (ds : List Descriptor) : List Octets :=
  ((shortEvents ds).map (·.name)).filter (!·.isEmpty) ++
    ((shortEvents ds).map (·.text)).filter (!·.isEmpty) ++
    ((extendedEvents ds).filter Assembler.accepts).flatMap (·.fields) ++
    (cridEntries ds).filterMap fun | ⟨_, .carried value⟩ => some value | _ => none

/-- The descriptors that the pass for titles comes to, which ends at a title that the codec
refuses. -/
def reached (codec : Text.Codec) (ds : List Descriptor) : List Descriptor :=
  ds.takeWhile fun | .shortEvent d => (codec.refusal? d.name).isNone | _ => true

end Projection

/-! ### What is worth a note to the user -/

def DroppedDescriptor.note (d : DroppedDescriptor) : String :=
  "Dropping descriptor 0x" ++ Numeral.hexUpper 2 d.tag.toNat ++ ": " ++ d.error.message

def UnknownDescriptor.note (d : UnknownDescriptor) (serviceId eventId : Int) : String :=
  let owner :=
    if d.specifier = 0 then ""
    else ", private to " ++ (Labels.label? Labels.privateDataSpecifiers d.specifier).getD
      ("0x" ++ Numeral.hexUpper 8 d.specifier)
  "Unknown descriptor 0x" ++ Numeral.hexUpper 2 d.tag.toNat ++ " (" ++ toString d.size ++
    " bytes) in event " ++ toString serviceId ++ "/" ++ toString eventId ++ owner

end BroadcastGuide
