import BroadcastGuide.Descriptor.Projection
import BroadcastGuide.Proofs.Text.Plain

/-! Descriptors written as bytes, read back, and shown in a programme. -/

namespace BroadcastGuide

def Octets.sized (field : Octets) : Octets := UInt8.ofNat field.length :: field

namespace Unread

theorem take_append (field : PayloadField) (offset : Nat) (bytes rest : Octets) :
    take ⟨offset, bytes ++ rest⟩ field bytes.length =
      .ok (bytes, ⟨offset + bytes.length, rest⟩) := by
  have henough : ¬(bytes ++ rest).length < bytes.length := by
    rw [List.length_append]
    omega
  rw [take, if_neg henough, List.take_left, List.drop_left]

theorem sized_append (size field : PayloadField) (offset : Nat) {bytes : Octets}
    (h : bytes.length < 256) (rest : Octets) :
    sized ⟨offset, Octets.sized bytes ++ rest⟩ size field =
      .ok (bytes, ⟨offset + 1 + bytes.length, rest⟩) := by
  have hsize : (UInt8.ofNat bytes.length).toNat = bytes.length := by
    rw [UInt8.toNat_ofNat', Nat.mod_eq_of_lt h]
  simp only [sized, byte, Octets.sized, List.cons_append]
  rw [hsize, take_append]

end Unread

namespace DescriptorBlock

variable {blocks : List DescriptorBlock}

theorem walkFrom_cons {b : DescriptorBlock} (h : b.payload.length < 256) (offset size : Nat)
    (rest : Octets) :
    walkFrom offset size (b.encode ++ rest) =
      let tail := walkFrom (offset + b.encode.length) size rest
      ⟨b :: tail.blocks, tail.fault⟩ := by
  have hsize : (UInt8.ofNat b.payload.length).toNat = b.payload.length := by
    rw [UInt8.toNat_ofNat', Nat.mod_eq_of_lt h]
  have henough : ¬(b.payload ++ rest).length < b.payload.length := by
    rw [List.length_append]
    omega
  have hlength : b.encode.length = 2 + b.payload.length := by
    simp only [encode, List.length_cons]
    omega
  rw [hlength, encode, List.cons_append, List.cons_append, walkFrom, hsize, if_neg henough,
    List.take_left, List.drop_left, Nat.add_assoc]

/-- A walk finds the blocks that stand ahead, and goes on behind them. -/
theorem walkFrom_append (h : ∀ b ∈ blocks, b.payload.length < 256) (offset size : Nat)
    (rest : Octets) :
    walkFrom offset size (blocks.flatMap encode ++ rest) =
      let tail := walkFrom (offset + (blocks.flatMap encode).length) size rest
      ⟨blocks ++ tail.blocks, tail.fault⟩ := by
  induction blocks generalizing offset with
  | nil => rfl
  | cons b others ih =>
    rw [List.flatMap_cons, List.append_assoc, walkFrom_cons (h b List.mem_cons_self),
      ih (fun c hc => h c (List.mem_cons_of_mem b hc)), List.length_append]
    simp only [Nat.add_assoc, List.cons_append]

/-- Walking the bytes of blocks finds the blocks. -/
theorem walkFrom_encode (h : ∀ b ∈ blocks, b.payload.length < 256) (offset size : Nat) :
    walkFrom offset size (blocks.flatMap encode) = ⟨blocks, none⟩ := by
  have hwalk := walkFrom_append h offset size []
  rw [List.append_nil, walkFrom] at hwalk
  simpa only [List.append_nil] using hwalk

end DescriptorBlock

namespace ShortEvent

def payload (language name text : Octets) : Octets :=
  language ++ (UInt8.ofNat name.length :: (name ++ (UInt8.ofNat text.length :: text)))

theorem length_payload (language name text : Octets) :
    (payload language name text).length = language.length + name.length + text.length + 2 := by
  simp only [payload, List.length_append, List.length_cons]
  omega

theorem payload_append (language name text rest : Octets) :
    payload language name text ++ rest =
      language ++ (Octets.sized name ++ (Octets.sized text ++ rest)) := by
  simp only [payload, Octets.sized, List.append_assoc, List.cons_append]

theorem ofPayload_payload {language name text : Octets} (hl : language.length = 3)
    (hn : name.length < 256) (ht : text.length < 256) (rest : Octets) :
    ofPayload (payload language name text ++ rest) =
      .ok ⟨Language.ofBytes language, name, text⟩ := by
  have hlanguage := Unread.take_append .shortEventLanguage 0 language
    (Octets.sized name ++ (Octets.sized text ++ rest))
  rw [hl] at hlanguage
  have hname := Unread.sized_append .eventNameLength .eventName (0 + 3) hn
    (Octets.sized text ++ rest)
  have htext := Unread.sized_append .textLength .shortEventText
    (0 + 3 + 1 + name.length) ht rest
  simp only [ofPayload, payload_append, Unread.ofPayload, hlanguage, hname, htext, bind,
    Except.bind, pure, Except.pure]

end ShortEvent

namespace Projection

open Text (IsPlain plainText escape)

theorem langTexts_plain (language : String) {field : Octets} (h : IsPlain field) :
    langTexts .latin [(language, field)] =
      ⟨if field = [] then [] else [⟨language, escape (plainText field)⟩], 0⟩ := by
  by_cases hf : field = []
  · rw [if_pos hf, hf]
    rfl
  · have hempty : field.isEmpty = false := by
      rwa [← Bool.not_eq_true, List.isEmpty_iff]
    have htext := Text.isEmpty_escape_plainText hf
    rw [if_neg hf, langTexts, hempty, if_neg Bool.false_ne_true, Text.normalize_plain h]
    simp only [bind, pure, langTexts, htext]
    rfl

/-- A short event of plain texts gives a title, and a subtitle unless its text is empty. -/
theorem project_shortEvent {d : ShortEvent} (hname : IsPlain d.name) (hne : d.name ≠ [])
    (htext : IsPlain d.text) (p : Programme) :
    project .latin [.shortEvent d] p =
      ⟨{ p with
        titles := p.titles ++ [⟨d.language, escape (plainText d.name)⟩]
        subtitles := p.subtitles ++
          if d.text = [] then [] else [⟨d.language, escape (plainText d.text)⟩] }, 0⟩ := by
  have htitles := langTexts_plain d.language hname
  have hsubtitles := langTexts_plain d.language htext
  rw [if_neg hne] at htitles
  have hshort : shortEvents [.shortEvent d] = [d] := rfl
  simp only [project, hshort, List.map_cons, List.map_nil, htitles, hsubtitles]
  simp [bind, pure, extendedEvents, cridEntries, componentsOf, components, contentCodes,
    ratingCodes, unknowns, Assembler.addAll, Assembler.empty, crids, categories, ratings]
  rfl

end Projection

end BroadcastGuide
