import BroadcastGuide.Proofs.Descriptor.Entries

/-! The layouts of descriptor payloads. A payload is read as a descriptor exactly if it is laid out
as the tag demands, and the descriptor says what the layout holds. -/

namespace BroadcastGuide

namespace ShortEvent

theorem ofPayload_eq_ok {payload : Octets} {d : ShortEvent} (h : ofPayload payload = .ok d) :
    ∃ language name text rest : Octets, language.length = 3 ∧ name.length < 256 ∧
      text.length < 256 ∧ d = ⟨Language.ofBytes language, name, text⟩ ∧
      payload = ShortEvent.payload language name text ++ rest := by
  obtain ⟨⟨language, afterLanguage⟩, hlanguage, h⟩ := exists_of_bind_eq_ok h
  obtain ⟨⟨name, afterName⟩, hname, h⟩ := exists_of_bind_eq_ok h
  obtain ⟨⟨text, rest⟩, htext, h⟩ := exists_of_bind_eq_ok h
  cases h
  obtain ⟨hl, hpayload⟩ := Unread.take_eq_ok hlanguage
  obtain ⟨hn, hafterLanguage⟩ := Unread.sized_eq_ok hname
  obtain ⟨ht, hafterName⟩ := Unread.sized_eq_ok htext
  refine ⟨language, name, text, rest.bytes, hl, hn, ht, rfl, ?_⟩
  calc payload = language ++ afterLanguage.bytes := hpayload
    _ = ShortEvent.payload language name text ++ rest.bytes := by
      rw [payload_append, hafterLanguage, hafterName]

end ShortEvent

namespace ExtendedEvent

def payload (number last : Nat) (language : Octets) (items : List EventItem) (text : Octets) :
    Octets :=
  UInt8.ofNat (number * 16 + last) ::
    (language ++ (Octets.sized (items.flatMap EventItem.encode) ++ Octets.sized text))

/-- What a fragment says. It is empty if its numbers are zero and it has neither items nor text. -/
def ofParts (number last : Nat) (language : Octets) (items : List EventItem) (text : Octets) :
    ExtendedEvent where
  number := number
  last := last
  language := Language.ofBytes language
  items := items
  text := text
  isNonEmpty := decide (number ≠ 0 ∨ last ≠ 0 ∨ items ≠ [] ∨ text ≠ [])

def header (number last : Nat) (language : Octets) (items : List EventItem) : Octets :=
  UInt8.ofNat (number * 16 + last) ::
    (language ++ [UInt8.ofNat (items.flatMap EventItem.encode).length])

theorem payload_append (number last : Nat) (language : Octets) (items : List EventItem)
    (text rest : Octets) :
    payload number last language items text ++ rest =
      header number last language items ++
        (items.flatMap EventItem.encode ++ (Octets.sized text ++ rest)) := by
  simp only [payload, header, Octets.sized, List.append_assoc, List.cons_append, List.nil_append]

theorem size_eq_zero {field : Octets} (h : field.length < 256) :
    UInt8.ofNat field.length = 0 ↔ field = [] := by
  rw [← UInt8.toNat_inj, UInt8.toNat_ofNat', Nat.mod_eq_of_lt h, UInt8.toNat_zero,
    List.length_eq_zero_iff]

theorem flatMap_encode_eq_nil {items : List EventItem} :
    items.flatMap EventItem.encode = [] ↔ items = [] := by
  cases items with
  | nil => simp
  | cons item rest => simp [EventItem.encode, Octets.sized]

/-- The bytes that tell whether a fragment is empty do so rightly. -/
theorem isNonEmpty_eq {number last : Nat} {items : List EventItem} {text : Octets} (rest : Octets)
    (hnumber : number < 16) (hlast : last < 16)
    (hitems : (items.flatMap EventItem.encode).length < 256) (htext : text.length < 256) :
    ((UInt8.ofNat (number * 16 + last)).toNat != 0 ||
        (UInt8.ofNat (items.flatMap EventItem.encode).length).toNat != 0 ||
        (items.flatMap EventItem.encode ++ (Octets.sized text ++ rest)).headD 0 != 0) =
      decide (number ≠ 0 ∨ last ≠ 0 ∨ items ≠ [] ∨ text ≠ []) := by
  have hnumbers : (UInt8.ofNat (number * 16 + last)).toNat = number * 16 + last := by
    rw [UInt8.toNat_ofNat', Nat.mod_eq_of_lt (by omega)]
  have hsize : (UInt8.ofNat (items.flatMap EventItem.encode).length).toNat ≠ 0 ↔ items ≠ [] := by
    rw [ne_eq, ← UInt8.toNat_zero, UInt8.toNat_inj, size_eq_zero hitems, flatMap_encode_eq_nil]
  rw [Bool.eq_iff_iff, Bool.or_eq_true, Bool.or_eq_true, bne_iff_ne, bne_iff_ne, bne_iff_ne, hsize,
    decide_eq_true_iff, hnumbers]
  by_cases hnil : items = []
  · -- without items the first byte behind the header is the size of the text
    have hfirst : (items.flatMap EventItem.encode ++ (Octets.sized text ++ rest)).headD 0 =
        UInt8.ofNat text.length := by
      rw [hnil]
      rfl
    have hzero : number * 16 + last ≠ 0 ↔ number ≠ 0 ∨ last ≠ 0 := by omega
    rw [hfirst, ne_eq (UInt8.ofNat text.length), size_eq_zero htext, hzero]
    simp only [hnil, ne_eq, not_true_eq_false, or_false, false_or, or_assoc]
  · simp only [hnil, ne_eq, not_false_eq_true, or_true, true_or]

/-- A fragment is read if its header, the block of its items and its text are read one after the
other. -/
theorem ofPayload_of_reads {bytes head block text : Octets} {afterHead afterBlock rest : Unread}
    {items : List EventItem}
    (hhead : (Unread.ofPayload bytes).take .extendedEventHeader 5 = .ok (head, afterHead))
    (hblock : afterHead.take .extendedEventItems (head.getD 4 0).toNat = .ok (block, afterBlock))
    (hitems : EventItem.readAll (Unread.ofPayload block) = .ok items)
    (htext : afterBlock.sized .extendedEventTextLength .extendedEventText = .ok (text, rest)) :
    ofPayload bytes = .ok
      { number := (head.headD 0).toNat / 16
        last := (head.headD 0).toNat % 16
        language := Language.ofBytes ((head.drop 1).take 3)
        items := items
        text := text
        isNonEmpty := (head.headD 0).toNat != 0 || (head.getD 4 0).toNat != 0 ||
          afterHead.bytes.headD 0 != 0 } := by
  rw [ofPayload, hhead]
  simp only [bind, Except.bind]
  rw [hblock]
  dsimp only
  rw [hitems]
  dsimp only
  rw [htext]
  rfl

theorem ofPayload_payload {number last : Nat} {language : Octets} {items : List EventItem}
    {text : Octets} (hnumber : number < 16) (hlast : last < 16) (hl : language.length = 3)
    (fits : ∀ i ∈ items, i.Fits) (hitems : (items.flatMap EventItem.encode).length < 256)
    (htext : text.length < 256) (rest : Octets) :
    ofPayload (payload number last language items text ++ rest) =
      .ok (ofParts number last language items text) := by
  match language, hl with
  | [a, b, c], _ =>
    have hhead := Unread.take_append .extendedEventHeader 0 (header number last [a, b, c] items)
      (items.flatMap EventItem.encode ++ (Octets.sized text ++ rest))
    have hblock := Unread.take_append .extendedEventItems 5 (items.flatMap EventItem.encode)
      (Octets.sized text ++ rest)
    have hsize : (UInt8.ofNat (items.flatMap EventItem.encode).length).toNat =
        (items.flatMap EventItem.encode).length := UInt8.toNat_ofNat_of_lt' hitems
    rw [← hsize] at hblock
    have hnumbers : (UInt8.ofNat (number * 16 + last)).toNat = number * 16 + last := by
      rw [UInt8.toNat_ofNat', Nat.mod_eq_of_lt (by omega)]
    have hdiv : (number * 16 + last) / 16 = number := by omega
    have hmod : (number * 16 + last) % 16 = last := by omega
    have hnon := isNonEmpty_eq rest hnumber hlast hitems htext
    rw [hnumbers] at hnon
    rw [payload_append, ofPayload_of_reads hhead hblock (EventItem.readAll_encode fits 0)
      (Unread.sized_append _ _ _ htext rest)]
    simp only [header, List.headD_cons, List.cons_append, List.nil_append, List.getD_cons_succ,
      List.getD_cons_zero, hnumbers, hdiv, hmod, hnon]
    rfl

theorem ofPayload_eq_ok {bytes : Octets} {d : ExtendedEvent} (h : ofPayload bytes = .ok d) :
    ∃ (number last : Nat) (language : Octets) (items : List EventItem) (text rest : Octets),
      number < 16 ∧ last < 16 ∧ language.length = 3 ∧ (∀ i ∈ items, i.Fits) ∧
        (items.flatMap EventItem.encode).length < 256 ∧ text.length < 256 ∧
        d = ofParts number last language items text ∧
        bytes = payload number last language items text ++ rest := by
  obtain ⟨⟨head, afterHead⟩, hhead, h⟩ := exists_of_bind_eq_ok h
  obtain ⟨⟨block, afterBlock⟩, hblock, h⟩ := exists_of_bind_eq_ok h
  obtain ⟨items, hitems, h⟩ := exists_of_bind_eq_ok h
  obtain ⟨⟨text, rest⟩, htext, h⟩ := exists_of_bind_eq_ok h
  obtain ⟨hlength, hbytes⟩ := Unread.take_eq_ok hhead
  obtain ⟨hsize, hafterHead⟩ := Unread.take_eq_ok hblock
  obtain ⟨hfits, hitems⟩ := EventItem.readAll_eq_ok hitems
  obtain ⟨ht, hafterBlock⟩ := Unread.sized_eq_ok htext
  match head, hlength with
  | [numbers, a, b, c, size], _ =>
    change block.length = size.toNat at hsize
    change block = items.flatMap EventItem.encode at hitems
    subst hitems
    have hlt := numbers.toNat_lt
    have hroom : (items.flatMap EventItem.encode).length < 256 := hsize ▸ size.toNat_lt
    have hsize' : UInt8.ofNat (items.flatMap EventItem.encode).length = size := by
      rw [hsize, UInt8.ofNat_toNat]
    have hnumbers := ofNat_div_add_mod numbers 16
    have hnumber : numbers.toNat / 16 < 16 := by omega
    have hlast : numbers.toNat % 16 < 16 := Nat.mod_lt _ (by decide)
    have hnon := isNonEmpty_eq rest.bytes hnumber hlast hroom ht
    rw [hnumbers, hsize', ← hafterBlock, ← hafterHead] at hnon
    refine ⟨numbers.toNat / 16, numbers.toNat % 16, [a, b, c], items, text, rest.bytes, hnumber,
      hlast, rfl, hfits, hroom, ht, ?_, ?_⟩
    · cases h
      rw [ofParts, ← hnon]
      rfl
    · rw [payload_append, header, hnumbers, hsize', ← hafterBlock, ← hafterHead]
      exact hbytes

end ExtendedEvent

namespace Component

def payload (reserved content : Nat) (kind label : UInt8) (language text : Octets) : Octets :=
  UInt8.ofNat (reserved * 16 + content) :: kind :: label :: (language ++ text)

theorem ofPayload_payload (reserved : Nat) {content : Nat} (hcontent : content < 16)
    (kind label : UInt8) {language : Octets} (hl : language.length = 3) (text : Octets) :
    ofPayload (payload reserved content kind label language text) =
      .ok ⟨content, kind.toNat, label.toNat, Language.ofBytes language, text⟩ := by
  match language, hl with
  | [a, b, c], _ =>
    have hhead : Unread.take
        ⟨0, [UInt8.ofNat (reserved * 16 + content), kind, label, a, b, c] ++ text⟩
          .componentHeader 6 =
        .ok ([UInt8.ofNat (reserved * 16 + content), kind, label, a, b, c], ⟨6, text⟩) :=
      Unread.take_append _ _ _ _
    have hflags : (UInt8.ofNat (reserved * 16 + content)).toNat % 16 = content := by
      rw [UInt8.toNat_ofNat']
      omega
    rw [ofPayload, payload, Unread.ofPayload]
    simp only [List.cons_append, List.nil_append] at hhead ⊢
    rw [hhead]
    simp only [bind, Except.bind, List.headD_cons, hflags]
    rfl

theorem ofPayload_eq_ok {bytes : Octets} {d : Component} (h : ofPayload bytes = .ok d) :
    ∃ (reserved content : Nat) (kind label : UInt8) (language text : Octets), reserved < 16 ∧
      content < 16 ∧ language.length = 3 ∧
      d = ⟨content, kind.toNat, label.toNat, Language.ofBytes language, text⟩ ∧
      bytes = payload reserved content kind label language text := by
  obtain ⟨⟨head, u⟩, hhead, h⟩ := exists_of_bind_eq_ok h
  obtain ⟨hlength, hbytes⟩ := Unread.take_eq_ok hhead
  match head, hlength with
  | [flags, kind, label, a, b, c], _ =>
    cases h
    have hlt := flags.toNat_lt
    have hflags := ofNat_div_add_mod flags 16
    refine ⟨flags.toNat / 16, flags.toNat % 16, kind, label, [a, b, c], u.bytes, by omega, by omega,
      rfl, rfl, ?_⟩
    rw [payload, hflags]
    exact hbytes

end Component

namespace Descriptor

theorem specifierOfPayload_ofDoubleWord {value : Nat} (h : value < 4294967296) (rest : Octets) :
    specifierOfPayload (Octets.ofDoubleWord value ++ rest) = .ok value := by
  have htake : Unread.take ⟨0, Octets.ofDoubleWord value ++ rest⟩ .privateDataSpecifier 4 =
      .ok (Octets.ofDoubleWord value, ⟨4, rest⟩) := Unread.take_append _ _ _ _
  rw [specifierOfPayload, Unread.ofPayload, htake]
  simp only [bind, Except.bind, Octets.value_ofDoubleWord h]
  rfl

theorem specifierOfPayload_eq_ok {payload : Octets} {value : Nat}
    (h : specifierOfPayload payload = .ok value) :
    ∃ rest, value < 4294967296 ∧ payload = Octets.ofDoubleWord value ++ rest := by
  obtain ⟨⟨bytes, rest⟩, htake, h⟩ := exists_of_bind_eq_ok h
  obtain ⟨hlength, hpayload⟩ := Unread.take_eq_ok htake
  cases h
  refine ⟨rest.bytes, Octets.value_lt_of_quad hlength, ?_⟩
  rw [Octets.ofDoubleWord_value hlength]
  exact hpayload

/-- The tags whose payloads have a layout of their own. -/
def typedTags : List UInt8 :=
  [shortEventTag, extendedEventTag, componentTag, contentTag, parentalRatingTag,
    privateDataSpecifierTag, contentIdentifierTag]

/-- What the payload of each descriptor looks like. Sizes stand in one byte ahead of what they
count. Bytes behind a short event, a fragment or a specifier say nothing, nor do the four bits ahead
of a component. -/
inductive Layout : Descriptor → Octets → Prop
  | shortEvent {language name text : Octets} (code : language.length = 3)
      (nameRoom : name.length < 256) (textRoom : text.length < 256) (rest : Octets) :
      Layout (.shortEvent ⟨Language.ofBytes language, name, text⟩)
        (ShortEvent.payload language name text ++ rest)
  | extendedEvent {number last : Nat} {language : Octets} {items : List EventItem} {text : Octets}
      (numberRoom : number < 16) (lastRoom : last < 16) (code : language.length = 3)
      (fits : ∀ i ∈ items, i.Fits) (itemsRoom : (items.flatMap EventItem.encode).length < 256)
      (textRoom : text.length < 256) (rest : Octets) :
      Layout (.extendedEvent (ExtendedEvent.ofParts number last language items text))
        (ExtendedEvent.payload number last language items text ++ rest)
  | component {reserved content : Nat} (reservedRoom : reserved < 16) (contentRoom : content < 16)
      (kind label : UInt8) {language : Octets} (code : language.length = 3) (text : Octets) :
      Layout (.component ⟨content, kind.toNat, label.toNat, Language.ofBytes language, text⟩)
        (Component.payload reserved content kind label language text)
  | content {es : List ContentEntry} (fits : ∀ e ∈ es, e.Fits) :
      Layout (.content es) (es.flatMap ContentEntry.encode)
  | parentalRating {rows : List (Octets × UInt8)} (codes : ∀ row ∈ rows, row.1.length = 3) :
      Layout (.parentalRating (rows.map RatingEntry.ofRow)) (rows.flatMap RatingEntry.rowBytes)
  | privateDataSpecifier {value : Nat} (room : value < 4294967296) (rest : Octets) :
      Layout (.privateDataSpecifier value) (Octets.ofDoubleWord value ++ rest)
  | contentIdentifier {es : List CridEntry} (fits : ∀ e ∈ es, e.Fits) :
      Layout (.contentIdentifier es) (es.flatMap CridEntry.encode)
  | other {tag : UInt8} (untyped : tag ∉ typedTags) (payload : Octets) :
      Layout (.other tag payload) payload

section ByTag

variable (payload : Octets)

theorem ofPayload_shortEventTag :
    ofPayload shortEventTag payload = (ShortEvent.ofPayload payload).map shortEvent := rfl

theorem ofPayload_extendedEventTag :
    ofPayload extendedEventTag payload = (ExtendedEvent.ofPayload payload).map extendedEvent := rfl

theorem ofPayload_componentTag :
    ofPayload componentTag payload = (Component.ofPayload payload).map component := rfl

theorem ofPayload_contentTag :
    ofPayload contentTag payload = (ContentEntry.ofPayload payload).map content := rfl

theorem ofPayload_parentalRatingTag :
    ofPayload parentalRatingTag payload =
      (RatingEntry.ofPayload payload).map parentalRating := rfl

theorem ofPayload_privateDataSpecifierTag :
    ofPayload privateDataSpecifierTag payload =
      (specifierOfPayload payload).map privateDataSpecifier := rfl

theorem ofPayload_contentIdentifierTag :
    ofPayload contentIdentifierTag payload =
      (CridEntry.ofPayload payload).map contentIdentifier := rfl

theorem ofPayload_of_untyped {tag : UInt8} (h : tag ∉ typedTags) :
    ofPayload tag payload = .ok (other tag payload) := by
  simp only [typedTags, List.mem_cons, List.not_mem_nil, or_false, not_or] at h
  simp only [ofPayload, h, if_false]

end ByTag

/-- A payload that is laid out as its descriptor demands is read as that descriptor. -/
theorem ofPayload_of_layout {d : Descriptor} {payload : Octets} (h : d.Layout payload) :
    ofPayload d.tag payload = .ok d := by
  cases h with
  | shortEvent code nameRoom textRoom rest =>
    rw [tag, ofPayload_shortEventTag, ShortEvent.ofPayload_payload code nameRoom textRoom]
    rfl
  | extendedEvent numberRoom lastRoom code fits itemsRoom textRoom rest =>
    rw [tag, ofPayload_extendedEventTag,
      ExtendedEvent.ofPayload_payload numberRoom lastRoom code fits itemsRoom textRoom]
    rfl
  | component _ contentRoom kind label code text =>
    rw [tag, ofPayload_componentTag, Component.ofPayload_payload _ contentRoom kind label code]
    rfl
  | content fits =>
    rw [tag, ofPayload_contentTag, ContentEntry.ofPayload_encode fits]
    rfl
  | parentalRating codes =>
    rw [tag, ofPayload_parentalRatingTag, RatingEntry.ofPayload_rowBytes codes]
    rfl
  | privateDataSpecifier room rest =>
    rw [tag, ofPayload_privateDataSpecifierTag, specifierOfPayload_ofDoubleWord room]
    rfl
  | contentIdentifier fits =>
    rw [tag, ofPayload_contentIdentifierTag, CridEntry.ofPayload, Unread.ofPayload,
      CridEntry.entries_encode fits]
    rfl
  | other untyped payload => exact ofPayload_of_untyped payload untyped

/-- Whatever is read as a descriptor is laid out as that descriptor demands. -/
theorem layout_of_ofPayload {tag : UInt8} {payload : Octets} {d : Descriptor}
    (h : ofPayload tag payload = .ok d) : d.tag = tag ∧ d.Layout payload := by
  by_cases typed : tag ∈ typedTags
  · simp only [typedTags, List.mem_cons, List.not_mem_nil, or_false] at typed
    rcases typed with rfl | rfl | rfl | rfl | rfl | rfl | rfl
    · obtain ⟨a, ha, rfl⟩ := exists_of_map_eq_ok h
      obtain ⟨language, name, text, rest, code, hname, htext, rfl, rfl⟩ :=
        ShortEvent.ofPayload_eq_ok ha
      exact ⟨rfl, .shortEvent code hname htext rest⟩
    · obtain ⟨a, ha, rfl⟩ := exists_of_map_eq_ok h
      obtain ⟨number, last, language, items, text, rest, hnumber, hlast, code, fits, hitems, htext,
        rfl, rfl⟩ := ExtendedEvent.ofPayload_eq_ok ha
      exact ⟨rfl, .extendedEvent hnumber hlast code fits hitems htext rest⟩
    · obtain ⟨a, ha, rfl⟩ := exists_of_map_eq_ok h
      obtain ⟨reserved, content, kind, label, language, text, hreserved, hcontent, code, rfl,
        rfl⟩ := Component.ofPayload_eq_ok ha
      exact ⟨rfl, .component hreserved hcontent kind label code text⟩
    · obtain ⟨es, hes, rfl⟩ := exists_of_map_eq_ok h
      obtain ⟨fits, rfl⟩ := ContentEntry.ofPayload_eq_ok hes
      exact ⟨rfl, .content fits⟩
    · obtain ⟨es, hes, rfl⟩ := exists_of_map_eq_ok h
      obtain ⟨rows, codes, rfl, rfl⟩ := RatingEntry.ofPayload_eq_ok hes
      exact ⟨rfl, .parentalRating codes⟩
    · obtain ⟨value, hvalue, rfl⟩ := exists_of_map_eq_ok h
      obtain ⟨rest, room, rfl⟩ := specifierOfPayload_eq_ok hvalue
      exact ⟨rfl, .privateDataSpecifier room rest⟩
    · obtain ⟨es, hes, rfl⟩ := exists_of_map_eq_ok h
      obtain ⟨fits, hbytes⟩ := CridEntry.entries_eq_ok hes
      rw [show payload = es.flatMap CridEntry.encode from hbytes]
      exact ⟨rfl, .contentIdentifier fits⟩
  · rw [ofPayload_of_untyped payload typed] at h
    cases h
    exact ⟨rfl, .other typed payload⟩

theorem ofPayload_eq_ok_iff {tag : UInt8} {payload : Octets} {d : Descriptor} :
    ofPayload tag payload = .ok d ↔ d.tag = tag ∧ d.Layout payload := by
  constructor
  · exact layout_of_ofPayload
  · rintro ⟨rfl, layout⟩
    exact ofPayload_of_layout layout

/-! ### Which payloads are accepted -/

theorem exists_extendedEvent_iff {payload : Octets} :
    (∃ d, ofPayload extendedEventTag payload = .ok d) ↔
      ∃ (head : Octets) (items : List EventItem) (text rest : Octets), head.length = 4 ∧
        (∀ i ∈ items, i.Fits) ∧ (items.flatMap EventItem.encode).length < 256 ∧
        text.length < 256 ∧ payload = head ++
          (Octets.sized (items.flatMap EventItem.encode) ++ (Octets.sized text ++ rest)) := by
  rw [ofPayload_extendedEventTag, exists_map_eq_ok_iff]
  constructor
  · rintro ⟨d, hd⟩
    obtain ⟨number, last, language, items, text, rest, -, -, code, fits, hitems, htext, -, rfl⟩ :=
      ExtendedEvent.ofPayload_eq_ok hd
    refine ⟨UInt8.ofNat (number * 16 + last) :: language, items, text, rest, ?_, fits, hitems,
      htext, ?_⟩
    · rw [List.length_cons, code]
    · simp only [ExtendedEvent.payload, List.cons_append, List.append_assoc]
  · rintro ⟨head, items, text, rest, four, fits, hitems, htext, rfl⟩
    match head, four with
    | [numbers, a, b, c], _ =>
      have hlt := numbers.toNat_lt
      have hnumbers := ofNat_div_add_mod numbers 16
      have hread := ExtendedEvent.ofPayload_payload (show numbers.toNat / 16 < 16 by omega)
        (Nat.mod_lt numbers.toNat (by decide)) (show [a, b, c].length = 3 from rfl) fits hitems
        htext rest
      rw [ExtendedEvent.payload, hnumbers, List.cons_append, List.append_assoc,
        List.append_assoc] at hread
      exact ⟨_, hread⟩

theorem exists_contentIdentifier_iff {payload : Octets} :
    (∃ d, ofPayload contentIdentifierTag payload = .ok d) ↔
      ∃ es : List CridEntry, (∀ e ∈ es, e.Fits) ∧ payload = es.flatMap CridEntry.encode := by
  rw [ofPayload_contentIdentifierTag, exists_map_eq_ok_iff]
  constructor
  · rintro ⟨es, hes⟩
    exact ⟨es, CridEntry.entries_eq_ok hes⟩
  · rintro ⟨es, fits, rfl⟩
    exact ⟨es, CridEntry.entries_encode fits 0⟩

theorem exists_content_iff {payload : Octets} :
    (∃ d, ofPayload contentTag payload = .ok d) ↔ payload.length % 2 = 0 := by
  rw [ofPayload_contentTag, exists_map_eq_ok_iff, ContentEntry.ofPayload]
  split
  · rename_i even
    simp [even]
  · rename_i odd
    simp [odd]

theorem exists_parentalRating_iff {payload : Octets} :
    (∃ d, ofPayload parentalRatingTag payload = .ok d) ↔ payload.length % 4 = 0 := by
  rw [ofPayload_parentalRatingTag, exists_map_eq_ok_iff, RatingEntry.ofPayload]
  split
  · rename_i whole
    simp [whole]
  · rename_i short
    simp [short]

/-- A payload is read as a descriptor if and only if it is laid out as that descriptor demands, and
refused if it is laid out as none of its tag. So a fragment of a description is accepted if its
items fill their block and a text follows, references if they fill the payload, content codes if
they come in pairs and ratings if they come in fours. -/
theorem ofPayload_layout (tag : UInt8) (payload : Octets) :
    (∀ d, ofPayload tag payload = .ok d ↔ d.tag = tag ∧ d.Layout payload) ∧
      ((∃ e, ofPayload tag payload = .error e) ↔
        ∀ d : Descriptor, d.tag = tag → ¬d.Layout payload) ∧
      ((∃ d, ofPayload extendedEventTag payload = .ok d) ↔
        ∃ (head : Octets) (items : List EventItem) (text rest : Octets), head.length = 4 ∧
          (∀ i ∈ items, i.Fits) ∧ (items.flatMap EventItem.encode).length < 256 ∧
          text.length < 256 ∧ payload = head ++
            (Octets.sized (items.flatMap EventItem.encode) ++ (Octets.sized text ++ rest))) ∧
      ((∃ d, ofPayload contentIdentifierTag payload = .ok d) ↔
        ∃ es : List CridEntry, (∀ e ∈ es, e.Fits) ∧ payload = es.flatMap CridEntry.encode) ∧
      ((∃ d, ofPayload contentTag payload = .ok d) ↔ payload.length % 2 = 0) ∧
      ((∃ d, ofPayload parentalRatingTag payload = .ok d) ↔ payload.length % 4 = 0) := by
  refine ⟨fun d => ofPayload_eq_ok_iff, ?_, exists_extendedEvent_iff, exists_contentIdentifier_iff,
    exists_content_iff, exists_parentalRating_iff⟩
  rw [exists_error_iff]
  refine forall_congr' fun d => ?_
  rw [ne_eq, ofPayload_eq_ok_iff, not_and]

end Descriptor

end BroadcastGuide
