import BroadcastGuide.Proofs.Descriptor.Encoding
import BroadcastGuide.Proofs.Failure
import BroadcastGuide.Proofs.Octets

/-! The entries that fill a payload or a block of it: items, content references, content codes and
ratings. Written one after the other they are read, and nothing else is. -/

namespace BroadcastGuide

/-- A byte is made of its upper and its lower bits, wherever they are parted. -/
theorem ofNat_div_add_mod (b : UInt8) (n : Nat) :
    UInt8.ofNat (b.toNat / n * n + b.toNat % n) = b := by
  rw [Nat.div_add_mod', UInt8.ofNat_toNat]

namespace Unread

theorem take_eq_ok {u rest : Unread} {field : PayloadField} {n : Nat} {bytes : Octets}
    (h : u.take field n = .ok (bytes, rest)) :
    bytes.length = n ∧ u.bytes = bytes ++ rest.bytes := by
  unfold take at h
  split at h
  · cases h
  · rename_i enough
    cases h
    exact ⟨List.length_take_of_le (Nat.le_of_not_lt enough), (List.take_append_drop _ _).symm⟩

theorem sized_eq_ok {u rest : Unread} {size field : PayloadField} {bytes : Octets}
    (h : u.sized size field = .ok (bytes, rest)) :
    bytes.length < 256 ∧ u.bytes = Octets.sized bytes ++ rest.bytes := by
  unfold sized byte at h
  split at h
  · cases h
  · rename_i n after hbyte
    split at hbyte
    · cases hbyte
    · rename_i hu
      cases hbyte
      obtain ⟨hlength, hrest⟩ := take_eq_ok h
      refine ⟨hlength ▸ n.toNat_lt, ?_⟩
      rw [hu, Octets.sized, hlength, UInt8.ofNat_toNat, List.cons_append, ← hrest]

end Unread

namespace EventItem

def encode (item : EventItem) : Octets := Octets.sized item.label ++ Octets.sized item.value

/-- Both parts are short enough for their size bytes. -/
structure Fits (item : EventItem) : Prop where
  label : item.label.length < 256
  value : item.value.length < 256

theorem readAll_of_sized {u afterLabel rest : Unread} {label value : Octets}
    (hlabel : u.sized .itemDescriptionLength .itemDescription = .ok (label, afterLabel))
    (hvalue : afterLabel.sized .itemLength .item = .ok (value, rest)) :
    readAll u = (readAll rest).map (⟨label, value⟩ :: ·) := by
  have some_byte : u.bytes.isEmpty = false := by
    have hu := Unread.sized_eq_ok hlabel
    rw [hu.2]
    rfl
  rw [readAll, some_byte, if_neg Bool.false_ne_true]
  split
  · rename_i h
    rw [hlabel] at h
    cases h
  · rename_i h
    rw [hlabel] at h
    cases h
    split
    · rename_i h
      rw [hvalue] at h
      cases h
    · rename_i h
      rw [hvalue] at h
      cases h
      rfl

/-- Items written one after the other are read. -/
theorem readAll_encode {items : List EventItem} (fits : ∀ i ∈ items, i.Fits) (offset : Nat) :
    readAll ⟨offset, items.flatMap encode⟩ = .ok items := by
  induction items generalizing offset with
  | nil =>
    rw [readAll]
    rfl
  | cons item rest ih =>
    obtain ⟨hlabel, hvalue⟩ := fits item List.mem_cons_self
    rw [List.flatMap_cons, encode, List.append_assoc]
    rw [readAll_of_sized (Unread.sized_append _ _ offset hlabel _)
      (Unread.sized_append _ _ _ hvalue _), ih fun i hi => fits i (List.mem_cons_of_mem item hi)]
    rfl

/-- Nothing but items written one after the other is read. -/
theorem readAll_eq_ok {u : Unread} {items : List EventItem} (h : readAll u = .ok items) :
    (∀ i ∈ items, i.Fits) ∧ u.bytes = items.flatMap encode := by
  fun_induction readAll u generalizing items with
  | case1 u hu =>
    cases h
    exact ⟨fun _ hi => absurd hi List.not_mem_nil, List.isEmpty_iff.mp hu⟩
  | case2 => cases h
  | case3 => cases h
  | case4 u _ label afterLabel hlabel value rest hvalue ih =>
    obtain ⟨others, hothers, rfl⟩ := exists_of_map_eq_ok h
    obtain ⟨hfits, hrest⟩ := ih hothers
    obtain ⟨hlabel, hu⟩ := Unread.sized_eq_ok hlabel
    obtain ⟨hvalue, hafter⟩ := Unread.sized_eq_ok hvalue
    refine ⟨List.forall_mem_cons.mpr ⟨⟨hlabel, hvalue⟩, hfits⟩, ?_⟩
    rw [hu, hafter, hrest, List.flatMap_cons, encode, List.append_assoc]

end EventItem

namespace CridEntry

def encode : CridEntry → Octets
  | ⟨kind, .carried value⟩ => UInt8.ofNat (kind * 4) :: Octets.sized value
  | ⟨kind, .elsewhere location reference⟩ =>
    UInt8.ofNat (kind * 4 + location) :: Octets.ofWord reference

/-- Every part has room in its bits. A location of zero is that of a reference that is carried. -/
def Fits : CridEntry → Prop
  | ⟨kind, .carried value⟩ => kind < 64 ∧ value.length < 256
  | ⟨kind, .elsewhere location reference⟩ =>
    kind < 64 ∧ 0 < location ∧ location < 4 ∧ reference < 65536

section Step

variable {offset : Nat} {b : UInt8} {rest : Octets} {after : Unread}

theorem entries_of_carried {value : Octets} (hb : b.toNat % 4 = 0)
    (h : Unread.sized ⟨offset + 1, rest⟩ .cridLength .crid = .ok (value, after)) :
    entries ⟨offset, b :: rest⟩ =
      (entries after).map (⟨b.toNat / 4, .carried value⟩ :: ·) := by
  rw [entries]
  dsimp only
  rw [if_pos hb]
  split
  · rename_i h'
    rw [h] at h'
    cases h'
  · rename_i h'
    rw [h] at h'
    cases h'
    rfl

theorem entries_of_elsewhere {reference : Octets} (hb : b.toNat % 4 ≠ 0)
    (h : Unread.take ⟨offset + 1, rest⟩ .cridReference 2 = .ok (reference, after)) :
    entries ⟨offset, b :: rest⟩ =
      (entries after).map
        (⟨b.toNat / 4, .elsewhere (b.toNat % 4) (Octets.value reference)⟩ :: ·) := by
  rw [entries]
  dsimp only
  rw [if_neg hb]
  split
  · rename_i h'
    rw [h] at h'
    cases h'
  · rename_i h'
    rw [h] at h'
    cases h'
    rfl

end Step

/-- References written one after the other are read. -/
theorem entries_encode {es : List CridEntry} (fits : ∀ e ∈ es, e.Fits) (offset : Nat) :
    entries ⟨offset, es.flatMap encode⟩ = .ok es := by
  induction es generalizing offset with
  | nil =>
    rw [entries]
    rfl
  | cons e rest ih =>
    obtain ⟨kind, location⟩ := e
    have hothers := ih fun e he => fits e (List.mem_cons_of_mem _ he)
    have he := fits _ List.mem_cons_self
    rw [List.flatMap_cons]
    cases location with
    | carried value =>
      obtain ⟨hkind, hvalue⟩ := he
      have hb : (UInt8.ofNat (kind * 4)).toNat = kind * 4 := by
        rw [UInt8.toNat_ofNat', Nat.mod_eq_of_lt (by omega)]
      have hsized := Unread.sized_append .cridLength .crid (offset + 1) hvalue (rest.flatMap encode)
      rw [encode, List.cons_append, entries_of_carried (by omega) hsized, hothers, hb,
        Nat.mul_div_cancel _ (by decide)]
      rfl
    | elsewhere location reference =>
      obtain ⟨hkind, hpos, hlocation, hreference⟩ := he
      have hb : (UInt8.ofNat (kind * 4 + location)).toNat = kind * 4 + location := by
        rw [UInt8.toNat_ofNat', Nat.mod_eq_of_lt (by omega)]
      have htake := Unread.take_append .cridReference (offset + 1) (Octets.ofWord reference)
        (rest.flatMap encode)
      rw [encode, List.cons_append, entries_of_elsewhere (by omega) htake, hothers, hb,
        Octets.value_ofWord hreference]
      have hdiv : (kind * 4 + location) / 4 = kind := by omega
      have hmod : (kind * 4 + location) % 4 = location := by omega
      rw [hdiv, hmod]
      rfl

/-- Nothing but references written one after the other is read. -/
theorem entries_eq_ok {u : Unread} {es : List CridEntry} (h : entries u = .ok es) :
    (∀ e ∈ es, e.Fits) ∧ u.bytes = es.flatMap encode := by
  fun_induction entries u generalizing es with
  | case1 u hu =>
    cases h
    exact ⟨fun _ he => absurd he List.not_mem_nil, hu⟩
  | case2 => cases h
  | case3 =>
    rename_i b rest hu kind next carried value after hvalue ih
    obtain ⟨others, hothers, rfl⟩ := exists_of_map_eq_ok h
    obtain ⟨hfits, hrest⟩ := ih hothers
    obtain ⟨hlength, hnext⟩ := Unread.sized_eq_ok hvalue
    have hb := b.toNat_lt
    have hbyte : UInt8.ofNat (kind * 4) = b := by
      have h := ofNat_div_add_mod b 4
      rwa [carried, Nat.add_zero] at h
    refine ⟨List.forall_mem_cons.mpr ⟨⟨by omega, hlength⟩, hfits⟩, ?_⟩
    rw [hu, List.flatMap_cons, encode, hbyte, List.cons_append, ← hrest, ← hnext]
  | case4 => cases h
  | case5 =>
    rename_i b rest hu kind next elsewhere reference after hreference ih
    obtain ⟨others, hothers, rfl⟩ := exists_of_map_eq_ok h
    obtain ⟨hfits, hrest⟩ := ih hothers
    obtain ⟨hlength, hnext⟩ := Unread.take_eq_ok hreference
    have hb := b.toNat_lt
    have hvalue := Octets.value_lt_of_pair hlength
    have hbyte : UInt8.ofNat (kind * 4 + b.toNat % 4) = b := ofNat_div_add_mod b 4
    refine ⟨List.forall_mem_cons.mpr
      ⟨⟨by omega, Nat.pos_of_ne_zero elsewhere, by omega, hvalue⟩, hfits⟩, ?_⟩
    rw [hu, List.flatMap_cons, encode, hbyte, Octets.ofWord_value hlength, List.cons_append,
      ← hrest, ← hnext]

end CridEntry

namespace ContentEntry

def encode (e : ContentEntry) : Octets := [UInt8.ofNat e.code, UInt8.ofNat e.userCode]

structure Fits (e : ContentEntry) : Prop where
  code : e.code < 256
  userCode : e.userCode < 256

theorem pairs_encode {es : List ContentEntry} (fits : ∀ e ∈ es, e.Fits) :
    pairs (es.flatMap encode) = es := by
  induction es with
  | nil => rfl
  | cons e rest ih =>
    obtain ⟨hcode, huser⟩ := fits e List.mem_cons_self
    rw [List.flatMap_cons, encode, List.cons_append, List.cons_append, List.nil_append, pairs,
      ih fun e he => fits e (List.mem_cons_of_mem _ he), UInt8.toNat_ofNat', UInt8.toNat_ofNat',
      Nat.mod_eq_of_lt hcode, Nat.mod_eq_of_lt huser]

theorem length_encode (es : List ContentEntry) : (es.flatMap encode).length = es.length * 2 := by
  induction es with
  | nil => rfl
  | cons e rest ih =>
    rw [List.flatMap_cons, List.length_append, ih, List.length_cons, encode]
    simp only [List.length_cons, List.length_nil]
    omega

theorem encode_pairs {payload : Octets} (even : payload.length % 2 = 0) :
    (∀ e ∈ pairs payload, e.Fits) ∧ payload = (pairs payload).flatMap encode := by
  fun_induction pairs payload with
  | case1 code user rest ih =>
    have heven : rest.length % 2 = 0 := by
      simp only [List.length_cons] at even
      omega
    obtain ⟨hfits, hrest⟩ := ih heven
    refine ⟨List.forall_mem_cons.mpr ⟨⟨code.toNat_lt, user.toNat_lt⟩, hfits⟩, ?_⟩
    rw [List.flatMap_cons, ← hrest, encode, UInt8.ofNat_toNat, UInt8.ofNat_toNat]
    rfl
  | case2 payload single =>
    match payload, even with
    | [], _ => exact ⟨fun _ he => absurd he List.not_mem_nil, rfl⟩
    | code :: user :: rest, _ => exact (single code user rest rfl).elim

theorem ofPayload_encode {es : List ContentEntry} (fits : ∀ e ∈ es, e.Fits) :
    ofPayload (es.flatMap encode) = .ok es := by
  rw [ofPayload, length_encode, if_pos (Nat.mul_mod_left _ _), pairs_encode fits]

theorem ofPayload_eq_ok {payload : Octets} {es : List ContentEntry}
    (h : ofPayload payload = .ok es) :
    (∀ e ∈ es, e.Fits) ∧ payload = es.flatMap encode := by
  unfold ofPayload at h
  split at h
  · rename_i even
    cases h
    exact encode_pairs even
  · cases h

end ContentEntry

namespace RatingEntry

def ofRow (row : Octets × UInt8) : RatingEntry := ⟨Language.ofBytes row.1, row.2.toNat⟩

def rowBytes (row : Octets × UInt8) : Octets := row.1 ++ [row.2]

theorem quads_rowBytes {rows : List (Octets × UInt8)} (codes : ∀ row ∈ rows, row.1.length = 3) :
    quads (rows.flatMap rowBytes) = rows.map ofRow := by
  induction rows with
  | nil => rfl
  | cons row rest ih =>
    obtain ⟨country, rating⟩ := row
    have hrest := ih fun row hrow => codes row (List.mem_cons_of_mem _ hrow)
    match country, codes _ List.mem_cons_self with
    | [a, b, c], _ =>
      rw [List.flatMap_cons, rowBytes, List.map_cons, ← hrest]
      rfl

theorem length_rowBytes {rows : List (Octets × UInt8)} (codes : ∀ row ∈ rows, row.1.length = 3) :
    (rows.flatMap rowBytes).length = rows.length * 4 := by
  induction rows with
  | nil => rfl
  | cons row rest ih =>
    have hrow := codes row List.mem_cons_self
    rw [List.flatMap_cons, List.length_append, List.length_cons,
      ih fun row hrow => codes row (List.mem_cons_of_mem _ hrow), rowBytes, List.length_append,
      hrow, List.length_singleton]
    omega

theorem exists_rows {payload : Octets} (whole : payload.length % 4 = 0) :
    ∃ rows : List (Octets × UInt8), (∀ row ∈ rows, row.1.length = 3) ∧
      quads payload = rows.map ofRow ∧ payload = rows.flatMap rowBytes := by
  fun_induction quads payload with
  | case1 a b c rating rest ih =>
    have hwhole : rest.length % 4 = 0 := by
      simp only [List.length_cons] at whole
      omega
    obtain ⟨rows, hcodes, hquads, hrest⟩ := ih hwhole
    refine ⟨([a, b, c], rating) :: rows, List.forall_mem_cons.mpr ⟨rfl, hcodes⟩, ?_, ?_⟩
    · rw [hquads]
      rfl
    · rw [List.flatMap_cons, ← hrest]
      rfl
  | case2 payload short =>
    match payload, whole with
    | [], _ => exact ⟨[], fun _ hrow => absurd hrow List.not_mem_nil, rfl, rfl⟩
    | a :: b :: c :: rating :: rest, _ => exact (short a b c rating rest rfl).elim

theorem ofPayload_rowBytes {rows : List (Octets × UInt8)}
    (codes : ∀ row ∈ rows, row.1.length = 3) :
    ofPayload (rows.flatMap rowBytes) = .ok (rows.map ofRow) := by
  rw [ofPayload, length_rowBytes codes, if_pos (Nat.mul_mod_left _ _), quads_rowBytes codes]

theorem ofPayload_eq_ok {payload : Octets} {es : List RatingEntry}
    (h : ofPayload payload = .ok es) :
    ∃ rows : List (Octets × UInt8), (∀ row ∈ rows, row.1.length = 3) ∧ es = rows.map ofRow ∧
      payload = rows.flatMap rowBytes := by
  unfold ofPayload at h
  split at h
  · rename_i whole
    cases h
    exact exists_rows whole
  · cases h

end RatingEntry

end BroadcastGuide
