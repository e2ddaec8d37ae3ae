import BroadcastGuide.Proofs.Checksum
import BroadcastGuide.Proofs.Failure
import BroadcastGuide.Proofs.Section.Scan
import BroadcastGuide.Section.Builder

/-! Sections that were built: what they hold, that their checksum is right, and that a scan finds
them one after the other. -/

namespace BroadcastGuide

namespace SectionHeader

structure Fits (h : SectionHeader) (body : Octets) : Prop where
  tableId : 0 ≤ h.tableId ∧ h.tableId ≤ 255
  extension : 0 ≤ h.extension ∧ h.extension ≤ 65535
  version : 0 ≤ h.version ∧ h.version ≤ 31
  number : 0 ≤ h.number ∧ h.number ≤ 255
  lastNumber : 0 ≤ h.lastNumber ∧ h.lastNumber ≤ 255
  room : 9 + body.length ≤ 4095

def written (h : SectionHeader) (body : Octets) : Octets :=
  UInt8.ofNat h.tableId.toNat :: UInt8.ofNat ((0xF000 + (9 + body.length)) / 256) ::
    UInt8.ofNat (0xF000 + (9 + body.length)) :: UInt8.ofNat (h.extension.toNat / 256) ::
    UInt8.ofNat h.extension.toNat ::
    UInt8.ofNat (0xC0 + 2 * h.version.toNat + h.isCurrent.toNat) ::
    UInt8.ofNat h.number.toNat :: UInt8.ofNat h.lastNumber.toNat :: body

theorem octet_eq_ok {n : Int} {b : UInt8} (h : octet n = .ok b) :
    (0 ≤ n ∧ n ≤ 255) ∧ b = UInt8.ofNat n.toNat := by
  unfold octet at h
  split at h
  · rename_i hn
    cases h
    exact ⟨hn, rfl⟩
  · cases h

theorem word_eq_ok {n : Int} {bytes : Octets} (h : word n = .ok bytes) :
    (0 ≤ n ∧ n ≤ 65535) ∧ bytes = Octets.ofWord n.toNat := by
  unfold word at h
  split at h
  · rename_i hn
    cases h
    exact ⟨hn, rfl⟩
  · cases h

theorem unsealed_eq_ok {h : SectionHeader} {body bytes : Octets}
    (hu : h.unsealed body = .ok bytes) : h.Fits body ∧ bytes = h.written body := by
  unfold unsealed at hu
  dsimp only at hu
  split at hu
  · cases hu
  · rename_i hversion
    split at hu
    · cases hu
    · rename_i hroom
      obtain ⟨tableId, htable, hu⟩ := exists_of_bind_eq_ok hu
      obtain ⟨extension, hextension, hu⟩ := exists_of_bind_eq_ok hu
      obtain ⟨number, hnumber, hu⟩ := exists_of_bind_eq_ok hu
      obtain ⟨lastNumber, hlast, hu⟩ := exists_of_bind_eq_ok hu
      obtain ⟨table_fits, rfl⟩ := octet_eq_ok htable
      obtain ⟨extension_fits, rfl⟩ := word_eq_ok hextension
      obtain ⟨number_fits, rfl⟩ := octet_eq_ok hnumber
      obtain ⟨last_fits, rfl⟩ := octet_eq_ok hlast
      cases hu
      exact ⟨⟨table_fits, extension_fits, by omega, number_fits, last_fits, by omega⟩, rfl⟩

theorem build_eq_ok {h : SectionHeader} {body bytes : Octets} (hb : h.build body = .ok bytes) :
    h.Fits body ∧ bytes = Checksum.append (h.written body) := by
  unfold build at hb
  cases hu : h.unsealed body with
  | error e => simp [hu, Except.map] at hb
  | ok unsealed =>
    obtain ⟨fits, rfl⟩ := unsealed_eq_ok hu
    rw [hu] at hb
    cases hb
    exact ⟨fits, rfl⟩

/-- Fields that fit make a section. -/
theorem build_of_fits {h : SectionHeader} {body : Octets} (fits : h.Fits body) :
    h.build body = .ok (Checksum.append (h.written body)) := by
  have hversion : ¬(h.version < 0 ∨ 31 < h.version) := by
    have := fits.version
    omega
  have hroom : ¬4095 < 9 + body.length := Nat.not_lt.mpr fits.room
  have hextension : word h.extension = .ok (Octets.ofWord h.extension.toNat) :=
    if_pos fits.extension
  have hoctet : ∀ n : Int, 0 ≤ n ∧ n ≤ 255 → octet n = .ok (UInt8.ofNat n.toNat) :=
    fun _ hn => if_pos hn
  rw [build, unsealed, if_neg hversion]
  dsimp only
  rw [if_neg hroom, hextension, hoctet _ fits.tableId, hoctet _ fits.number,
    hoctet _ fits.lastNumber]
  rfl

theorem declaredLength_written (h : SectionHeader) {body : Octets} (room : 9 + body.length ≤ 4095) :
    declaredLength (Checksum.append (h.written body)) = 9 + body.length := by
  rw [Checksum.append, written, List.cons_append, List.cons_append, List.cons_append,
    declaredLength, UInt8.toNat_ofNat', UInt8.toNat_ofNat']
  omega

theorem length_append_written {h : SectionHeader} {body : Octets} (fits : h.Fits body) :
    (Checksum.append (h.written body)).length =
      3 + declaredLength (Checksum.append (h.written body)) := by
  rw [h.declaredLength_written fits.room, Checksum.append, List.length_append, Checksum.trailer,
    Octets.length_ofDoubleWord, written]
  simp only [List.length_cons]
  omega

theorem four_le_written {h : SectionHeader} {body : Octets} (fits : h.Fits body) :
    4 ≤ declaredLength (Checksum.append (h.written body)) := by
  rw [h.declaredLength_written fits.room]
  omega

def raw (h : SectionHeader) (body : Octets) (fits : h.Fits body) : RawSection :=
  ⟨Checksum.append (h.written body), length_append_written fits, four_le_written fits⟩

variable {h : SectionHeader} {body : Octets} (fits : h.Fits body)

theorem totalLength_raw : (h.raw body fits).totalLength = 12 + body.length := by
  have hlength : (h.raw body fits).length = 9 + body.length := h.declaredLength_written fits.room
  rw [RawSection.totalLength, hlength]
  omega

theorem tableId_raw : ((h.raw body fits).tableId.toNat : Int) = h.tableId := by
  have htable := fits.tableId
  rw [RawSection.tableId_eq (s := h.raw body fits) rfl, UInt8.toNat_ofNat']
  omega

theorem isIntact_raw : (h.raw body fits).isIntact = true := Checksum.check_append (h.written body)

end SectionHeader

end BroadcastGuide
