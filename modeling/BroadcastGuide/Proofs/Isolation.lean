import BroadcastGuide.Proofs.Counting
import BroadcastGuide.Proofs.Decoder
import BroadcastGuide.Proofs.EventSection
import BroadcastGuide.Proofs.Grabber.RoundTrip

/-! Two sections that differ in one record. The other records give the same programmes, and the same
versions are known afterwards. -/

namespace BroadcastGuide

open Calendar (Instant)

namespace Decoder

variable {settings : Settings} {now : Instant} {info : EventSection}

def outcomes (settings : Settings) (now : Instant) (info : EventSection) (state : DecoderState) :
    List EventRecord → List (Option Programme)
  | [] => []
  | r :: rest =>
    let first := record settings now info state r
    first.result.toOption.join :: outcomes settings now info first.state rest

def received (settings : Settings) (info : EventSection) (v : Versions)
    (records : List EventRecord) : Versions :=
  records.foldl (fun v r => (v.receive settings.versionPolicy (keyOf info r) info.version).2) v

theorem decode_of_events {state : DecoderState} {rs : List EventRecord}
    (h : info.events = ⟨rs, none⟩) :
    decode settings now state info = records settings now info state rs := by
  rw [decode, h]
  generalize records settings now info state rs = decoded
  obtain ⟨after, result⟩ := decoded
  cases result <;> rfl

theorem records_eq_ok {state : DecoderState} {rs : List EventRecord} {ps : List Programme}
    (h : (records settings now info state rs).result = .ok ps) :
    ps = (outcomes settings now info state rs).filterMap id ∧
      (records settings now info state rs).state.versions =
        received settings info state.versions rs := by
  induction rs generalizing state ps with
  | nil =>
    cases h
    exact ⟨rfl, rfl⟩
  | cons r rest ih =>
    rcases records_cases settings now info state r rest with
      ⟨e, -, hall⟩ | ⟨p?, hfirst, hstate, hresult⟩
    · rw [hall] at h
      cases h
    · obtain ⟨later, hlater, rfl⟩ := (hresult ps).mp h
      obtain ⟨hothers, hversions⟩ := ih hlater
      rw [versions_record] at hversions
      refine ⟨?_, by rw [hstate, hversions]; rfl⟩
      rw [outcomes, hfirst, hothers]
      cases p? <;> rfl

/-! ### Only the versions matter -/

theorem result_record_congr {s t : DecoderState} (h : s.versions = t.versions) (r : EventRecord) :
    (record settings now info s r).result = (record settings now info t r).result := by
  rw [s.eq_plus, t.eq_plus, record_plus, record_plus, h]
  rfl

theorem outcomes_congr {s t : DecoderState} (h : s.versions = t.versions)
    (rs : List EventRecord) :
    outcomes settings now info s rs = outcomes settings now info t rs := by
  induction rs generalizing s t with
  | nil => rfl
  | cons r rest ih =>
    rw [outcomes, outcomes, result_record_congr h, ih]
    rw [versions_record, versions_record, h]

theorem outcomes_eventData (state : DecoderState) (rs : List EventRecord) (eventData : Octets) :
    outcomes settings now { info with eventData := eventData } state rs =
      outcomes settings now info state rs := by
  induction rs generalizing state with
  | nil => rfl
  | cons r rest ih =>
    rw [outcomes, outcomes, ih]
    rfl

/-- Whatever a record holds, its event alone decides what becomes of the others. -/
theorem exists_outcomes {r r' : EventRecord} (settings : Settings) (now : Instant)
    (info : EventSection) (same : r.eventId = r'.eventId) (state : DecoderState)
    (before rest : List EventRecord) : ∃ earlier later x x',
      outcomes settings now info state (before ++ r :: rest) = earlier ++ x :: later ∧
        outcomes settings now info state (before ++ r' :: rest) = earlier ++ x' :: later ∧
          earlier.length = before.length := by
  induction before generalizing state with
  | nil =>
    -- all that the later records see of this one is the version received
    have hversions : (record settings now info state r').state.versions =
        (record settings now info state r).state.versions := by
      rw [versions_record, versions_record, keyOf, keyOf, same]
    refine ⟨[], outcomes settings now info (record settings now info state r).state rest,
      (record settings now info state r).result.toOption.join,
      (record settings now info state r').result.toOption.join, rfl, ?_, rfl⟩
    rw [List.nil_append, List.nil_append, outcomes, outcomes_congr hversions]
  | cons q others ih =>
    obtain ⟨earlier, later, x, x', hx, hx', hlength⟩ :=
      ih (record settings now info state q).state
    refine ⟨(record settings now info state q).result.toOption.join :: earlier, later, x, x',
      ?_, ?_, congrArg (· + 1) hlength⟩
    · rw [List.cons_append, outcomes, hx, List.cons_append]
    · rw [List.cons_append, outcomes, hx', List.cons_append]

theorem received_append {r r' : EventRecord} (same : r.eventId = r'.eventId) (v : Versions)
    (before rest : List EventRecord) :
    received settings info v (before ++ r :: rest) =
      received settings info v (before ++ r' :: rest) := by
  rw [received, received, List.foldl_append, List.foldl_append, List.foldl_cons, List.foldl_cons,
    keyOf, keyOf, same]

end Decoder

/-- Sections of events that are the same but for one record and the checksum. Both records are of
one event, and their descriptors have one size. -/
structure OneRecordApart (before : List EventRecord) (r r' : EventRecord) (s s' : RawSection) :
    Prop where
  carries : Table.isEventInformation s.tableId.toNat = true
  bytes : ∃ header after checksum checksum' : Octets, header.length = 14 ∧
    checksum.length = 4 ∧ checksum'.length = 4 ∧
      s.bytes = header ++ (before.flatMap EventRecord.encode ++ (r.encode ++ after)) ++ checksum ∧
        s'.bytes =
          header ++ (before.flatMap EventRecord.encode ++ (r'.encode ++ after)) ++ checksum'
  fits : ∀ q ∈ r :: r' :: before, q.Fits
  sameEvent : r.eventId = r'.eventId
  sameSize : r.descriptors.length = r'.descriptors.length

namespace OneRecordApart

variable {before : List EventRecord} {r r' : EventRecord} {s s' : RawSection}

theorem exists_walk (apart : OneRecordApart before r r' s s') :
    ∃ (info : EventSection) (data data' : Octets) (tail : EventRecord.Walk),
      EventSection.ofRaw s = .ok { info with eventData := data } ∧
        EventSection.ofRaw s' = .ok { info with eventData := data' } ∧
        EventRecord.walkFrom 0 data = ⟨before ++ r :: tail.records, tail.fault⟩ ∧
        EventRecord.walkFrom 0 data' = ⟨before ++ r' :: tail.records, tail.fault⟩ := by
  obtain ⟨header, after, checksum, checksum', size, hsum, hsum', hs, hs'⟩ := apart.bytes
  have hr := apart.fits r List.mem_cons_self
  have hr' := apart.fits r' (List.mem_cons_of_mem _ List.mem_cons_self)
  have hbefore : ∀ q ∈ before, q.Fits := fun q hq =>
    apart.fits q (List.mem_cons_of_mem _ (List.mem_cons_of_mem _ hq))
  have hhead : header.headD 0 = s.tableId := by
    match header, size with
    | table :: _, _ => exact (RawSection.tableId_eq hs).symm
  obtain ⟨info, hinfo⟩ := EventSection.exists_ofRaw size (hhead ▸ apart.carries)
  let offset := 0 + (before.flatMap EventRecord.encode).length + 12 + r'.descriptors.length
  refine ⟨info, before.flatMap EventRecord.encode ++ (r.encode ++ after),
    before.flatMap EventRecord.encode ++ (r'.encode ++ after), EventRecord.walkFrom offset after,
    hinfo s _ checksum hsum hs, hinfo s' _ checksum' hsum' hs', ?_, ?_⟩
  · rw [EventRecord.walkFrom_append hbefore, EventRecord.walkFrom_cons hr, apart.sameSize]
  · rw [EventRecord.walkFrom_append hbefore, EventRecord.walkFrom_cons hr']

end OneRecordApart

/-- A record does not bear on the others of its section. Sections that differ in one record are both
decoded, if the calendar has the windows around now and the codec of the default encoding refuses
nothing. If both are decoded, then the other records have the same outcomes in the same order, and
the same versions are known afterwards. -/
theorem decode_oneRecordApart (settings : Settings) (now : Int) (state : DecoderState)
    {before : List EventRecord} {r r' : EventRecord} {s s' : RawSection}
    (apart : OneRecordApart before r r' s s') :
    ∃ (info info' : EventSection) (rest : List EventRecord),
      EventSection.ofRaw s = .ok info ∧ EventSection.ofRaw s' = .ok info' ∧
      info.events.records = before ++ r :: rest ∧ info'.events.records = before ++ r' :: rest ∧
      let decoded := Decoder.decode settings now state info
      let decoded' := Decoder.decode settings now state info'
      (∀ (registry : Text.Registry) (options : Options), options.check registry = .ok settings →
        settings.codec.IsTotal → settings.WindowInCalendar now →
        ∃ ps ps', decoded.result = .ok ps ∧ decoded'.result = .ok ps') ∧
      ∀ ps ps', decoded.result = .ok ps → decoded'.result = .ok ps' →
        decoded.state.versions = decoded'.state.versions ∧
        ∃ earlier later x x',
          Decoder.outcomes settings now info state (before ++ r :: rest) =
              earlier ++ x :: later ∧
            Decoder.outcomes settings now info' state (before ++ r' :: rest) =
              earlier ++ x' :: later ∧
            earlier.length = before.length ∧ ps = (earlier ++ x :: later).filterMap id ∧
            ps' = (earlier ++ x' :: later).filterMap id := by
  obtain ⟨info, data, data', tail, hs, hs', hwalk, hwalk'⟩ := apart.exists_walk
  have hrecords : EventSection.events { info with eventData := data } =
    ⟨before ++ r :: tail.records, tail.fault⟩ := hwalk
  have hrecords' : EventSection.events { info with eventData := data' } =
    ⟨before ++ r' :: tail.records, tail.fault⟩ := hwalk'
  refine ⟨_, _, tail.records, hs, hs', by rw [hrecords], by rw [hrecords'], ?_, ?_⟩
  · intro registry options accepted total window
    obtain ⟨low, high, -⟩ := Options.check_eq_ok accepted
    obtain ⟨ps, hps⟩ := Decoder.decode_isOk total low high window { info with eventData := data }
      state
    obtain ⟨ps', hps'⟩ := Decoder.decode_isOk total low high window
      { info with eventData := data' } state
    exact ⟨ps, ps', hps, hps'⟩
  · intro ps ps' hps hps'
    obtain ⟨hall, hversions⟩ := Decoder.decode_eq_ok hps
    obtain ⟨hall', hversions'⟩ := Decoder.decode_eq_ok hps'
    rw [hrecords] at hall hversions
    rw [hrecords'] at hall' hversions'
    obtain ⟨rfl, hreceived⟩ := Decoder.records_eq_ok hall
    obtain ⟨rfl, hreceived'⟩ := Decoder.records_eq_ok hall'
    refine ⟨?_, ?_⟩
    · rw [hversions, hversions', hreceived, hreceived',
        Decoder.received_append apart.sameEvent state.versions before tail.records]
      rfl
    · obtain ⟨earlier, later, x, x', hx, hx', hlength⟩ := Decoder.exists_outcomes
        settings now info apart.sameEvent state before tail.records
      simp only [Decoder.outcomes_eventData, hx, hx']
      exact ⟨earlier, later, x, x', rfl, rfl, hlength, rfl, rfl⟩

/-- News at noon of 2024-03-01, for half an hour. -/
def newsRecord : EventRecord where
  eventId := 1
  startField := [0xEB, 0xD2, 0x12, 0, 0]
  durationField := [0, 0x30, 0]
  runningStatus := 4
  freeCaMode := false
  descriptors := [0x4D, 9, 0x65, 0x6E, 0x67, 4, 0x4E, 0x65, 0x77, 0x73, 0]

def garbledRecord : EventRecord := { newsRecord with startField := [0xEB, 0xD2, 0xAA, 0, 0] }

/-- News at noon of 1970-01-01. -/
def oldRecord : EventRecord :=
  { newsRecord with eventId := 2, startField := [0x9E, 0x8B, 0x12, 0, 0] }

theorem fits_newsRecord : newsRecord.Fits :=
  ⟨by decide, rfl, rfl, by decide, by decide, by decide⟩

theorem fits_garbledRecord : garbledRecord.Fits :=
  ⟨by decide, rfl, rfl, by decide, by decide, by decide⟩

theorem fits_oldRecord : oldRecord.Fits :=
  ⟨by decide, rfl, rfl, by decide, by decide, by decide⟩

def headerBytes : Octets := [0x4E, 0xF0, 61, 0, 1, 0xC7, 0, 0, 0, 1, 0x23, 0x3A, 0, 0x4E]

def newsSection : RawSection :=
  ⟨headerBytes ++ (newsRecord.encode ++ oldRecord.encode) ++ [131, 186, 2, 105], by decide +kernel,
    by decide⟩

def garbledSection : RawSection :=
  ⟨headerBytes ++ (garbledRecord.encode ++ oldRecord.encode) ++ [177, 185, 133, 35],
    by decide +kernel, by decide⟩

theorem oneRecordApart_garbled :
    OneRecordApart [] newsRecord garbledRecord newsSection garbledSection where
  carries := by decide
  bytes := ⟨headerBytes, oldRecord.encode, [131, 186, 2, 105], [177, 185, 133, 35], rfl, rfl, rfl,
    rfl, rfl⟩
  fits := List.forall_mem_cons.mpr
    ⟨fits_newsRecord, List.forall_mem_singleton.mpr fits_garbledRecord⟩
  sameEvent := rfl
  sameSize := rfl

theorem decode_garbled :
    ∃ info info' : EventSection, EventSection.ofRaw newsSection = .ok info ∧
      EventSection.ofRaw garbledSection = .ok info' ∧
      let decoded := Decoder.decode .standard noon .initial info
      let decoded' := Decoder.decode .standard noon .initial info'
      (∃ ps ps', decoded.result = .ok ps ∧ decoded'.result = .ok ps') ∧
        decoded.state.versions = decoded'.state.versions := by
  have hcheck : Options.standard.check .known = .ok .standard := rfl
  have hwindow : Settings.standard.WindowInCalendar noon := ⟨by decide, by decide, by decide⟩
  obtain ⟨info, info', rest, hinfo, hinfo', -, -, hok, hsame⟩ :=
    decode_oneRecordApart .standard noon .initial oneRecordApart_garbled
  obtain ⟨ps, ps', hps, hps'⟩ := hok .known .standard hcheck Settings.isTotal_standard hwindow
  exact ⟨info, info', hinfo, hinfo', ⟨ps, ps', hps, hps'⟩, (hsame ps ps' hps hps').1⟩

/-- Options that let every event pass, with no end to the window. -/
def Options.unbounded : Options :=
  { Options.standard with includeInvalidDates := true, futureWindow := 86399999913600 }

def Settings.unbounded : Settings :=
  { Settings.standard with includeInvalidDates := true, futureWindow := 86399999913600 }

/-- A window that has its end outside the calendar: the news stop the decoding, and the programme
after them is lost. With the start time garbled it is there. -/
theorem decode_unbounded :
    Options.unbounded.check .known = .ok .unbounded ∧
    OneRecordApart [] newsRecord garbledRecord newsSection garbledSection ∧
    ∃ info info' : EventSection, EventSection.ofRaw newsSection = .ok info ∧
      EventSection.ofRaw garbledSection = .ok info' ∧
      (Decoder.decode .unbounded noon .initial info).result.toOption = none ∧
      (Decoder.decode .unbounded noon .initial info').result.toOption.map (·.map (·.key)) =
        some [⟨1, 2⟩] ∧
      (Decoder.decode .unbounded noon .initial info).state.versions ≠
        (Decoder.decode .unbounded noon .initial info').state.versions := by
  let info (r : EventRecord) : EventSection :=
    ⟨0x4E, 1, 3, true, 0, 0, 1, 0x233A, 0, 0x4E, r.encode ++ oldRecord.encode⟩
  have hnews : Decoder.decode .unbounded noon .initial (info newsRecord) =
      Decoder.records .unbounded noon (info newsRecord) .initial [newsRecord, oldRecord] :=
    Decoder.decode_of_events (EventRecord.walkFrom_pair fits_newsRecord fits_oldRecord 0)
  have hgarbled : Decoder.decode .unbounded noon .initial (info garbledRecord) =
      Decoder.records .unbounded noon (info garbledRecord) .initial [garbledRecord, oldRecord] :=
    Decoder.decode_of_events (EventRecord.walkFrom_pair fits_garbledRecord fits_oldRecord 0)
  refine ⟨rfl, oneRecordApart_garbled, info newsRecord, info garbledRecord, rfl, rfl, ?_⟩
  rw [hnews, hgarbled]
  decide +kernel

end BroadcastGuide
