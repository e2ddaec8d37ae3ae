import BroadcastGuide.Proofs.Transport.Carrying

/-! Sections out of packets of which some were lost: just those all of whose packets arrive. -/

namespace BroadcastGuide.Transport

/-! ### Which packets count -/

/-- Where a receiver stands before packet number `n`, so many packets after the last one that
arrived. -/
def Standing (n : Nat) (rest : Octets) (since : Option Nat) (src : SectionSource) : Prop :=
  match since with
  | none => src.lastCounter = none ∧ src.inProgress = none
  | some k => (∃ c, src.lastCounter = some (c % 16) ∧ n = c + 1 + k) ∧
      (k = 0 → Holds rest src.inProgress)

/-- What the next packet that arrives finds in progress: nothing after a loss. -/
def inProgressAfter (since : Option Nat) (src : SectionSource) : Option Octets :=
  match since with
  | some (_ + 1) => none
  | _ => src.inProgress

/-- One more loss is noticed with the packet that ends it. -/
def lossesAfter : Option Nat → Nat
  | some (_ + 1) => 1
  | _ => 0

theorem Standing.holds {n : Nat} {rest : Octets} {since : Option Nat} {src : SectionSource}
    (h : Standing n rest since src) : Holds rest (inProgressAfter since src) := by
  match since with
  | none => rw [show inProgressAfter none src = src.inProgress from rfl, h.2]; trivial
  | some 0 => exact h.2 rfl
  | some (_ + 1) => trivial

/-- A lost packet leaves the receiver where it is. -/
theorem Standing.lost {n : Nat} {rest : Octets} {since : Option Nat} {src : SectionSource}
    (h : Standing n rest since src) (rest' : Octets) :
    Standing (n + 1) rest' (since.map (· + 1)) src := by
  cases since with
  | none => exact h
  | some k =>
    obtain ⟨⟨c, hc, hn⟩, -⟩ := h
    refine ⟨⟨c, hc, ?_⟩, fun hk => absurd hk (Nat.succ_ne_zero k)⟩
    dsimp only
    omega

namespace SectionSource

theorem feed_noise {src : SectionSource} {p : Packet} {pid : Nat} (hpid : src.pid = pid)
    (h : p.IsNoise pid src.lastCounter) : src.feed p = src := by
  rcases h with h | h | h | h
  · have hne : (src.pid == p.pid) = false := by
      rw [hpid, beq_eq_false_iff_ne]
      omega
    simp [feed, isWanted, hne]
  · simp [feed, isWanted, Packet.hasPayload, h]
  · simp [feed, isWanted, h]
  · simp [feed, h]

/-- The counter of a packet tells whether up to fourteen packets were lost before it. -/
theorem feed_nth {src : SectionSource} {p : Packet} {pid n : Nat} {rest : Octets}
    {since : Option Nat} (hpid : src.pid = pid) (nth : p.IsNth pid n)
    (h : Standing n rest since src) (hrun : ∀ k ∈ since, k ≤ 14) :
    src.feed p = { src with
      lastCounter := some (n % 16)
      counterErrors := src.counterErrors + lossesAfter since
      inProgress := inProgressAfter since src }.takePayload p := by
  have hwanted : src.isWanted p = true := by
    have hpos := List.length_pos_iff.mp nth.one_le
    simp [isWanted, Packet.hasPayload, hpid, nth.pid_eq, nth.no_error, hpos]
  rw [feed, if_pos hwanted, nth.counter_eq]
  match since with
  | none => rw [h.1]; rfl
  | some 0 =>
    obtain ⟨⟨c, hc, hn⟩, -⟩ := h
    rw [hc]
    dsimp only
    rw [if_neg (by omega), if_pos (by omega)]
    rfl
  | some (k + 1) =>
    obtain ⟨⟨c, hc, hn⟩, -⟩ := h
    have hk := hrun (k + 1) rfl
    -- two to fifteen steps ahead: neither a repetition nor the next packet
    rw [hc]
    dsimp only
    rw [if_neg (by omega), if_neg (by omega)]
    rfl

/-- A packet that arrives, whatever was lost before it. -/
theorem feed_arrives {src : SectionSource} {s : Sent} {pid n : Nat} {ahead after : Unfinished}
    {placed later : List Placed} {since : Option Nat} (hpid : src.pid = pid)
    (nth : s.packet.IsNth pid n) (carries : Carries s ahead placed after later)
    (hs : s.arrives = true) (standing : Standing n ahead.rest since src)
    (hrun : ∀ k ∈ since, k ≤ 14) :
    ∃ out, (src.feed s.packet).pid = pid ∧ (src.feed s.packet).ready = src.ready ++ out ∧
      out ++ (opened after (src.feed s.packet).inProgress ++ delivered later) =
        opened ahead (inProgressAfter since src) ++ delivered placed ∧
      (src.feed s.packet).counterErrors = src.counterErrors + lossesAfter since ∧
      (src.feed s.packet).lastCounter = some s.packet.counter ∧
      Standing (n + 1) after.rest (some 0) (src.feed s.packet) := by
  obtain ⟨out, prog, htaken, hholds, hout⟩ := takePayload_carries carries hs nth.le_room { src with
    lastCounter := some (n % 16)
    counterErrors := src.counterErrors + lossesAfter since
    inProgress := inProgressAfter since src } standing.holds
  rw [feed_nth hpid nth standing hrun, htaken, nth.counter_eq]
  exact ⟨out, hpid, rfl, hout, rfl, rfl, ⟨n, rfl, rfl⟩, fun _ => hholds⟩

end SectionSource

theorem Arrival.foldl_nil {pid : Nat} {received : List Packet} {src : SectionSource}
    (hpid : src.pid = pid) (h : Arrival pid src.lastCounter [] received) :
    received.foldl SectionSource.feed src = src := by
  induction received with
  | nil => rfl
  | cons p rest ih =>
    cases h with
    | noise noise h' => rw [List.foldl_cons, SectionSource.feed_noise hpid noise, ih h']

/-- Noise ahead of the next packet that arrives changes nothing. -/
theorem Arrival.foldl_cons {pid : Nat} {p : Packet} {arriving received : List Packet}
    {src : SectionSource} (hpid : src.pid = pid)
    (h : Arrival pid src.lastCounter (p :: arriving) received) :
    ∃ rest, Arrival pid (some p.counter) arriving rest ∧
      received.foldl SectionSource.feed src = rest.foldl SectionSource.feed (src.feed p) := by
  induction received with
  | nil => cases h
  | cons q rest ih =>
    cases h with
    | packet h' => exact ⟨rest, h', rfl⟩
    | noise noise h' =>
      obtain ⟨rest', harrival, hfold⟩ := ih h'
      refine ⟨rest', harrival, ?_⟩
      rw [List.foldl_cons, SectionSource.feed_noise hpid noise, hfold]

/-! ### A whole layout -/

theorem lostRuns_of_loss {s : Sent} (hs : s.arrives = false) (since : Option Nat)
    (sent : List Sent) : lostRuns since (s :: sent) = lostRuns (since.map (· + 1)) sent := by
  simp [lostRuns, hs]

/-- A packet that arrives ends the run before it, if some were lost. -/
theorem lostRuns_of_arrival {s : Sent} (hs : s.arrives = true) (since : Option Nat)
    (sent : List Sent) :
    ∃ run, lostRuns since (s :: sent) = run ++ lostRuns (some 0) sent ∧
      run.length = lossesAfter since ∧ ∀ k ∈ since, k ≠ 0 → k ∈ run := by
  cases since with
  | none => exact ⟨[], by simp [lostRuns, hs], rfl, by simp⟩
  | some k =>
    cases k with
    | zero => exact ⟨[], by simp [lostRuns, hs], rfl, by simp⟩
    | succ k => exact ⟨[k + 1], by simp [lostRuns, hs], rfl, by simp⟩

/-- Taking in what arrives of a layout collects the sections that are delivered and counts the runs
that are lost. -/
theorem Layout.foldl_feed {pid n : Nat} {ahead : Unfinished} {placed : List Placed}
    {sent : List Sent} (h : Layout pid n ahead placed sent) {since : Option Nat}
    {received : List Packet} {src : SectionSource} (hpid : src.pid = pid)
    (standing : Standing n ahead.rest since src)
    (runs : ∀ run ∈ lostRuns since sent, run ≤ 14)
    (arrival : Arrival pid src.lastCounter (survivors sent) received) :
    (received.foldl SectionSource.feed src).ready =
        src.ready ++ (opened ahead (inProgressAfter since src) ++ delivered placed) ∧
      (received.foldl SectionSource.feed src).counterErrors =
        src.counterErrors + (lostRuns since sent).length := by
  -- the receiver stands before the next packet, and what it has in progress is what the packets to
  -- come still carry the rest of
  induction h generalizing since received src with
  | done n =>
    rw [arrival.foldl_nil hpid, opened_none standing.holds]
    exact ⟨(List.append_nil _).symm, rfl⟩
  | packet nth carries rest ih =>
    rename_i n s ahead after placed later sent
    cases hs : s.arrives with
    | false =>
      have hruns := lostRuns_of_loss hs since sent
      have hsurvivors : survivors (s :: sent) = survivors sent := by simp [survivors, hs]
      have hprogress : inProgressAfter (since.map (· + 1)) src = none := by
        cases since with
        | none => exact standing.2
        | some k => rfl
      rw [hruns] at runs ⊢
      rw [hsurvivors] at arrival
      obtain ⟨hready, herrors⟩ := ih hpid (standing.lost after.rest) runs arrival
      refine ⟨?_, herrors⟩
      rw [hready, hprogress, carries.lost hs standing.holds]
      rfl
    | true =>
      obtain ⟨run, hruns, hlength, hmem⟩ := lostRuns_of_arrival hs since sent
      have hsurvivors : survivors (s :: sent) = s.packet :: survivors sent := by
        simp [survivors, hs]
      rw [hsurvivors] at arrival
      rw [hruns] at runs
      obtain ⟨received', harrival, hfold⟩ := arrival.foldl_cons hpid
      have hle : ∀ k ∈ since, k ≤ 14 := by
        intro k hk
        by_cases h0 : k = 0
        · omega
        · exact runs k (List.mem_append_left _ (hmem k hk h0))
      obtain ⟨out, hpid', hout, hsum, herrors, hlast, standing'⟩ :=
        SectionSource.feed_arrives hpid nth carries hs standing hle
      rw [← hlast] at harrival
      obtain ⟨hready, hcount⟩ := ih hpid' standing'
        (fun k hk => runs k (List.mem_append_right _ hk)) harrival
      rw [hfold, hready, hcount, hout, herrors, hruns, List.length_append, hlength]
      refine ⟨?_, Nat.add_assoc _ _ _⟩
      rw [List.append_assoc, ← hsum]
      rfl

theorem mem_endingIn {rest : Octets} {s t : Sent} (h : t ∈ (Unfinished.endingIn rest s).carriers) :
    t = s := by
  by_cases hr : rest = []
  · simp [Unfinished.endingIn, hr] at h
  · simpa [Unfinished.endingIn, hr] using h

theorem mem_within {s t : Sent} {sections : List WholeSection} {p : Placed}
    (hp : p ∈ Placed.within s sections) (ht : t ∈ p.carriers) : t = s := by
  obtain ⟨content, -, rfl⟩ := List.mem_map.mp hp
  exact List.mem_singleton.mp ht

/-- The packets that carry sections are packets of the layout. -/
theorem Layout.carriers_subset {pid n : Nat} {ahead : Unfinished} {placed : List Placed}
    {sent : List Sent} (h : Layout pid n ahead placed sent) :
    (∀ t ∈ ahead.carriers, t ∈ sent) ∧ ∀ p ∈ placed, ∀ t ∈ p.carriers, t ∈ sent := by
  induction h with
  | done => exact ⟨fun t ht => ht, fun p hp => absurd hp List.not_mem_nil⟩
  | packet nth carries rest ih =>
    rename_i s _ _ _ _ sent
    obtain ⟨hafter, hlater⟩ := ih
    have htail : ∀ {t}, t ∈ sent → t ∈ s :: sent := List.mem_cons_of_mem s
    have hhead : ∀ {t}, t = s → t ∈ s :: sent := fun ht => ht ▸ List.mem_cons_self
    cases carries with
    | continues =>
      constructor
      · intro t ht
        rcases List.mem_cons.mp ht with rfl | ht
        · exact List.mem_cons_self
        · exact htail (hafter t ht)
      · exact fun p hp t ht => htail (hlater p hp t ht)
    | ends =>
      constructor
      · exact fun t ht => hhead (List.mem_singleton.mp ht)
      · exact fun p hp t ht => htail (hlater p hp t ht)
    | whole =>
      constructor
      · exact fun t ht => hhead (mem_endingIn ht)
      · intro p hp t ht
        rcases List.mem_append.mp hp with hp | hp
        · exact hhead (mem_within hp ht)
        · exact htail (hlater p hp t ht)
    | begins =>
      constructor
      · exact fun t ht => hhead (mem_endingIn ht)
      · intro p hp t ht
        rcases List.mem_append.mp hp with hp | hp
        · exact hhead (mem_within hp ht)
        · rcases List.mem_cons.mp hp with rfl | hp
          · rcases List.mem_cons.mp ht with rfl | ht
            · exact List.mem_cons_self
            · exact htail (hafter t ht)
          · exact htail (hlater p hp t ht)

/-- If all packets arrive, no run of them is lost. -/
theorem lostRuns_of_arrives {sent : List Sent} (h : ∀ s ∈ sent, s.arrives = true) :
    lostRuns none sent = [] ∧ lostRuns (some 0) sent = [] := by
  induction sent with
  | nil => exact ⟨rfl, rfl⟩
  | cons s rest ih =>
    have hs := h s List.mem_cons_self
    have hrest := (ih fun t ht => h t (List.mem_cons_of_mem s ht)).2
    simp [lostRuns, hs, hrest]

/-- Sections are laid out in the packets of a stream, packets are lost, no more than fourteen in a
row between two that arrive, and noise comes in between. What is read out of the packets, in
whatever pieces they come and are asked for, are the sections all of whose packets arrive; each run
that is lost between two packets that arrive is counted once. -/
theorem readOut_layout {pid n : Nat} {placed : List Placed} {sent : List Sent}
    {received : List Packet} {blocks : List Octets} {stream : Delivery} {sizes : Nat → Nat}
    (layout : Layout pid n .none placed sent) (runs : ∀ run ∈ lostRuns none sent, run ≤ 14)
    (arrival : Arrival pid none (survivors sent) received)
    (whole : ∀ block ∈ blocks, block.length = packetSize)
    (packets : blocks.map Packet.ofBytes = received.map .ok)
    (data : stream.data = blocks.flatten) (chunks : ∀ c ∈ stream.chunks, 0 < c)
    (positive : ∀ i, 0 < sizes i) :
    let out := readOut sizes (SectionSource.ofStream stream pid)
    out.1 = delivered placed ∧ out.2.counterErrors = (lostRuns none sent).length ∧
      ((∀ s ∈ sent, s.arrives = true) →
        out.1 = placed.flatMap (·.content.bytes) ∧ out.2.counterErrors = 0) := by
  have hblocks : ∀ block ∈ blocks, IsBlock block := by
    intro block hb
    have hmem := List.mem_map_of_mem (f := Packet.ofBytes) hb
    rw [packets] at hmem
    obtain ⟨p, -, hp⟩ := List.mem_map.mp hmem
    exact isBlock_of_ofBytes (whole block hb) hp.symm
  obtain ⟨after, hdrain⟩ := SectionSource.drain_blocks hblocks
    (SectionSource.ofStream stream pid) chunks data
  rw [SectionSource.foldl_feedBytes packets] at hdrain
  have hpid : (SectionSource.ofStream stream pid).pid = pid := rfl
  have standing : Standing n Unfinished.none.rest none (SectionSource.ofStream stream pid) :=
    ⟨rfl, rfl⟩
  obtain ⟨hready, herrors⟩ := layout.foldl_feed hpid standing runs arrival
  have hout : (readOut sizes (SectionSource.ofStream stream pid)).1 = delivered placed := by
    rw [SectionSource.readOut_eq_drain positive, hdrain]
    exact hready
  have hcount : (readOut sizes (SectionSource.ofStream stream pid)).2.counterErrors =
      (lostRuns none sent).length := by
    rw [SectionSource.readOut_eq_drain positive, hdrain]
    exact herrors.trans (Nat.zero_add _)
  refine ⟨hout, hcount, ?_⟩
  intro hall
  constructor
  · rw [hout]
    apply delivered_of_arrives
    intro p hp s hs
    exact hall s (layout.carriers_subset.2 p hp s hs)
  · rw [hcount, (lostRuns_of_arrives hall).1, List.length_nil]

def fullPacket (startsUnit : Bool) (counter : Nat) (payload : Octets) : Packet where
  pid := 0x12
  payload := payload ++ List.replicate (184 - payload.length) 0xFF
  hasError := false
  startsUnit := startsUnit
  scrambling := 0
  counter := counter
  hasAdaptation := false

def fullBlock (startsUnit : Bool) (counter : Nat) (payload : Octets) : Octets :=
  syncByte :: (if startsUnit then 0x40 else 0) :: 0x12 :: UInt8.ofNat (16 + counter) ::
    (fullPacket startsUnit counter payload).payload

def shortSection : WholeSection := ⟨[0x4E, 0xF0, 2, 7, 8], rfl, by decide⟩

def longSection : WholeSection :=
  ⟨0x4F :: 0xF0 :: 200 :: List.replicate 200 1, by decide +kernel, by decide⟩

/-- The blocks of packets: a short section, once again the same packet, the beginning of a long
section, and after a lost packet another short one. -/
def lossyBlocks : List Octets :=
  [fullBlock true 15 (0 :: shortSection.bytes), fullBlock true 15 (0 :: shortSection.bytes),
    fullBlock true 0 (0 :: longSection.bytes.take 183), fullBlock true 2 (0 :: shortSection.bytes)]

theorem readOut_lossyBlocks :
    let out := readOut (fun _ => 64) (SectionSource.ofStream ⟨lossyBlocks.flatten, [100, 300]⟩ 0x12)
    out.1 = shortSection.bytes ++ shortSection.bytes ∧ out.2.counterErrors = 1 := by
  let first : Sent := ⟨fullPacket true 15 (0 :: shortSection.bytes), true⟩
  let second : Sent := ⟨fullPacket true 0 (0 :: longSection.bytes.take 183), true⟩
  let third : Sent := ⟨fullPacket false 1 (longSection.bytes.drop 183), false⟩
  let fourth : Sent := ⟨fullPacket true 2 (0 :: shortSection.bytes), true⟩
  have alone (s : Sent) (unit : s.packet.startsUnit = true)
      (payload : s.packet.payload = (fullPacket true 0 (0 :: shortSection.bytes)).payload)
      (placed : List Placed) : Carries s .none (⟨shortSection, [s]⟩ :: placed) .none placed :=
    Carries.whole [shortSection] 178 unit (by decide) payload
  have layout : Layout 0x12 15 .none
      [⟨shortSection, [first]⟩, ⟨longSection, [second, third]⟩, ⟨shortSection, [fourth]⟩]
      [first, second, third, fourth] := by
    refine .packet ⟨rfl, rfl, rfl, by decide +kernel, by decide +kernel⟩ (alone first rfl rfl _) ?_
    refine .packet ⟨rfl, rfl, rfl, by decide +kernel, by decide +kernel⟩
      (.begins [] longSection (longSection.bytes.take 183) (longSection.bytes.drop 183) rfl
        (List.take_append_drop 183 _).symm (by decide +kernel) (by decide +kernel) ?_) ?_
    · decide +kernel
    refine .packet ⟨rfl, rfl, rfl, by decide +kernel, by decide +kernel⟩
      (.ends 164 rfl (by decide +kernel) rfl) ?_
    exact .packet ⟨rfl, rfl, rfl, by decide +kernel, by decide +kernel⟩ (alone fourth rfl rfl _)
      (.done 19)
  have arrival : Arrival 0x12 none (survivors [first, second, third, fourth])
      [first.packet, first.packet, second.packet, fourth.packet] :=
    .packet (.noise (Or.inr (Or.inr (Or.inr rfl))) (.packet (.packet (.done _))))
  have packets : lossyBlocks.map Packet.ofBytes =
      [first.packet, first.packet, second.packet, fourth.packet].map .ok := by cbv
  have positive : ∀ i : Nat, 0 < (fun _ => 64) i := fun _ => Nat.succ_pos 63
  have chunks : ∀ c ∈ Delivery.chunks ⟨lossyBlocks.flatten, [100, 300]⟩, 0 < c := by decide
  obtain ⟨hbytes, hcount, -⟩ := readOut_layout layout (by decide) arrival (by decide +kernel)
    packets rfl chunks positive
  exact ⟨hbytes, hcount⟩

end BroadcastGuide.Transport
