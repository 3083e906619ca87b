import UsbdStorage.Subclass.Callback
import UsbdStorage.Transport.Decode
import UsbdStorage.Transport.Faults

/-!
# The wrapper reaches the application

`handle_read_cbw` appends each OUT packet to the IO buffer, waits in `CommandTransfer` while
less than a wrapper is there, and then hands 31 bytes to `try_parse_cbw` and
`start_data_transfer`.  A host sends a wrapper as packets of at most `packet_size` bytes.
While a whole free packet is left behind the bytes buffered before each of them
(`Receiving`), every `poll` takes one packet and returns (`Receiving.pollEntry_next`), and the
`poll` that takes the last one starts the data phase the wrapper asks for and invokes the
callback with its command (`Receiving.pollEntry_last`).  So the command reaches the
application after one `poll` per packet, and no OUT packet behind the wrapper is taken
(`poll_receives_cbw`).
-/

namespace UsbdStorage

variable {κ : Type} {w : World}

/-! ## One packet -/

theorem readPacket_packet (hv : w.dev.buf.Valid)
    (hroom : w.dev.packetSize ≤ w.dev.buf.inner.length - w.dev.buf.availableRead)
    {p : List UInt8} {rest : List OutAnswer} (hout : w.bus.outAnswers = .packet p :: rest)
    (hp : 0 < p.length) (hps : p.length ≤ w.dev.packetSize) :
    ∃ buf : Buffer,
      readPacket w =
        ⟨({ w with bus := { w.bus with outAnswers := rest } }.emit (.outPacket p)).setBuf buf,
          .ok p.length⟩ ∧
      buf.Valid ∧ buf.inner.length = w.dev.buf.inner.length ∧
      buf.content = w.dev.buf.content ++ p := by
  obtain ⟨hv₀, hl₀, hc₀, -⟩ := hv.makeRoom w.dev.packetSize
  have hfit := hv.slot_fits hroom
  rw [readPacket, Buffer.writeAll_room hv _ _ _ hroom]
  have hslice := Buffer.length_window hfit
  generalize Buffer.window _ _ _ = slice at hslice ⊢
  obtain ⟨hmin, hvf, hlf, hcf⟩ := hv₀.fill (p ++ slice.drop p.length) p.length
    (by simp; omega) (by simp)
  rw [hmin, List.take_left' rfl, hc₀] at hcf
  rw [hmin] at hvf
  have hle : p.length ≤ slice.length := by omega
  simp only [outEpRead, hout, hle, if_true, hmin]
  rw [if_neg (by omega)]
  exact ⟨_, rfl, hvf, hlf.trans hl₀, hcf⟩

theorem read_buffers_packet (hv : w.dev.buf.Valid)
    (hs : w.dev.state = .idle ∨ w.dev.state = .commandTransfer)
    (hroom : w.dev.packetSize ≤ w.dev.buf.inner.length - w.dev.buf.availableRead)
    {p : List UInt8} {rest : List OutAnswer} (hout : w.bus.outAnswers = .packet p :: rest)
    (hp : 0 < p.length) (hps : p.length ≤ w.dev.packetSize)
    (hlt : (w.dev.buf.content ++ p).length < cbwLen) :
    ∃ buf : Buffer,
      read w = ⟨enterState (({ w with bus := { w.bus with outAnswers := rest } }.emit
          (.outPacket p)).setBuf buf) .commandTransfer, .ok ()⟩ ∧
      buf.Valid ∧ buf.inner.length = w.dev.buf.inner.length ∧
      buf.content = w.dev.buf.content ++ p := by
  obtain ⟨buf, hr, hbv, hbl, hbc⟩ := readPacket_packet hv hroom hout hp hps
  have hshort : ¬ cbwLen ≤ buf.availableRead := by
    rw [← hbv.length_content, hbc]
    omega
  refine ⟨buf, ?_, hbv, hbl, hbc⟩
  rw [read_of_awaiting hs, handleReadCbw, hr]
  exact if_neg hshort

theorem read_completes_cbw (hv : w.dev.buf.Valid)
    (hs : w.dev.state = .idle ∨ w.dev.state = .commandTransfer)
    (hroom : w.dev.packetSize ≤ w.dev.buf.inner.length - w.dev.buf.availableRead)
    {p : List UInt8} {rest : List OutAnswer} (hout : w.bus.outAnswers = .packet p :: rest)
    (hp : 0 < p.length) (hps : p.length ≤ w.dev.packetSize)
    {b : List UInt8} (hb : w.dev.buf.content ++ p = b) (hlen : b.length = cbwLen)
    {c : CommandBlockWrapper} (hc : wireCbw b = some c) :
    ∃ w₁ : World, read w = ⟨startDataTransfer w₁ c, .ok ()⟩ ∧
      w₁.dev = { w.dev with buf := w₁.dev.buf } ∧ w₁.dev.buf.availableRead = 0 ∧
      w₁.bus = { w.bus with outAnswers := rest } ∧ w₁.trace = w.trace.emit (.outPacket p) := by
  obtain ⟨buf, hr, hbv, -, hbc⟩ := readPacket_packet hv hroom hout hp hps
  have hfull : buf.availableRead = cbwLen := by rw [← hbv.length_content, hbc, hb, hlen]
  have hparse : parseCbw (buf.content.take cbwLen) = .ok c := by
    have h := parseCbw_toOption b
    rw [hc, ← hb] at h
    rw [hbc, ← hlen, ← hb, List.take_length]
    revert h
    cases parseCbw (w.dev.buf.content ++ p) <;> simp [Except.toOption]
  refine ⟨(({ w with bus := { w.bus with outAnswers := rest } }.emit (.outPacket p)).setBuf
    buf).setBuf { buf with rpos := buf.rpos + cbwLen }, ?_, rfl,
    by simp only [World.setBuf_dev, Buffer.availableRead] at hfull ⊢; omega, rfl, rfl⟩
  rw [read_of_awaiting hs, handleReadCbw, hr]
  show (if cbwLen ≤ buf.availableRead then _ else _) = _
  rw [if_pos hfull.ge, tryParseCbw_eq (by exact hfull.ge)]
  simp only [World.setBuf_dev, hparse]

/-! ## The poll loop -/

theorem mapIgnore_write_unlatched (hd : w.dev.state.isDataTransfer) (hcs : w.dev.cs = none)
    (ha : w.dev.buf.availableRead = 0) (k : World → PollState κ) :
    mapIgnore (write w) k = k w := by
  have hcheck : checkEndDataTransfer w = ⟨w, .ok ()⟩ := by
    simp [checkEndDataTransfer, BulkOnly.statusPresent, hcs]
  unfold write
  cases hs : w.dev.state <;> simp only [hs, State.isDataTransfer, Bool.false_eq_true] at hd <;>
    simp only [handleWriteToHost, handleNoDataTransfer, ha, gt_iff_lt, Nat.lt_irrefl, if_false,
      hcheck]
  · split <;> rfl
  all_goals rfl

theorem getCommand_wire {d : BulkOnly} (hd : d.state.isDataTransfer) {b : List UInt8}
    (hlen : b.length = cbwLen) (hc : wireCbw b = some d.cbw) :
    d.getCommand = .ok (some ⟨(b.drop 15).take (b.getD 14 0).toNat, (b.getD 13 0).toNat % 16⟩) := by
  obtain ⟨⟨-, -, h16⟩, hcbw⟩ := Option.ite_none_right_eq_some.mp hc
  have hfit : d.cbw.blockLen ≤ d.cbw.block.length := by
    rw [← Option.some.inj hcbw]
    simp only [List.length_drop, hlen]
    exact h16
  unfold BulkOnly.getCommand
  cases hs : d.state <;> simp only [hs, State.isDataTransfer, Bool.false_eq_true] at hd <;>
    simp only [if_pos hfit] <;> rw [← Option.some.inj hcbw]

/-- A transport awaiting the rest of the wrapper `b`: the host's next packets `qs`, followed
by `rest`, complete it; each fits an OUT packet, and a whole packet is free behind the bytes
buffered before each of them. -/
structure Receiving (w : World) (b : List UInt8) (qs : List (List UInt8))
    (rest : List OutAnswer) : Prop where
  awaiting : w.dev.state = .idle ∨ w.dev.state = .commandTransfer
  unlatched : w.dev.cs = none
  valid : w.dev.buf.Valid
  completes : w.dev.buf.content ++ qs.flatten = b
  answers : w.bus.outAnswers = qs.map .packet ++ rest
  packets : ∀ q ∈ qs, 0 < q.length ∧ q.length ≤ w.dev.packetSize
  room : (w.dev.buf.content ++ qs.dropLast.flatten).length + w.dev.packetSize ≤
    w.dev.buf.inner.length
  fresh : w.trace.current = none

/-- What the callback finds once the wrapper `b`, decoded to `c`, is in: the data phase the
wrapper asks for, nothing buffered and no status, the trace serving `c` with no event yet, and
the IN endpoint's answers and the commands closed as they were in `w`. -/
structure Received (w w' : World) (b : List UInt8) (c : CommandBlockWrapper) : Prop where
  cbw : w'.dev.cbw = c
  state : w'.dev.state = if le32 b 8 = 0 then .dataTransferNoData
    else if (b.getD 12 0).toNat.testBit 7 then .dataTransferToHost else .dataTransferFromHost
  unlatched : w'.dev.cs = none
  empty : w'.dev.buf.availableRead = 0
  inAnswers : w'.bus.inAnswers = w.bus.inAnswers
  done : w'.trace.done = w.trace.done
  current : ∃ before, w'.trace.current = some ⟨c, before, []⟩

variable {b : List UInt8} {q : List UInt8} {qs : List (List UInt8)} {rest : List OutAnswer}

theorem Receiving.room_head (h : Receiving w b (q :: qs) rest) :
    w.dev.packetSize ≤ w.dev.buf.inner.length - w.dev.buf.availableRead := by
  have hr := h.room
  rw [← h.valid.length_content]
  cases qs <;> simp at hr <;> omega

theorem Receiving.pollEntry_next (parseCb : List UInt8 → Option κ) {q' : List UInt8}
    (h : Receiving w b (q :: q' :: qs) rest) (hlen : b.length = cbwLen) :
    ∃ w', pollEntry parseCb w = ⟨w', .outside⟩ ∧ Receiving w' b (q' :: qs) rest ∧
      w'.bus.inAnswers = w.bus.inAnswers ∧ w'.trace.done = w.trace.done := by
  have hq := h.packets q (List.mem_cons_self _ _)
  have hq' := h.packets q' (List.mem_cons_of_mem _ (List.mem_cons_self _ _))
  have hlt : (w.dev.buf.content ++ q).length < cbwLen := by
    have hb := congrArg List.length h.completes
    simp only [List.flatten_cons, List.length_append] at hb ⊢
    omega
  obtain ⟨buf, hr, hbv, hbl, hbc⟩ := read_buffers_packet h.valid h.awaiting h.room_head
    (by rw [h.answers]; rfl) hq.1 hq.2 hlt
  have hct : BulkOnly.enterState { w.dev with buf } .commandTransfer =
      { w.dev with buf, state := .commandTransfer } := BulkOnly.enterState_of_ne _ nofun
  have hdev : (read w).world.dev = { w.dev with buf, state := .commandTransfer } := by
    rw [hr]
    exact BulkOnly.enterState_of_ne _ nofun
  have htr : (read w).world.trace = w.trace.emit (.outPacket q) := by
    rw [hr]
    rfl
  refine ⟨(read w).world, by simp [UsbdStorage.pollEntry, hr, mapIgnore, write, hct,
    BulkOnly.getCommand], ?_, by rw [hr]; rfl, by rw [htr, Trace.emit_done]⟩
  have hr' := h.room
  simp only [List.dropLast_cons₂, List.flatten_cons, ← List.append_assoc, ← hbc] at hr'
  refine ⟨by rw [hdev]; exact .inr rfl, by rw [hdev]; exact h.unlatched, by rw [hdev]; exact hbv,
    by rw [hdev, ← h.completes]; simp [hbc], by rw [hr]; rfl,
    fun x hx => by rw [hdev]; exact h.packets x (List.mem_cons_of_mem _ hx), ?_,
    by simp [htr, Trace.emit, h.fresh]⟩
  rw [hdev]
  dsimp only
  rw [hbl]
  exact hr'

theorem Receiving.pollEntry_last {parseCb : List UInt8 → Option κ}
    (h : Receiving w b [q] rest) (hlen : b.length = cbwLen) {c : CommandBlockWrapper}
    (hc : wireCbw b = some c) {kind : κ}
    (hk : parseCb ((b.drop 15).take (b.getD 14 0).toNat) = some kind) :
    ∃ w', pollEntry parseCb w = ⟨w', .callback kind ((b.getD 13 0).toNat % 16)⟩ ∧
      Received w w' b c ∧ w'.bus.outAnswers = rest := by
  have hq := h.packets q (List.mem_singleton_self _)
  obtain ⟨w₁, hr, hdev, ha, hbus, htr⟩ := read_completes_cbw h.valid h.awaiting h.room_head
    (by rw [h.answers]; rfl) hq.1 hq.2 (by simpa using h.completes) hlen hc
  obtain ⟨hcbw, hstate⟩ := startDataTransfer_wire hc w₁
  have hd : (startDataTransfer w₁ c).dev.state.isDataTransfer := by
    rw [hstate]
    split_ifs <;> rfl
  have hcs : (startDataTransfer w₁ c).dev.cs = none := by
    rw [startDataTransfer_cs, hdev]
    exact h.unlatched
  refine ⟨startDataTransfer w₁ c, ?_, ⟨hcbw, hstate, hcs, by simpa using ha,
    by simp [hbus], by simp [htr, Trace.accept, h.fresh], by simp [htr, Trace.accept]⟩,
    by simp [hbus]⟩
  rw [UsbdStorage.pollEntry, hr, mapIgnore_ok, mapIgnore_write_unlatched hd hcs (by simpa using ha),
    getCommand_wire hd hlen (by rw [hcbw]; exact hc)]
  simp only [BulkOnly.hasStatus, BulkOnly.statusPresent, hcs, hk, Option.isSome_none,
    Bool.not_false, if_true]

/-! ## The run -/

theorem Receiving.run {parseCb : List UInt8 → Option κ} (h : Receiving w b (q :: qs) rest)
    (hlen : b.length = cbwLen) {c : CommandBlockWrapper} (hc : wireCbw b = some c) {kind : κ}
    (hk : parseCb ((b.drop 15).take (b.getD 14 0).toNat) = some kind) :
    ∃ w', pollRun parseCb (List.replicate (qs.length + 1) .poll) ⟨w, .outside⟩ =
        ⟨w', .callback kind ((b.getD 13 0).toNat % 16)⟩ ∧
      Received w w' b c ∧ w'.bus.outAnswers = rest := by
  induction qs generalizing q w with
  | nil =>
    obtain ⟨w', hw', hrest⟩ := h.pollEntry_last hlen hc hk
    exact ⟨w', by rw [pollRun_replicate_succ]; exact hw', hrest⟩
  | cons q' qs ih =>
    obtain ⟨w', hw', h', hin, hdone⟩ := h.pollEntry_next parseCb hlen
    have hstep : pollStep parseCb .poll ⟨w, .outside⟩ = ⟨w', .outside⟩ := hw'
    rw [List.length_cons, pollRun_replicate_succ, hstep]
    obtain ⟨w'', hw'', hr, hrest⟩ := ih h'
    exact ⟨w'', hw'', { hr with inAnswers := hr.inAnswers.trans hin, done := hr.done.trans hdone },
      hrest⟩

theorem PollReachable.receives {parseCb : List UInt8 → Option κ}
    (h : PollReachable parseCb ⟨w, .outside⟩)
    (hs : w.dev.state = .idle ∨ w.dev.state = .commandTransfer)
    (hlen : b.length = cbwLen) {c : CommandBlockWrapper} (hc : wireCbw b = some c)
    (hb : w.dev.buf.content ++ qs.flatten = b) (hout : w.bus.outAnswers = qs.map .packet ++ rest)
    (hq : ∀ q ∈ qs, 0 < q.length ∧ q.length ≤ w.dev.packetSize)
    (hroom : (w.dev.buf.content ++ qs.dropLast.flatten).length + w.dev.packetSize ≤
      w.dev.buf.inner.length)
    {kind : κ} (hk : parseCb ((b.drop 15).take (b.getD 14 0).toNat) = some kind) :
    ∃ w', pollRun parseCb (List.replicate qs.length .poll) ⟨w, .outside⟩ =
        ⟨w', .callback kind ((b.getD 13 0).toNat % 16)⟩ ∧
      Received w w' b c ∧ w'.bus.outAnswers = rest := by
  have hi := inv_of_reachable (h.reachable nofun)
  have hshort : w.dev.buf.content.length < cbwLen := by
    have hst := hi.state
    rw [hi.valid.length_content]
    rcases hs with hs | hs <;> simp only [hs, BulkOnly.StateInv] at hst
    · rw [← hi.valid.length_content, hst.1]
      decide
    · exact hst.2.1
  obtain _ | ⟨q, qs⟩ := qs
  · rw [List.flatten_nil, List.append_nil] at hb
    exact absurd (hb ▸ hlen) (Nat.ne_of_lt hshort)
  exact Receiving.run ⟨hs, hi.cs_none hs, hi.valid, hb, hout, hq, hroom,
    ((tracks_of_reachable (h.reachable nofun)).pending hs).1⟩ hlen hc hk

theorem poll_receives_cbw {parseCb : List UInt8 → Option κ}
    (h : PollReachable parseCb ⟨w, .outside⟩)
    (hs : w.dev.state = .idle ∨ w.dev.state = .commandTransfer)
    (hlen : b.length = cbwLen) {c : CommandBlockWrapper} (hc : wireCbw b = some c)
    (hb : w.dev.buf.content ++ qs.flatten = b) (hout : w.bus.outAnswers = qs.map .packet ++ rest)
    (hq : ∀ q ∈ qs, 0 < q.length ∧ q.length ≤ w.dev.packetSize)
    (hroom : (w.dev.buf.content ++ qs.dropLast.flatten).length + w.dev.packetSize ≤
      w.dev.buf.inner.length)
    {kind : κ} (hk : parseCb ((b.drop 15).take (b.getD 14 0).toNat) = some kind) :
    (pollRun parseCb (List.replicate qs.length .poll) ⟨w, .outside⟩).phase =
        .callback kind ((b.getD 13 0).toNat % 16) ∧
      (pollRun parseCb (List.replicate qs.length .poll) ⟨w, .outside⟩).world.dev.cbw = c ∧
      (pollRun parseCb (List.replicate qs.length .poll) ⟨w, .outside⟩).world.dev.state =
        (if le32 b 8 = 0 then .dataTransferNoData
          else if (b.getD 12 0).toNat.testBit 7 then .dataTransferToHost
          else .dataTransferFromHost) ∧
      (pollRun parseCb (List.replicate qs.length .poll) ⟨w, .outside⟩).world.bus.outAnswers =
        rest := by
  obtain ⟨w', hw', hr, hrest⟩ := h.receives hs hlen hc hb hout hq hroom hk
  rw [hw']
  exact ⟨rfl, hr.cbw, hr.state, hrest⟩

def read10Wrapper : List UInt8 := hostCbwBytes 9 512 0x80 0 read10Block

def read10Packets : List (List UInt8) :=
  [read10Wrapper.take 8, (read10Wrapper.drop 8).take 8, (read10Wrapper.drop 16).take 8,
    read10Wrapper.drop 24]

def read10Start : PollState ScsiCommand := startState 8 32 [] (read10Packets.map .packet)

theorem read10Packets_reach_callback :
    PollReachable Scsi.parseCb read10Start ∧ read10Start.world.dev.state = .idle ∧
      read10Wrapper.length = cbwLen ∧
      wireCbw read10Wrapper = some ⟨9, 512, .«in», 0, 10, read10Block ++ List.replicate 6 0⟩ ∧
      read10Start.world.dev.buf.content ++ read10Packets.flatten = read10Wrapper ∧
      (∀ q ∈ read10Packets, 0 < q.length ∧ q.length ≤ read10Start.world.dev.packetSize) ∧
      (read10Start.world.dev.buf.content ++ read10Packets.dropLast.flatten).length +
        read10Start.world.dev.packetSize ≤ read10Start.world.dev.buf.inner.length ∧
      Scsi.parseCb ((read10Wrapper.drop 15).take (read10Wrapper.getD 14 0).toNat) =
        some (.read 0 1) ∧
      (pollRun Scsi.parseCb (List.replicate read10Packets.length .poll) read10Start).phase =
          .callback (.read 0 1) ((read10Wrapper.getD 13 0).toNat % 16) ∧
      (pollRun Scsi.parseCb (List.replicate read10Packets.length .poll) read10Start).world.dev.cbw =
        ⟨9, 512, .«in», 0, 10, read10Block ++ List.replicate 6 0⟩ ∧
      (pollRun Scsi.parseCb (List.replicate read10Packets.length .poll)
          read10Start).world.dev.state =
        (if le32 read10Wrapper 8 = 0 then .dataTransferNoData
          else if (read10Wrapper.getD 12 0).toNat.testBit 7 then .dataTransferToHost
          else .dataTransferFromHost) ∧
      (pollRun Scsi.parseCb (List.replicate read10Packets.length .poll)
          read10Start).world.bus.outAnswers = [] :=
  have h : PollReachable Scsi.parseCb read10Start :=
    startState_reachable _ (by decide) (by decide) (by decide) _ _
  have hc : wireCbw read10Wrapper = some ⟨9, 512, .«in», 0, 10, read10Block ++ List.replicate 6 0⟩ :=
    by decide
  have hk : Scsi.parseCb ((read10Wrapper.drop 15).take (read10Wrapper.getD 14 0).toNat) =
      some (.read 0 1) := by decide
  ⟨h, rfl, rfl, hc, by decide, by decide, by decide, hk,
    poll_receives_cbw (w := read10Start.world) (b := read10Wrapper) h (.inl rfl) rfl hc (by decide)
      (show _ = read10Packets.map OutAnswer.packet ++ [] from rfl) (by decide) (by decide) hk⟩

end UsbdStorage
