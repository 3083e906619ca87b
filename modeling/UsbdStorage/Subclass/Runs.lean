import UsbdStorage.Subclass.Poll

/-!
# Runs of the poll loop, as the host sees them

What `Tracking` proves of every transport run holds of every run of `Scsi::poll` and
`Ufi::poll`: each command gets one CSW, with the residue of the data bytes its data phase
moved (`poll_csw_correct`), and a short data packet is the last one only once a status is
latched (`poll_short_packet_last`).  The second part shows, on runs of `Scsi::poll` the
kernel replays, where the code does not do what a host expects: `set_status(Failed)` drops
the data still queued, `write_data` queues more than the residue, and a status latched while
OUT bytes wait in the buffer is never sent.
-/

namespace UsbdStorage

variable {κ : Type} {w : World}

/-! ## What every run keeps -/

theorem poll_csw_correct {parseCb : List UInt8 → Option κ} {s : PollState κ}
    (h : PollReachable parseCb s) (hp : s.phase ≠ .panicked) :
    ∀ c ∈ s.world.trace.commands, c.CswCorrect :=
  fun c hc => (commands_correct (h.reachable hp) c hc).1

def leftoverRun : PollState ScsiCommand :=
  pollRun Scsi.parseCb [.poll, .readData [0], .finish (some .passed)]
    (startState 32 64 [.accept] [.packet (hostCbwBytes 9 1 0x00 0 write10Block ++ [0xAB])])

theorem leftoverRun_csw_correct :
    PollReachable Scsi.parseCb leftoverRun ∧ leftoverRun.phase ≠ .panicked ∧
      ∀ c ∈ leftoverRun.world.trace.commands, c.CswCorrect :=
  have h : PollReachable Scsi.parseCb leftoverRun :=
    (startState_reachable _ (by decide) (by decide) (by decide) _ _).run _
  ⟨h, by decide, poll_csw_correct h (by decide)⟩

theorem leftoverRun_residue_skips_leftover :
    PollReachable Scsi.parseCb leftoverRun ∧
      ∃ c ∈ leftoverRun.world.trace.commands, c.cbw.dataTransferLen = 1 ∧
        c.leftover ++ outBytes (dataPhase c.events) = [0xAB] ∧
        .delivered [0xAB] ∈ c.events ∧ .queue (cswBytes 9 1 .passed) ∈ c.events :=
  ⟨(startState_reachable _ (by decide) (by decide) (by decide) _ _).run _,
    _, List.get_mem _ 0 (by decide), by decide, by decide, by decide, by decide⟩

theorem poll_short_packet_last {parseCb : List UInt8 → Option κ} {s : PollState κ}
    (h : PollReachable parseCb s) (hp : s.phase ≠ .panicked) :
    ∀ c ∈ s.world.trace.commands, c.ShortPacketLast s.world.dev.packetSize :=
  fun c hc => (commands_correct (h.reachable hp) c hc).2.2.1

def twoShortRun : PollState ScsiCommand :=
  pollRun Scsi.parseCb [.poll, .writeData (List.replicate 10 0xFF), .finish none, .poll,
      .writeData (List.replicate 10 0xEE), .finish none]
    (startState 32 64 [.accept, .accept] [.packet (hostCbwBytes 2 20 0x80 0 read10Block)])

theorem twoShortRun_short_packet_last :
    PollReachable Scsi.parseCb twoShortRun ∧ twoShortRun.phase ≠ .panicked ∧
      ∀ c ∈ twoShortRun.world.trace.commands, c.ShortPacketLast twoShortRun.world.dev.packetSize :=
  have h : PollReachable Scsi.parseCb twoShortRun :=
    (startState_reachable _ (by decide) (by decide) (by decide) _ _).run _
  ⟨h, by decide, poll_short_packet_last h (by decide)⟩

theorem twoShortRun_sends_two_short_packets :
    PollReachable Scsi.parseCb twoShortRun ∧ twoShortRun.world.dev.packetSize = 32 ∧
      ∃ c ∈ twoShortRun.world.trace.commands,
        c.events = [.supplied (List.replicate 10 0xFF), .inPacket (List.replicate 10 0xFF),
          .supplied (List.replicate 10 0xEE), .inPacket (List.replicate 10 0xEE)] :=
  ⟨(startState_reachable _ (by decide) (by decide) (by decide) _ _).run _, by decide,
    _, List.get_mem _ 0 (by decide), by decide⟩

/-! ## `set_status` with `Failed` or `PhaseError` -/

theorem endDataTransfer_commands (hi : w.dev.Inv) (hd : w.dev.state.isDataTransfer)
    {st : CommandStatus} (hcs : w.dev.cs = some st) {c : CommandLog}
    (hc : w.trace.current = some c) (hend : Ending w.dev c) :
    ∃ qs post, (∀ e ∈ qs, e.Quiet) ∧
      { c with events := c.events ++ qs ++
          .queue (cswBytes w.dev.cbw.tag w.dev.cbw.dataTransferLen st) :: post } ∈
        (endDataTransfer w).world.trace.commands := by
  obtain ⟨qs, hq, -, hcur, -⟩ := stallOnResidue_current hi hd hc hend
  rw [endDataTransfer_eq hcs]
  have hfit : (cswBytes w.dev.cbw.tag w.dev.cbw.dataTransferLen st).length ≤
      (stallOnResidue w).dev.buf.inner.length := by
    rw [length_cswBytes, stallOnResidue_dev]
    exact le_trans (by decide) hi.cbw_fits
  obtain ⟨-, -, -, -, -, -, htr⟩ := queueCsw_spec (stallOnResidue w) _ hfit
  have hi' := queueCsw_inv hi hd hcs
  generalize queueCsw (stallOnResidue w) (cswBytes w.dev.cbw.tag w.dev.cbw.dataTransferLen st)
    = w' at hi' htr ⊢
  have hcur' : w'.trace.current = some { c with events := c.events ++ qs ++
      [.queue (cswBytes w.dev.cbw.tag w.dev.cbw.dataTransferLen st)] } := by
    simp [htr, hcur]
  obtain ⟨-, -, ⟨e, -, -, ht⟩ | ⟨n, -, -, hnm, hlt, heq⟩⟩ :=
    handleWriteCsw_spec hi'.valid hi'.packetSize_pos
  · exact ⟨qs, [], hq, by simp [ht, Trace.commands, hcur']⟩
  refine ⟨qs, [.inPacket (w'.dev.buf.content.take n)], hq, ?_⟩
  rcases Nat.lt_or_ge n w'.dev.buf.availableRead with hn | hn
  · simp [(hlt hn).2, Trace.commands_emit_of_current _ _ hcur']
  · simp [(heq (le_antisymm (hnm ▸ min_le_right _ _) hn)).2,
      Trace.commands_emit_of_current _ _ hcur']

/-- `end_data_transfer` calls `buf.clean()` before it queues the CSW. -/
theorem setStatus_drops_queued_data (h : Reachable w) (hs : w.dev.state = .dataTransferToHost)
    (hcs : w.dev.cs = none) {status : CommandStatus}
    (hst : status = .phaseError ∨ status = .failed) (hp : (setStatus w status).outcome ≠ .panic) :
    ∃ c ∈ (setStatus w status).world.trace.commands, ∃ post,
      c.events = dataPhase c.events ++
        .queue (cswBytes c.cbw.tag (residue c.cbw (dataPhase c.events)) status) :: post ∧
      inBytes post <+: cswBytes c.cbw.tag (residue c.cbw (dataPhase c.events)) status ∧
      inBytes (dataPhase c.events) ++ w.dev.buf.content =
        c.leftover ++ suppliedBytes (dataPhase c.events) := by
  have hi := inv_of_reachable h
  have hd : w.dev.state.isDataTransfer := by rw [hs]; rfl
  obtain ⟨c, hc, hserve⟩ := (tracks_of_reachable h).serving hd
  have hbytes := hserve.bytes
  rw [hs] at hbytes
  have hserve₁ := hserve.latch hcs { w.dev with cs := some status } rfl rfl rfl rfl rfl
  obtain ⟨qs, post, hq, hmem⟩ := endDataTransfer_commands
    (w := ({ w with dev := { w.dev with cs := some status } } : World).emit (.latch status))
    (hi.of_dataTransfer rfl hd rfl rfl hi.valid (hi.wellFormed hd) hi.noData) hd rfl
    (by simp [hc]) hserve₁.ending
  have hr : Reachable (setStatus w status).world :=
    h.step (.setStatus status) (by simp [Action.allowed, hd, hcs]) hp
  rw [setStatus_world, if_pos hst] at hr ⊢
  simp only [World.emit_dev] at hmem
  have hpre : ∀ e ∈ c.events ++ [.latch status] ++ qs, e.isQueue = false := by
    intro e he
    simp only [List.mem_append, List.mem_singleton] at he
    rcases he with (he | rfl) | he
    exacts [hserve.noQueue e he, rfl, (hq e he).isQueue]
  have hin : inBytes qs = [] := quiet_flatMap hq fun _ he => he.1
  have hsup : suppliedBytes qs = [] := quiet_flatMap hq fun _ he => he.2.2.1
  have hres : residue c.cbw (c.events ++ [.latch status] ++ qs) = w.dev.cbw.dataTransferLen := by
    rw [residue_append_quiet _ _ hq, hserve.counted]
    simp [residue, transferred, Event.inData, Event.outData]
  obtain ⟨-, -, -, -, hpost, -⟩ := (commands_correct hr _ hmem).1
    (cswBytes w.dev.cbw.tag w.dev.cbw.dataTransferLen status) post
    (by dsimp only; rw [dataPhase_queue hpre])
  refine ⟨_, hmem, post, ?_⟩
  dsimp only
  rw [dataPhase_queue hpre, hres, ← hserve.tag]
  refine ⟨rfl, hpost, ?_⟩
  simpa [hin, hsup, Event.inData, Event.suppliedData] using hbytes.2.2

def failAfterDataRun : PollState ScsiCommand :=
  pollRun Scsi.parseCb [.poll, .writeData (List.replicate 8 0xFF)]
    (startState 32 64 [.accept] [.packet (hostCbwBytes 3 16 0x80 0 read10Block)])

theorem failAfterDataRun_drops_queued_data :
    Reachable failAfterDataRun.world ∧ failAfterDataRun.world.dev.buf.content =
      List.replicate 8 0xFF ∧
    ∃ c ∈ (setStatus failAfterDataRun.world .failed).world.trace.commands, ∃ post,
      c.events = dataPhase c.events ++
        .queue (cswBytes c.cbw.tag (residue c.cbw (dataPhase c.events)) .failed) :: post ∧
      inBytes post <+: cswBytes c.cbw.tag (residue c.cbw (dataPhase c.events)) .failed ∧
      inBytes (dataPhase c.events) ++ failAfterDataRun.world.dev.buf.content =
        c.leftover ++ suppliedBytes (dataPhase c.events) :=
  have h : Reachable failAfterDataRun.world :=
    ((startState_reachable Scsi.parseCb (by decide) (by decide) (by decide) _ _).run _).reachable
      (by decide)
  ⟨h, by decide, setStatus_drops_queued_data h (by decide) (by decide) (.inr rfl) (by decide)⟩

/-! ## `write_data` and the residue -/

/-- `write_data` caps what it takes by the residue, not by the residue less the bytes queued. -/
theorem writeData_queues_past_residue (hv : w.dev.buf.Valid)
    (hs : w.dev.state = .dataTransferToHost) (hcs : w.dev.cs = none) {src : List UInt8}
    (hsrc : w.dev.cbw.dataTransferLen ≤ src.length)
    (hroom : w.dev.buf.availableRead + w.dev.cbw.dataTransferLen ≤ w.dev.buf.inner.length) :
    (writeData w src).world.dev.buf.availableRead =
        w.dev.buf.availableRead + w.dev.cbw.dataTransferLen ∧
      (writeData w src).world.dev.state = .dataTransferToHost ∧
      (writeData w src).world.dev.cbw = w.dev.cbw := by
  rw [writeData_eq hs hcs, min_eq_right hsrc]
  obtain ⟨hk, hv', -, hc⟩ := hv.write (src.take w.dev.cbw.dataTransferLen)
  rw [List.length_take_of_le hsrc, min_eq_right (by omega)] at hk
  refine ⟨?_, hs, rfl⟩
  simp only [World.emit_dev, World.setBuf_dev]
  rw [← hv'.length_content, hc, List.length_append, hv.length_content, hk, List.take_take,
    min_self, List.length_take_of_le hsrc]

def doubleWriteRun : PollState ScsiCommand :=
  pollRun Scsi.parseCb [.poll, .writeData (List.replicate 16 0xFF)]
    (startState 32 64 [.accept] [.packet (hostCbwBytes 4 16 0x80 0 read10Block)])

theorem doubleWriteRun_queues_past_residue :
    PollReachable Scsi.parseCb doubleWriteRun ∧ doubleWriteRun.world.dev.cbw.dataTransferLen = 16 ∧
      (writeData doubleWriteRun.world (List.replicate 16 0xEE)).world.dev.buf.availableRead =
        doubleWriteRun.world.dev.buf.availableRead + doubleWriteRun.world.dev.cbw.dataTransferLen ∧
      (writeData doubleWriteRun.world (List.replicate 16 0xEE)).world.dev.state =
        .dataTransferToHost ∧
      (writeData doubleWriteRun.world (List.replicate 16 0xEE)).world.dev.cbw =
        doubleWriteRun.world.dev.cbw :=
  ⟨(startState_reachable _ (by decide) (by decide) (by decide) _ _).run _, by decide,
    writeData_queues_past_residue (by decide) (by decide) (by decide) (by decide) (by decide)⟩

example : (pollRun Scsi.parseCb [.writeData (List.replicate 16 0xEE), .finish none]
    doubleWriteRun).world.trace.commands.map (fun c => inBytes c.events) =
      [List.replicate 16 0xFF ++ List.replicate 16 0xEE] := by
  decide

/-! ## A status latched over unread OUT bytes -/

/-- `check_end_data_transfer` waits for the IO buffer to empty, and only `read_data` empties it. -/
theorem poll_stuck_with_unread_data (parseCb : List UInt8 → Option κ) (hi : w.dev.Inv)
    (hs : w.dev.state = .dataTransferFromHost) {st : CommandStatus} (hcs : w.dev.cs = some st)
    (hk : 0 < w.dev.buf.availableRead) :
    read w = ⟨w, .ok ()⟩ ∧ write w = ⟨w, .ok ()⟩ ∧
      ∀ n, pollRun parseCb (List.replicate n .poll) ⟨w, .outside⟩ = ⟨w, .outside⟩ := by
  have hread : read w = ⟨w, .ok ()⟩ := by
    simp [read, hs, handleReadFromHost, BulkOnly.statusPresent, hcs, checkEndDataTransfer,
      hk.ne']
  have hwrite : write w = ⟨w, .ok ()⟩ := by simp [write, hs]
  obtain ⟨cb, hcb⟩ : ∃ cb, w.dev.getCommand = .ok (some cb) := by
    have hne := hi.getCommand_ne_panic
    simp only [BulkOnly.getCommand, hs] at hne ⊢
    split at hne
    · exact ⟨_, if_pos ‹_›⟩
    · exact absurd rfl hne
  have hpoll : pollStep parseCb .poll ⟨w, .outside⟩ = ⟨w, .outside⟩ := by
    simp [pollStep, pollEntry, mapIgnore, hread, hwrite, hcb, BulkOnly.hasStatus,
      BulkOnly.statusPresent, hcs]
  refine ⟨hread, hwrite, fun n => ?_⟩
  induction n with
  | zero => rfl
  | succ n ih =>
    show pollRun parseCb (List.replicate n .poll) (pollStep parseCb .poll ⟨w, .outside⟩) = _
    rw [hpoll, ih]

def unreadDataRun : PollState ScsiCommand :=
  pollRun Scsi.parseCb [.poll, .finish none, .poll, .finish (some .passed)]
    (startState 32 64 [.accept]
      [.packet (hostCbwBytes 5 16 0x00 0 write10Block), .packet (List.replicate 16 0xAA)])

theorem unreadDataRun_stuck :
    PollReachable Scsi.parseCb unreadDataRun ∧ unreadDataRun = ⟨unreadDataRun.world, .outside⟩ ∧
      unreadDataRun.world.dev.cs = some .passed ∧
      (read unreadDataRun.world = ⟨unreadDataRun.world, .ok ()⟩ ∧
        write unreadDataRun.world = ⟨unreadDataRun.world, .ok ()⟩ ∧
        ∀ n, pollRun Scsi.parseCb (List.replicate n .poll) ⟨unreadDataRun.world, .outside⟩ =
          ⟨unreadDataRun.world, .outside⟩) :=
  have h : PollReachable Scsi.parseCb unreadDataRun :=
    (startState_reachable _ (by decide) (by decide) (by decide) _ _).run _
  ⟨h, by decide, by decide, poll_stuck_with_unread_data _
    (inv_of_reachable (h.reachable (by decide))) (by decide)
    (by decide : unreadDataRun.world.dev.cs = some .passed) (by decide)⟩

end UsbdStorage
