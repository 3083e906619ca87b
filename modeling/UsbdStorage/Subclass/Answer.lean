import UsbdStorage.Subclass.Drain
import UsbdStorage.Subclass.Receive
import UsbdStorage.Subclass.Panics

/-!
# A command answered at once

The life of a command the application answers without moving data: the host sends the
wrapper, `poll` hands its block to the callback, the callback returns through `pass`, `fail`
or `fail_phase`, and the polls after it flush the CSW.  Whatever the status and the data
direction, the transport ends the data phase on the world with the status latched:
`set_status` itself for `Failed` and `PhaseError`, the `write` after the callback for
data-in and no-data, the `read` after it for data-out.  One flush argument then covers every
case (`finishWith_drains`).  While the host sends nothing more and its IN endpoint takes
every packet, the command is closed within thirteen polls, with the CSW of its tag, its whole
transfer length as residue and its status, all of it sent (`poll_answers_at_once`).
-/

namespace UsbdStorage

variable {κ : Type} {w : World}

/-! ## Back from the callback -/

theorem mapIgnore_outside {α : Type} {c : Call α} (hc : c.outcome ≠ .panic) :
    mapIgnore c (fun w => (⟨w, .outside⟩ : PollState κ)) = ⟨c.world, .outside⟩ := by
  unfold mapIgnore
  split
  · contradiction
  · split <;> rfl
  · rfl

theorem afterCallback_of_write_ok {kind : κ} {lun : Nat} (hw : (write w).outcome = .ok ()) :
    afterCallback kind lun w = ⟨(read (write w).world).world, .outside⟩ := by
  have e : write w = ⟨(write w).world, .ok ()⟩ := by rw [← hw]
  rw [afterCallback, e]
  exact (mapIgnore_ok _ _ _).trans (mapIgnore_outside read_ne_panic)

/-! ## Nothing more from the host -/

theorem readPacket_nothing (hv : w.dev.buf.Valid) (hout : w.bus.outAnswers = []) :
    ∃ buf e, readPacket w = ⟨w.setBuf buf, .err e⟩ := by
  by_cases hroom : w.dev.packetSize ≤ w.dev.buf.inner.length - w.dev.buf.availableRead
  · rw [readPacket, Buffer.writeAll_room hv _ _ _ hroom]
    simp only [outEpRead, hout, if_true, Nat.zero_min]
    exact ⟨_, _, rfl⟩
  · exact ⟨_, _, readPacket_overflow hv (by omega)⟩

theorem read_idle_nothing (hv : w.dev.buf.Valid) (hs : w.dev.state = .idle)
    (hout : w.bus.outAnswers = []) : ∃ buf e, read w = ⟨w.setBuf buf, .err e⟩ := by
  obtain ⟨buf, e, he⟩ := readPacket_nothing hv hout
  exact ⟨buf, e, by simp only [read, hs, handleReadCbw, he, Call.andThen_err]⟩

/-! ## The flush, step by step -/

section Flush

variable {Q : World} {c : CommandLog} {j : Nat}

theorem Drains.then_read (h : Drains Q w c j) (hv : w.dev.buf.Valid)
    (hs : w.dev.state = .statusTransfer ∨ w.dev.state = .idle) (hout : w.bus.outAnswers = []) :
    Drains Q (read w).world c j := by
  rcases hs with hs | hs
  · simpa only [read, hs] using h
  · obtain ⟨buf, e, he⟩ := read_idle_nothing hv hs hout
    rw [he]
    rcases h.next with ⟨hf, -⟩ | hidle
    · exact absurd hs hf.ne_idle
    · exact ⟨h.answers, h.le, .inr hidle⟩

theorem Drains.then_write (h : Drains Q w c j) (hi : w.dev.Inv) (ht : Tracks w.dev w.trace)
    (hs : w.dev.state = .statusTransfer ∨ w.dev.state = .idle)
    (hacc : List.replicate Q.dev.toSend .accept <+: Q.bus.inAnswers) :
    (write w).outcome = .ok () ∧ ∃ j', Drains Q (write w).world c j' := by
  rcases hs with hs | hs
  · obtain ⟨-, hle, -, c', hc', -⟩ := h.next.resolve_right fun h' => nomatch hs.symm.trans h'.1
    obtain ⟨hok, hdr⟩ := statusTransfer_drains hi ht hs hc' (h.accepts hacc hle)
    simp only [write, hs]
    exact ⟨hok, _, h.trans hc' hdr⟩
  · have hw : write w = ⟨w, .ok ()⟩ := by simp [write, hs]
    rw [hw]
    exact ⟨rfl, j, h⟩

end Flush

theorem write_flushing (hi : w.dev.Inv)
    (hs : w.dev.state = .statusTransfer ∨ w.dev.state = .idle) :
    ((write w).world.dev.state = .statusTransfer ∨ (write w).world.dev.state = .idle) ∧
      (write w).world.bus.outAnswers = w.bus.outAnswers := by
  rcases hs with hs | hs
  · simp only [write, hs]
    exact ⟨handleWriteCsw_state hi hs, handleWriteCsw_outAnswers hi.valid hi.packetSize_pos⟩
  · simp [write, hs]

theorem endDataTransfer_outAnswers (hi : w.dev.Inv) (hd : w.dev.state.isDataTransfer)
    {st : CommandStatus} (hcs : w.dev.cs = some st) :
    (endDataTransfer w).world.bus.outAnswers = w.bus.outAnswers := by
  have hq := queueCsw_inv hi hd hcs
  rw [endDataTransfer_eq hcs, handleWriteCsw_outAnswers hq.valid hq.packetSize_pos]
  simp [queueCsw]

theorem CommandLog.CswSent.of_prefix {c : CommandLog} (h : c.CswSent) (pre : List Event)
    {csw : List UInt8} (hpre : ∀ e ∈ pre, e.isQueue = false)
    (hp : pre ++ [.queue csw] <+: c.events) :
    ∃ post, c.events = pre ++ .queue csw :: post ∧ inBytes post = csw := by
  obtain ⟨csw', post, hev, hin⟩ := h
  obtain ⟨rest, hrest⟩ := hp
  rw [← hrest, List.append_assoc, List.singleton_append, dataPhase_queue hpre] at hev
  obtain ⟨rfl, rfl⟩ : csw = csw' ∧ rest = post := by simpa using hev
  exact ⟨rest, by rw [← hrest, List.append_assoc, List.singleton_append], hin⟩

/-! ## The callback returns a status -/

theorem finishWith_drains (hr : Reachable w) (hd : w.dev.state.isDataTransfer)
    (hnone : w.dev.cs = none) (h0 : w.dev.buf.availableRead = 0) (hout : w.bus.outAnswers = [])
    {c : CommandLog} (hc : w.trace.current = some c)
    (hacc : List.replicate cswLen .accept <+: w.bus.inAnswers) (kind : κ) (lun : Nat)
    (st : CommandStatus) :
    ∃ F, finishWith kind lun (setStatus w st) = ⟨F, .outside⟩ ∧ ∃ Q stalls j,
      (∀ e ∈ stalls, e.Quiet) ∧ Q.trace.done = w.trace.done ∧
      Q.bus.inAnswers = w.bus.inAnswers ∧ Q.dev.toSend ≤ cswLen ∧
      Q.trace.current = some { c with events := c.events ++ [.latch st] ++ stalls ++
        [.queue (cswBytes w.dev.cbw.tag w.dev.cbw.dataTransferLen st)] } ∧
      Drains Q F { c with events := c.events ++ [.latch st] ++ stalls ++
        [.queue (cswBytes w.dev.cbw.tag w.dev.cbw.dataTransferLen st)] } j := by
  have hi := inv_of_reachable hr
  have ht := tracks_of_reachable hr
  obtain ⟨c₀, hc₀, hserve⟩ := ht.serving hd
  obtain rfl := Option.some.inj (hc.symm.trans hc₀)
  -- the world `set_status` latches the status in
  obtain ⟨W₁, hW₁⟩ : ∃ W₁, W₁ = ({ w with dev := { w.dev with cs := some st } } : World).emit
      (.latch st) := ⟨_, rfl⟩
  have hi₁ : W₁.dev.Inv := hW₁ ▸ hi.of_dataTransfer rfl hd rfl rfl hi.valid (hi.wellFormed hd)
    hi.noData
  have hd₁ : W₁.dev.state = w.dev.state := by simp [hW₁]
  have hcs₁ : W₁.dev.cs = some st := by simp [hW₁]
  have h0₁ : W₁.dev.buf.availableRead = 0 := by simp [hW₁, h0]
  have hc₁ : W₁.trace.current = some { c with events := c.events ++ [.latch st] } := by
    simp [hW₁, hc]
  have hend₁ : Ending W₁.dev { c with events := c.events ++ [.latch st] } :=
    hW₁ ▸ (hserve.latch hnone { w.dev with cs := some st } rfl rfl rfl rfl rfl).ending
  have hts₁ : W₁.dev.toSend = cswLen := by
    cases hs : w.dev.state <;> simp_all [BulkOnly.toSend, State.isDataTransfer]
  have hacc₁ : List.replicate W₁.dev.toSend .accept <+: W₁.bus.inAnswers := by
    rw [hts₁, hW₁]
    exact hacc
  obtain ⟨hok, Q, stalls, hq, hQ, hQc, hE⟩ := endDataTransfer_queued hi₁ (hd₁ ▸ hd) hcs₁ hc₁
    hend₁ hts₁ (head_of_accepts hacc₁ (by rw [hts₁]; decide))
  obtain ⟨-, hQs, hQd, -⟩ := hQ.next.resolve_right fun h => by rw [hQc] at h; cases h.2.1
  have hcbw : W₁.dev.cbw = w.dev.cbw := by simp [hW₁]
  rw [hcbw] at hQc hE
  have hQfacts : Q.trace.done = w.trace.done ∧ Q.bus.inAnswers = w.bus.inAnswers ∧
      Q.dev.toSend ≤ cswLen :=
    ⟨by simp [hQd, hW₁], by simp [hQ.answers, hW₁], by omega⟩
  have haccQ := hQ.accepts hacc₁ (by omega)
  -- the world `end_data_transfer` leaves on the latched one
  have hiE := endDataTransfer_inv hi₁ (hd₁ ▸ hd) hcs₁
  have hsE := endDataTransfer_state hi₁ (hd₁ ▸ hd) hcs₁
  have houtE : (endDataTransfer W₁).world.bus.outAnswers = [] := by
    rw [endDataTransfer_outAnswers hi₁ (hd₁ ▸ hd) hcs₁, hW₁]
    exact hout
  have hE' : endDataTransfer W₁ = ⟨(endDataTransfer W₁).world, .ok ()⟩ := by rw [← hok]
  by_cases hfail : st = .phaseError ∨ st = .failed
  · -- `set_status` ends the data transfer, and the `write` after the callback goes on
    have htE : Tracks (endDataTransfer W₁).world.dev (endDataTransfer W₁).world.trace :=
      tracks_endDataTransfer hi₁ (hd₁ ▸ hd) hcs₁ (by simpa [hW₁] using ht.done) hc₁ hend₁
    obtain ⟨hwE, j', hdrW⟩ := hE.then_write hiE htE hsE haccQ
    obtain ⟨hsW, houtW⟩ := write_flushing hiE hsE
    have hset : setStatus w st = ⟨(endDataTransfer W₁).world, .ok ()⟩ := by
      rw [setStatus_eq, if_pos hfail, ← hW₁, hE']
    refine ⟨_, by rw [hset]; exact afterCallback_of_write_ok hwE, Q, stalls, j', hq, hQfacts.1,
      hQfacts.2.1, hQfacts.2.2, hQc, hdrW.then_read (write_inv hiE).valid hsW (houtW.trans houtE)⟩
  · -- `pass`: the `write` after the callback, or the `read` after it, ends the data transfer
    have hfin : finishWith kind lun (setStatus w st) = afterCallback kind lun W₁ := by
      rw [setStatus_eq, if_neg hfail, ← hW₁]
      rfl
    by_cases hfh : w.dev.state = .dataTransferFromHost
    · have hw : write W₁ = ⟨W₁, .ok ()⟩ := by simp [write, hd₁, hfh]
      refine ⟨_, ?_, Q, stalls, 1, hq, hQfacts.1, hQfacts.2.1, hQfacts.2.2, hQc, hE⟩
      rw [hfin, afterCallback_of_write_ok (by rw [hw]), hw,
        read_ends (hd₁.trans hfh) (by simp [hcs₁]) h0₁]
    · have hw : write W₁ = endDataTransfer W₁ := write_ends (by
          cases hs : w.dev.state <;> simp_all [State.isDataTransfer]) (by simp [hcs₁]) h0₁
      refine ⟨_, ?_, Q, stalls, 1, hq, hQfacts.1, hQfacts.2.1, hQfacts.2.2, hQc,
        hE.then_read hiE.valid hsE houtE⟩
      rw [hfin, afterCallback_of_write_ok (by rw [hw, hok]), hw]

/-! ## The whole command -/

variable {b : List UInt8} {qs : List (List UInt8)}

theorem poll_answers_at_once {parseCb : List UInt8 → Option κ}
    (h : PollReachable parseCb ⟨w, .outside⟩)
    (hs : w.dev.state = .idle ∨ w.dev.state = .commandTransfer)
    (hlen : b.length = cbwLen) {c : CommandBlockWrapper} (hc : wireCbw b = some c)
    (hb : w.dev.buf.content ++ qs.flatten = b) (hout : w.bus.outAnswers = qs.map .packet)
    (hq : ∀ q ∈ qs, 0 < q.length ∧ q.length ≤ w.dev.packetSize)
    (hroom : (w.dev.buf.content ++ qs.dropLast.flatten).length + w.dev.packetSize ≤
      w.dev.buf.inner.length)
    {kind : κ} (hk : parseCb ((b.drop 15).take (b.getD 14 0).toNat) = some kind)
    (hacc : List.replicate cswLen .accept <+: w.bus.inAnswers) (st : CommandStatus) :
    ∃ n ≤ cswLen,
      (pollRun parseCb (List.replicate qs.length .poll ++ .finish (some st) ::
          List.replicate n .poll) ⟨w, .outside⟩).phase = .outside ∧
      (pollRun parseCb (List.replicate qs.length .poll ++ .finish (some st) ::
          List.replicate n .poll) ⟨w, .outside⟩).world.dev.state = .idle ∧
      ∃ c' stalls post, (pollRun parseCb (List.replicate qs.length .poll ++
          .finish (some st) :: List.replicate n .poll) ⟨w, .outside⟩).world.trace.done =
          w.trace.done ++ [c'] ∧ c'.cbw = c ∧
        c'.events = .latch st :: stalls ++ .queue (cswBytes c.tag c.dataTransferLen st) :: post ∧
        (∀ e ∈ stalls, e.Quiet) ∧ inBytes post = cswBytes c.tag c.dataTransferLen st := by
  obtain ⟨W, hW, hrcv, hrest⟩ := h.receives hs hlen hc hb (by rw [hout, List.append_nil]) hq
    hroom hk
  obtain rfl := hrcv.cbw
  have hcb := hW ▸ h.run (List.replicate qs.length .poll)
  obtain ⟨hrW, hready⟩ := hcb.sound nofun
  obtain ⟨hd, hnone⟩ := hready _ _ rfl
  obtain ⟨before, hcur⟩ := hrcv.current
  obtain ⟨F, hF, Q, stalls, j, hquiet, hQd, hQa, hQs, hQc, hdr⟩ := finishWith_drains hrW hd hnone
    hrcv.empty hrest hcur (by rw [hrcv.inAnswers]; exact hacc) kind _ st
  have haccQ : List.replicate Q.dev.toSend .accept <+: Q.bus.inAnswers := by
    simpa using accepts_drop (hQa.trans hrcv.inAnswers ▸ hacc) (i := Q.dev.toSend) (j := 0) hQs
  have hstep : pollStep parseCb (.finish (some st))
      ⟨W, .callback kind ((b.getD 13 0).toNat % 16)⟩ = ⟨F, .outside⟩ := hF
  obtain ⟨n, hn, hph, hidle, c', hdone, hext, hsent⟩ := hdr.run (hstep ▸ hcb.step _) haccQ
  obtain ⟨post, hev, hin⟩ := hsent.of_prefix (.latch st :: stalls)
    (by simpa [Event.isQueue] using fun e he => (hquiet e he).isQueue) (by simpa using hext.2.2)
  have hrun : pollRun parseCb (.finish (some st) :: List.replicate n .poll)
      ⟨W, .callback kind ((b.getD 13 0).toNat % 16)⟩ =
        pollRun parseCb (List.replicate n .poll) ⟨F, .outside⟩ := by
    rw [← hstep]
    rfl
  refine ⟨n, by omega, ?_⟩
  rw [pollRun_append, hW, hrun]
  exact ⟨hph, hidle, c', stalls, post, by rw [hdone, hQd, hrcv.done], hext.1, hev, hquiet, hin⟩

def turAnswerStart : PollState ScsiCommand :=
  startState 32 32 (List.replicate cswLen .accept) [.packet (hostCbwBytes 7 0 0 0 testUnitReadyBlock)]

theorem turAnswerStart_answers_at_once :
    PollReachable Scsi.parseCb turAnswerStart ∧ turAnswerStart.world.dev.state = .idle ∧
      (hostCbwBytes 7 0 0 0 testUnitReadyBlock).length = cbwLen ∧
      wireCbw (hostCbwBytes 7 0 0 0 testUnitReadyBlock) =
        some ⟨7, 0, .notExpected, 0, 6, testUnitReadyBlock ++ List.replicate 10 0⟩ ∧
      turAnswerStart.world.dev.buf.content ++ [hostCbwBytes 7 0 0 0 testUnitReadyBlock].flatten =
        hostCbwBytes 7 0 0 0 testUnitReadyBlock ∧
      (∀ q ∈ [hostCbwBytes 7 0 0 0 testUnitReadyBlock],
        0 < q.length ∧ q.length ≤ turAnswerStart.world.dev.packetSize) ∧
      (turAnswerStart.world.dev.buf.content ++
          [hostCbwBytes 7 0 0 0 testUnitReadyBlock].dropLast.flatten).length +
        turAnswerStart.world.dev.packetSize ≤ turAnswerStart.world.dev.buf.inner.length ∧
      Scsi.parseCb (((hostCbwBytes 7 0 0 0 testUnitReadyBlock).drop 15).take
        ((hostCbwBytes 7 0 0 0 testUnitReadyBlock).getD 14 0).toNat) = some .testUnitReady ∧
      List.replicate cswLen .accept <+: turAnswerStart.world.bus.inAnswers ∧
      ∃ n ≤ cswLen,
        (pollRun Scsi.parseCb (List.replicate 1 .poll ++ .finish (some .passed) ::
            List.replicate n .poll) turAnswerStart).phase = .outside ∧
        (pollRun Scsi.parseCb (List.replicate 1 .poll ++ .finish (some .passed) ::
            List.replicate n .poll) turAnswerStart).world.dev.state = .idle ∧
        ∃ c' stalls post, (pollRun Scsi.parseCb (List.replicate 1 .poll ++
            .finish (some .passed) :: List.replicate n .poll) turAnswerStart).world.trace.done =
            turAnswerStart.world.trace.done ++ [c'] ∧
          c'.cbw = ⟨7, 0, .notExpected, 0, 6, testUnitReadyBlock ++ List.replicate 10 0⟩ ∧
          c'.events = .latch .passed :: stalls ++ .queue (cswBytes 7 0 .passed) :: post ∧
          (∀ e ∈ stalls, e.Quiet) ∧ inBytes post = cswBytes 7 0 .passed :=
  have h : PollReachable Scsi.parseCb turAnswerStart :=
    startState_reachable _ (by decide) (by decide) (by decide) _ _
  have hc : wireCbw (hostCbwBytes 7 0 0 0 testUnitReadyBlock) =
      some ⟨7, 0, .notExpected, 0, 6, testUnitReadyBlock ++ List.replicate 10 0⟩ := by decide
  have hk : Scsi.parseCb (((hostCbwBytes 7 0 0 0 testUnitReadyBlock).drop 15).take
      ((hostCbwBytes 7 0 0 0 testUnitReadyBlock).getD 14 0).toNat) = some .testUnitReady := by
    decide
  ⟨h, rfl, rfl, hc, by decide, by decide, by decide, hk, by decide,
    poll_answers_at_once (w := turAnswerStart.world) (b := hostCbwBytes 7 0 0 0 testUnitReadyBlock)
      h (.inl rfl) rfl hc (by decide) (show _ = [hostCbwBytes 7 0 0 0 testUnitReadyBlock].map
        OutAnswer.packet from rfl) (by decide) (by decide) hk (by decide) .passed⟩

end UsbdStorage
