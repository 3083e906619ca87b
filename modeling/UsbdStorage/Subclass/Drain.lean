import UsbdStorage.Subclass.Callback
import UsbdStorage.Transport.Delivery

/-!
# The status leaves

Once a status is latched and the application has nothing left to read, `poll` calls the
application no more: each poll drives the transport alone, `read` then `write`.  `write`
sends what is queued for the host; `end_data_transfer` then queues the CSW and flushes it
packet by packet.  While the IN endpoint takes every packet, each poll sends at least one
byte, so within `toSend` polls the transport is back in `Idle`, having closed the command it
served with its whole CSW sent (`poll_drains_status`).  A data-out command whose bytes the
application has not read is left out: `check_end_data_transfer` waits for the buffer to
empty and nothing empties it (`poll_stuck_with_unread_data`).
-/

namespace UsbdStorage

/-! ## Commands served further -/

/-- `c'` is `c` served further: the same wrapper, the same bytes before it, more events. -/
def CommandLog.Extends (c c' : CommandLog) : Prop :=
  c'.cbw = c.cbw ∧ c'.before = c.before ∧ c.events <+: c'.events

theorem CommandLog.Extends.trans {c₁ c₂ c₃ : CommandLog} (h₁ : c₁.Extends c₂)
    (h₂ : c₂.Extends c₃) : c₁.Extends c₃ :=
  ⟨h₂.1.trans h₁.1, h₂.2.1.trans h₁.2.1, h₁.2.2.trans h₂.2.2⟩

theorem CommandLog.extends_append (c : CommandLog) (es : List Event) :
    c.Extends { c with events := c.events ++ es } :=
  ⟨rfl, rfl, List.prefix_append _ _⟩

/-! ## The states that only flush -/

/-- A status is latched and the application has nothing left to read: the CSW is on its way,
or waits behind the data queued for the host. -/
def BulkOnly.Finishing (d : BulkOnly) : Prop :=
  d.state = .statusTransfer ∨
    d.cs.isSome ∧ (d.state = .dataTransferToHost ∨ d.state = .dataTransferNoData ∨
      d.state = .dataTransferFromHost ∧ d.buf.availableRead = 0)

instance (d : BulkOnly) : Decidable d.Finishing := inferInstanceAs (Decidable (_ ∨ _))

/-- The bytes the IN endpoint has still to take: the rest of the CSW, after the data queued
for the host. -/
def BulkOnly.toSend (d : BulkOnly) : Nat :=
  match d.state with
  | .statusTransfer => d.buf.availableRead
  | .dataTransferToHost => d.buf.availableRead + cswLen
  | _ => cswLen

theorem BulkOnly.Finishing.hasStatus {d : BulkOnly} (hf : d.Finishing) (hi : d.Inv) :
    d.hasStatus = true := by
  rcases hf with hs | ⟨hcs, -⟩
  · have hst := hi.state
    rw [hs] at hst
    obtain ⟨-, st, hcs, -⟩ := hst
    simp [BulkOnly.hasStatus, BulkOnly.statusPresent, hcs]
  · exact hcs

/-- What a call does to the flush of `c`'s status, taking `j` answers of the IN endpoint:
the transport still flushes, with `j` bytes fewer at least to send, or it is back in `Idle`
with `c` closed and its whole CSW sent. -/
structure Drains (w w' : World) (c : CommandLog) (j : Nat) : Prop where
  answers : w'.bus.inAnswers = w.bus.inAnswers.drop j
  le : j ≤ w.dev.toSend
  next : (w'.dev.Finishing ∧ w'.dev.toSend + j ≤ w.dev.toSend ∧ w'.trace.done = w.trace.done ∧
      ∃ c', w'.trace.current = some c' ∧ c.Extends c') ∨
    (w'.dev.state = .idle ∧ w'.trace.current = none ∧
      ∃ c', w'.trace.done = w.trace.done ++ [c'] ∧ c.Extends c' ∧ c'.CswSent)

variable {w : World}

theorem Drains.trans {w₁ w₂ : World} {c c₁ : CommandLog} {j₁ j₂ : Nat} (h₁ : Drains w w₁ c j₁)
    (hc₁ : w₁.trace.current = some c₁) (h₂ : Drains w₁ w₂ c₁ j₂) : Drains w w₂ c (j₁ + j₂) := by
  obtain ⟨ha₁, hle₁, ⟨-, hs₁, hd₁, c', hc', hx₁⟩ | ⟨-, hnone, -⟩⟩ := h₁
  · rw [hc₁, Option.some_inj] at hc'
    subst hc'
    obtain ⟨ha₂, hle₂, hnext⟩ := h₂
    refine ⟨by rw [ha₂, ha₁, List.drop_drop], by omega, ?_⟩
    rcases hnext with ⟨hf₂, hs₂, hd₂, c'', hc'', hx₂⟩ | ⟨hidle, hnone, c'', hd₂, hx₂, hsent⟩
    · exact .inl ⟨hf₂, by omega, hd₂.trans hd₁, c'', hc'', hx₁.trans hx₂⟩
    · exact .inr ⟨hidle, hnone, c'', by rw [hd₂, hd₁], hx₁.trans hx₂, hsent⟩
  · rw [hnone] at hc₁
    cases hc₁

theorem BulkOnly.Finishing.ne_idle {d : BulkOnly} (hf : d.Finishing) : d.state ≠ .idle := by
  rcases hf with hs | ⟨-, hs | hs | ⟨hs, -⟩⟩ <;> rw [hs] <;> nofun

theorem Drains.refl (hf : w.dev.Finishing) {c : CommandLog} (hc : w.trace.current = some c) :
    Drains w w c 0 :=
  ⟨rfl, Nat.zero_le _, .inl ⟨hf, le_rfl, rfl, c, hc, rfl, rfl, List.prefix_refl _⟩⟩

theorem Drains.closed {w' : World} {c : CommandLog} {j : Nat} (h : Drains w w' c j)
    (hidle : w'.dev.state = .idle) :
    ∃ c', w'.trace.done = w.trace.done ++ [c'] ∧ c.Extends c' ∧ c'.CswSent := by
  rcases h.next with ⟨hf, -⟩ | ⟨-, -, hc'⟩
  · exact absurd hidle hf.ne_idle
  · exact hc'

/-! ## The IN endpoint takes every packet -/

section Accepting

variable {k i j : Nat} {l : List InAnswer}

theorem head_drop_of_accepts (h : List.replicate k .accept <+: l) (hi : i < k) :
    (l.drop i).head? = some .accept := by
  obtain ⟨t, rfl⟩ := h
  rw [List.head?_drop, List.getElem?_append_left (by simpa using hi),
    List.getElem?_replicate_of_lt hi]

theorem accepts_drop (h : List.replicate k .accept <+: l) (hj : i + j ≤ k) :
    List.replicate i .accept <+: l.drop j := by
  obtain ⟨t, rfl⟩ := h
  rw [List.drop_append_of_le_length (by simp; omega), List.drop_replicate]
  refine ⟨List.replicate (k - j - i) .accept ++ t, ?_⟩
  rw [← List.append_assoc, ← List.replicate_add]
  congr 2
  omega

theorem head_of_accepts (h : List.replicate k .accept <+: l) (hk : 0 < k) :
    l.head? = some .accept := by
  simpa using head_drop_of_accepts h hk

theorem Drains.accepts {w' : World} {c : CommandLog} (h : Drains w w' c j)
    (hacc : List.replicate w.dev.toSend .accept <+: w.bus.inAnswers)
    (hle : w'.dev.toSend + j ≤ w.dev.toSend) :
    List.replicate w'.dev.toSend .accept <+: w'.bus.inAnswers := by
  rw [h.answers]
  exact accepts_drop hacc hle

end Accepting

/-! ## One call -/

theorem handleWriteCsw_drains (hi : w.dev.Inv) (hs : w.dev.state = .statusTransfer)
    {c : CommandLog} (hc : w.trace.current = some c) (hsend : Sending w.dev c)
    (hacc : w.bus.inAnswers.head? = some .accept) :
    (handleWriteCsw w).outcome = .ok () ∧ Drains w (handleWriteCsw w).world c 1 := by
  have hk : 0 < w.dev.buf.availableRead := by
    rw [← hi.valid.length_content, List.length_pos]
    exact hi.statusTransfer_content hs
  have hok : (handleWriteCsw w).outcome = .ok () := handleWriteCsw_ok_iff.mpr
    ((writePacket_ok_iff hi.valid hi.packetSize_pos hk).mpr hacc)
  obtain ⟨-, -, ⟨e, he, -⟩ | ⟨n, -, hn, hnm, hlt, heq⟩⟩ :=
    handleWriteCsw_spec hi.valid hi.packetSize_pos
  · rw [hok] at he
    cases he
  have hle : n ≤ w.dev.buf.availableRead := hnm ▸ min_le_right _ _
  have hts : w.dev.toSend = w.dev.buf.availableRead := by simp [BulkOnly.toSend, hs]
  have hsent := hsend.sent hi.valid hle
  refine ⟨hok, ⟨by rw [handleWriteCsw_inAnswers, writePacket_inAnswers hi.valid hk], by omega, ?_⟩⟩
  rcases Nat.lt_or_eq_of_le hle with hlt' | heq'
  · obtain ⟨hd, htr⟩ := hlt hlt'
    have hav : (handleWriteCsw w).world.dev.buf.availableRead = w.dev.buf.availableRead - n := by
      simp only [hd, Buffer.availableRead]
      omega
    refine .inl ⟨by rw [hd]; exact .inl hs, ?_, by rw [htr, Trace.emit_done],
      _, by rw [htr, Trace.emit_of_current _ _ hc], c.extends_append _⟩
    have hs' : (handleWriteCsw w).world.dev.state = .statusTransfer := by rw [hd]; exact hs
    simp only [BulkOnly.toSend, hs', hs, hav]
    omega
  · obtain ⟨hd, htr⟩ := heq heq'
    refine .inr ⟨by rw [hd]; rfl, by rw [htr]; rfl, _,
      by rw [htr, Trace.emit_of_current _ _ hc]; rfl, c.extends_append _, hsent.cswSent ?_⟩
    rw [(hi.valid.consume hle).2, heq', ← hi.valid.length_content, List.drop_length]

theorem endDataTransfer_queued (hi : w.dev.Inv) (hd : w.dev.state.isDataTransfer)
    {st : CommandStatus} (hcs : w.dev.cs = some st) {c : CommandLog}
    (hc : w.trace.current = some c) (hend : Ending w.dev c) (hts : w.dev.toSend = cswLen)
    (hacc : w.bus.inAnswers.head? = some .accept) :
    (endDataTransfer w).outcome = .ok () ∧ ∃ Q stalls, (∀ e ∈ stalls, e.Quiet) ∧ Drains w Q c 0 ∧
      Q.trace.current = some { c with events := c.events ++ stalls ++
        [.queue (cswBytes w.dev.cbw.tag w.dev.cbw.dataTransferLen st)] } ∧
      Drains Q (endDataTransfer w).world { c with events := c.events ++ stalls ++
        [.queue (cswBytes w.dev.cbw.tag w.dev.cbw.dataTransferLen st)] } 1 := by
  have hfit : (cswBytes w.dev.cbw.tag w.dev.cbw.dataTransferLen st).length ≤
      (stallOnResidue w).dev.buf.inner.length := by
    rw [length_cswBytes, stallOnResidue_dev]
    exact le_trans (by decide) hi.cbw_fits
  obtain ⟨hqs, -, hqv, -, hqc, hqbus, -⟩ := queueCsw_spec (stallOnResidue w) _ hfit
  obtain ⟨stalls, hquiet, -, hcur, hdone, hsend⟩ := queueCsw_sending hi hd hcs hc hend
  have hqa : (queueCsw (stallOnResidue w)
      (cswBytes w.dev.cbw.tag w.dev.cbw.dataTransferLen st)).bus.inAnswers = w.bus.inAnswers := by
    rw [hqbus, stallOnResidue_inAnswers]
  obtain ⟨hok, hdr⟩ := handleWriteCsw_drains (queueCsw_inv hi hd hcs) hqs hcur hsend (hqa ▸ hacc)
  have hq : Drains w (queueCsw (stallOnResidue w)
      (cswBytes w.dev.cbw.tag w.dev.cbw.dataTransferLen st)) c 0 := by
    refine ⟨hqa, Nat.zero_le _, .inl ⟨.inl hqs, ?_, hdone, _, hcur, ⟨rfl, rfl, ?_⟩⟩⟩
    · rw [hts, Nat.add_zero]
      simp only [BulkOnly.toSend, hqs]
      rw [← hqv.length_content, hqc, length_cswBytes]
    · rw [List.append_assoc]
      exact List.prefix_append _ _
  rw [endDataTransfer_eq hcs]
  exact ⟨hok, _, stalls, hquiet, hq, hcur, hdr⟩

theorem endDataTransfer_drains (hi : w.dev.Inv) (hd : w.dev.state.isDataTransfer)
    {st : CommandStatus} (hcs : w.dev.cs = some st) {c : CommandLog}
    (hc : w.trace.current = some c) (hend : Ending w.dev c) (hts : w.dev.toSend = cswLen)
    (hacc : w.bus.inAnswers.head? = some .accept) :
    (endDataTransfer w).outcome = .ok () ∧ Drains w (endDataTransfer w).world c 1 := by
  obtain ⟨hok, _, _, -, hq, hcur, hdr⟩ := endDataTransfer_queued hi hd hcs hc hend hts hacc
  exact ⟨hok, by simpa using hq.trans hcur hdr⟩

theorem handleWriteToHost_drains (hi : w.dev.Inv) (hs : w.dev.state = .dataTransferToHost)
    {st : CommandStatus} (hcs : w.dev.cs = some st) {c : CommandLog}
    (hc : w.trace.current = some c) (hserve : Serving w.dev c)
    (hacc : List.replicate w.dev.toSend .accept <+: w.bus.inAnswers) :
    (handleWriteToHost w).outcome = .ok () ∧
      ∃ j, 0 < j ∧ Drains w (handleWriteToHost w).world c j := by
  have hd : w.dev.state.isDataTransfer := by rw [hs]; rfl
  have hts : w.dev.toSend = w.dev.buf.availableRead + cswLen := by simp [BulkOnly.toSend, hs]
  have h13 : cswLen = 13 := rfl
  have hpres : w.dev.statusPresent = true := by simp [BulkOnly.statusPresent, hcs]
  unfold handleWriteToHost
  dsimp only
  rw [if_pos (by simp [hpres])]
  split
  · rename_i hk
    obtain ⟨-, -, -, ⟨n, hok, hn, hnm, hdev, htr⟩ | ⟨e, he, -⟩⟩ :=
      writePacket_spec hi.valid hi.packetSize_pos
    swap
    · obtain ⟨n, hn⟩ := (writePacket_ok_iff hi.valid hi.packetSize_pos hk).mpr
        (head_of_accepts hacc (by omega))
      rw [he] at hn
      cases hn
    simp only [Call.andThen, hok]
    have hle : n ≤ w.dev.buf.availableRead := hnm ▸ min_le_right _ _
    have hi₁ : (writePacket w).world.dev.Inv := hdev ▸ hi.of_dataTransfer rfl hd rfl rfl
      (hi.valid.consume hle).1 (hi.wellFormed hd) (by simp [hs])
    set w₂ := (writePacket w).world.setResidue ((writePacket w).world.dev.cbw.dataTransferLen - n)
    have hi₂ : w₂.dev.Inv := hi₁.setResidue (.inr (by rw [hdev]; exact hs)) _
    have hs₂ : w₂.dev.state = .dataTransferToHost := by simp [w₂, hdev, hs]
    have hcs₂ : w₂.dev.cs = some st := by simp [w₂, hdev, hcs]
    have hav₂ : w₂.dev.buf.availableRead = w.dev.buf.availableRead - n := by
      simp only [w₂, World.setResidue_dev, hdev, Buffer.availableRead]
      omega
    have hts₂ : w₂.dev.toSend = w.dev.buf.availableRead - n + cswLen := by
      simp [BulkOnly.toSend, hs₂, hav₂]
    obtain ⟨hend, -⟩ := hserve.inPacket hs hi.valid hle (fun _ h => by rw [hcs] at h; cases h)
      w₂.dev (by simp [w₂, hdev]) (by simp [w₂, hdev]) (by simp [w₂, hdev]) (by simp [w₂, hdev])
      (by simp [w₂, hdev]) (by simp [w₂, hdev, (hi.valid.consume hle).2])
    have hc₂ : w₂.trace.current =
        some { c with events := c.events ++ [.inPacket (w.dev.buf.content.take n)] } := by
      simp [w₂, htr, Trace.emit_of_current _ _ hc]
    have h₂ : Drains w w₂ c 1 :=
      ⟨by simp [w₂, writePacket_inAnswers hi.valid hk], by omega,
        .inl ⟨.inr ⟨by simp [hcs₂], .inl hs₂⟩, by omega, by simp [w₂, htr], _, hc₂,
          c.extends_append _⟩⟩
    rw [checkEndDataTransfer_eq]
    split
    · rename_i hover
      have h0 : w₂.dev.buf.availableRead = 0 := by
        rcases hover.2 with h | ⟨-, h⟩
        · rw [hs₂] at h
          cases h
        · exact h
      obtain ⟨hok₂, hdr⟩ := endDataTransfer_drains hi₂ (by rw [hs₂]; rfl) hcs₂ hc₂ hend
        (by omega) (by rw [h₂.answers]; exact head_drop_of_accepts hacc (by omega))
      exact ⟨hok₂, 2, by omega, h₂.trans hc₂ hdr⟩
    · exact ⟨rfl, 1, Nat.one_pos, h₂⟩
  · rename_i hk
    rw [checkEndDataTransfer_eq, if_pos ⟨hpres, .inr ⟨.inr hs, by omega⟩⟩]
    obtain ⟨hok, hdr⟩ := endDataTransfer_drains hi hd hcs hc hserve.ending (by omega)
      (head_of_accepts hacc (by omega))
    exact ⟨hok, 1, Nat.one_pos, hdr⟩

/-! ## One poll -/

theorem write_ends (hs : w.dev.state = .dataTransferToHost ∨ w.dev.state = .dataTransferNoData)
    (hcs : w.dev.cs.isSome) (h0 : w.dev.buf.availableRead = 0) :
    write w = endDataTransfer w := by
  rcases hs with hs | hs
  · simp only [write, hs, handleWriteToHost, BulkOnly.statusPresent, hcs, h0, Bool.not_true,
      Bool.and_false, Bool.not_false, Bool.or_true, if_true, gt_iff_lt, lt_self_iff_false, if_false]
    rw [checkEndDataTransfer_eq, if_pos ⟨hcs, .inr ⟨.inr hs, h0⟩⟩]
  · simp only [write, hs, handleNoDataTransfer]
    rw [checkEndDataTransfer_eq, if_pos ⟨hcs, .inl hs⟩]

theorem read_ends (hs : w.dev.state = .dataTransferFromHost) (hcs : w.dev.cs.isSome)
    (h0 : w.dev.buf.availableRead = 0) : read w = endDataTransfer w := by
  simp only [read, hs, handleReadFromHost, hcs, BulkOnly.statusPresent, Bool.not_true,
    Bool.false_eq_true, if_false]
  rw [checkEndDataTransfer_eq, if_pos ⟨hcs, .inr ⟨.inl hs, h0⟩⟩]

theorem read_of_finishing (hf : w.dev.Finishing) (hfh : w.dev.state ≠ .dataTransferFromHost) :
    read w = ⟨w, .ok ()⟩ := by
  rcases hf with hs | ⟨-, hs | hs | ⟨hs, -⟩⟩
  · simp [read, hs]
  · simp [read, hs]
  · simp [read, hs]
  · exact absurd hs hfh

theorem statusTransfer_drains (hi : w.dev.Inv) (ht : Tracks w.dev w.trace)
    (hs : w.dev.state = .statusTransfer) {c : CommandLog} (hc : w.trace.current = some c)
    (hacc : List.replicate w.dev.toSend .accept <+: w.bus.inAnswers) :
    (handleWriteCsw w).outcome = .ok () ∧ Drains w (handleWriteCsw w).world c 1 := by
  have hcur := ht.current
  rw [hs] at hcur
  obtain ⟨c', hc', hsend⟩ := hcur
  obtain rfl := Option.some.inj (hc.symm.trans hc')
  have hk : 0 < w.dev.toSend := by
    rw [BulkOnly.toSend, hs, ← hi.valid.length_content, List.length_pos]
    exact hi.statusTransfer_content hs
  exact handleWriteCsw_drains hi hs hc hsend (head_of_accepts hacc hk)

theorem write_drains (hr : Reachable w) (hf : w.dev.Finishing)
    (hfh : w.dev.state ≠ .dataTransferFromHost) {c : CommandLog} (hc : w.trace.current = some c)
    (hacc : List.replicate w.dev.toSend .accept <+: w.bus.inAnswers) :
    (write w).outcome = .ok () ∧ ∃ j, 0 < j ∧ Drains w (write w).world c j := by
  have hi := inv_of_reachable hr
  have ht := tracks_of_reachable hr
  have h13 : cswLen = 13 := rfl
  rcases hf with hs | ⟨hcs, hs | hs | ⟨hs, -⟩⟩
  · obtain ⟨hok, hdr⟩ := statusTransfer_drains hi ht hs hc hacc
    simp only [write, hs]
    exact ⟨hok, 1, Nat.one_pos, hdr⟩
  · obtain ⟨st, hcs'⟩ := Option.isSome_iff_exists.mp hcs
    obtain ⟨c', hc', hserve⟩ := ht.serving (by rw [hs]; rfl)
    obtain rfl := Option.some.inj (hc.symm.trans hc')
    simp only [write, hs]
    exact handleWriteToHost_drains hi hs hcs' hc hserve hacc
  · obtain ⟨st, hcs'⟩ := Option.isSome_iff_exists.mp hcs
    obtain ⟨c', hc', hserve⟩ := ht.serving (by rw [hs]; rfl)
    obtain rfl := Option.some.inj (hc.symm.trans hc')
    have hts : w.dev.toSend = cswLen := by simp [BulkOnly.toSend, hs]
    obtain ⟨hok, hdr⟩ := endDataTransfer_drains hi (by rw [hs]; rfl) hcs' hc hserve.ending hts
      (head_of_accepts hacc (by omega))
    simp only [write, hs, handleNoDataTransfer]
    rw [checkEndDataTransfer_eq, if_pos ⟨hcs, .inl hs⟩]
    exact ⟨hok, 1, Nat.one_pos, hdr⟩
  · exact absurd hs hfh

theorem round_drains (hr : Reachable w) (hf : w.dev.Finishing) {c : CommandLog}
    (hc : w.trace.current = some c)
    (hacc : List.replicate w.dev.toSend .accept <+: w.bus.inAnswers) :
    (read w).outcome = .ok () ∧ (write (read w).world).outcome = .ok () ∧
      ∃ j, 0 < j ∧ Drains w (write (read w).world).world c j := by
  by_cases hfh : w.dev.state = .dataTransferFromHost
  · have hi := inv_of_reachable hr
    have hd : w.dev.state.isDataTransfer := by rw [hfh]; rfl
    obtain ⟨hcs, h0⟩ : w.dev.cs.isSome ∧ w.dev.buf.availableRead = 0 := by
      rcases hf with hs | ⟨hcs, hs | hs | ⟨-, h0⟩⟩
      all_goals first | exact ⟨hcs, h0⟩ | rw [hfh] at hs; cases hs
    obtain ⟨st, hcs'⟩ := Option.isSome_iff_exists.mp hcs
    obtain ⟨c', hc', hserve⟩ := (tracks_of_reachable hr).serving hd
    obtain rfl := Option.some.inj (hc.symm.trans hc')
    have hts : w.dev.toSend = cswLen := by simp [BulkOnly.toSend, hfh]
    have hread := read_ends hfh hcs h0
    obtain ⟨hok, hdr⟩ := endDataTransfer_drains hi hd hcs' hc hserve.ending hts
      (head_of_accepts hacc (by rw [hts]; decide))
    have hr₁ : Reachable (read w).world :=
      hr.step .read rfl (by show (read w).outcome ≠ .panic; rw [hread, hok]; nofun)
    rw [hread] at hr₁ ⊢
    rcases endDataTransfer_state hi hd hcs' with hs₁ | hs₁
    · rcases hdr.next with ⟨-, hle₁, -, c₁, hc₁, -⟩ | ⟨hidle, -⟩
      · obtain ⟨hok₂, j₂, -, hdr₂⟩ := write_drains hr₁ (.inl hs₁) (by rw [hs₁]; nofun) hc₁
          (hdr.accepts hacc hle₁)
        exact ⟨hok, hok₂, 1 + j₂, by omega, hdr.trans hc₁ hdr₂⟩
      · rw [hs₁] at hidle
        cases hidle
    · have hw : write (endDataTransfer w).world = ⟨(endDataTransfer w).world, .ok ()⟩ := by
        simp [write, hs₁]
      rw [hw]
      exact ⟨hok, rfl, 1, Nat.one_pos, hdr⟩
  · rw [read_of_finishing hf hfh]
    exact ⟨rfl, write_drains hr hf hfh hc hacc⟩

variable {κ : Type}

theorem pollEntry_of_drains (parseCb : List UInt8 → Option κ) (hr : (read w).outcome = .ok ())
    (hw : (write (read w).world).outcome = .ok ()) (hi : (write (read w).world).world.dev.Inv)
    (hnext : (write (read w).world).world.dev.Finishing ∨
      (write (read w).world).world.dev.state = .idle) :
    pollEntry parseCb w = ⟨(write (read w).world).world, .outside⟩ := by
  simp only [pollEntry, mapIgnore, hr, hw]
  generalize (write (read w).world).world = w' at hi hnext ⊢
  have hne := hi.getCommand_ne_panic
  rcases hnext with hf | hidle
  · have hst := hf.hasStatus hi
    split <;> simp_all
  · simp [BulkOnly.getCommand, hidle]

/-! ## The run -/

theorem Drains.run {parseCb : List UInt8 → Option κ} {w' : World} {c : CommandLog} {j : Nat}
    (h : PollReachable parseCb ⟨w', .outside⟩) (hdr : Drains w w' c j)
    (hacc : List.replicate w.dev.toSend .accept <+: w.bus.inAnswers) :
    ∃ n, n + j ≤ w.dev.toSend ∧
      (pollRun parseCb (List.replicate n .poll) ⟨w', .outside⟩).phase = .outside ∧
      (pollRun parseCb (List.replicate n .poll) ⟨w', .outside⟩).world.dev.state = .idle ∧
      ∃ c', (pollRun parseCb (List.replicate n .poll) ⟨w', .outside⟩).world.trace.done =
          w.trace.done ++ [c'] ∧ c.Extends c' ∧ c'.CswSent := by
  obtain ⟨k, hk⟩ : ∃ k, w'.dev.toSend = k := ⟨_, rfl⟩
  induction k using Nat.strong_induction_on generalizing w' j with
  | _ k ih =>
    by_cases hidle : w'.dev.state = .idle
    · exact ⟨0, by simpa using hdr.le, rfl, hidle, hdr.closed hidle⟩
    obtain ⟨hf, hle, -, c', hc', -⟩ := hdr.next.resolve_right fun h => hidle h.1
    have hr : Reachable w' := (h.sound nofun).1
    obtain ⟨hro, hwo, j', hj', hdr'⟩ := round_drains hr hf hc' (hdr.accepts hacc hle)
    have hr₁ : Reachable (read w').world :=
      hr.step .read rfl (by show (read w').outcome ≠ .panic; rw [hro]; nofun)
    have hr' : Reachable (write (read w').world).world :=
      hr₁.step .write rfl (by show (write (read w').world).outcome ≠ .panic; rw [hwo]; nofun)
    have hstep : pollStep parseCb .poll ⟨w', .outside⟩ =
        ⟨(write (read w').world).world, .outside⟩ :=
      pollEntry_of_drains parseCb hro hwo (inv_of_reachable hr')
        (hdr'.next.imp (fun h => h.1) (fun h => h.1))
    have H := hdr.trans hc' hdr'
    by_cases hidle' : (write (read w').world).world.dev.state = .idle
    · refine ⟨1, by have := H.le; omega, ?_⟩
      rw [pollRun_replicate_succ, hstep]
      exact ⟨rfl, hidle', H.closed hidle'⟩
    · obtain ⟨-, hlt, -⟩ := hdr'.next.resolve_right fun h => hidle' h.1
      obtain ⟨n, hn, hrun⟩ := ih _ (by omega) (hstep ▸ h.step .poll) H rfl
      refine ⟨n + 1, by omega, ?_⟩
      rw [pollRun_replicate_succ, hstep]
      exact hrun

theorem poll_drains_status {parseCb : List UInt8 → Option κ} {w : World}
    (h : PollReachable parseCb ⟨w, .outside⟩) (hf : w.dev.Finishing) {c : CommandLog}
    (hc : w.trace.current = some c)
    (hacc : List.replicate w.dev.toSend .accept <+: w.bus.inAnswers) :
    ∃ n ≤ w.dev.toSend,
      (pollRun parseCb (List.replicate n .poll) ⟨w, .outside⟩).phase = .outside ∧
      (pollRun parseCb (List.replicate n .poll) ⟨w, .outside⟩).world.dev.state = .idle ∧
      ∃ c', (pollRun parseCb (List.replicate n .poll) ⟨w, .outside⟩).world.trace.done =
          w.trace.done ++ [c'] ∧ c.Extends c' ∧ c'.CswSent := by
  obtain ⟨n, hn, hrun⟩ := (Drains.refl hf hc).run h hacc
  exact ⟨n, by omega, hrun⟩

def latchedTurRun : PollState ScsiCommand :=
  pollRun Scsi.parseCb [.poll, .finish (some .passed)]
    (startState 32 32 (.refuse .wouldBlock :: List.replicate 13 .accept)
      [.packet (hostCbwBytes 7 0 0 0 [0, 0, 0, 0, 0, 0])])

theorem latchedTurRun_drains :
    PollReachable Scsi.parseCb ⟨latchedTurRun.world, .outside⟩ ∧
      latchedTurRun.world.dev.Finishing ∧
      latchedTurRun.world.trace.current =
        some (latchedTurRun.world.trace.current.getD ⟨.default, [], []⟩) ∧
      List.replicate latchedTurRun.world.dev.toSend .accept <+: latchedTurRun.world.bus.inAnswers ∧
      ∃ n ≤ latchedTurRun.world.dev.toSend,
        (pollRun Scsi.parseCb (List.replicate n .poll) ⟨latchedTurRun.world, .outside⟩).phase =
          .outside ∧
        (pollRun Scsi.parseCb (List.replicate n .poll)
          ⟨latchedTurRun.world, .outside⟩).world.dev.state = .idle ∧
        ∃ c', (pollRun Scsi.parseCb (List.replicate n .poll)
            ⟨latchedTurRun.world, .outside⟩).world.trace.done =
            latchedTurRun.world.trace.done ++ [c'] ∧
          (latchedTurRun.world.trace.current.getD ⟨.default, [], []⟩).Extends c' ∧ c'.CswSent :=
  have h : PollReachable Scsi.parseCb ⟨latchedTurRun.world, .outside⟩ :=
    (show latchedTurRun = ⟨latchedTurRun.world, .outside⟩ by decide) ▸
      (startState_reachable _ (by decide) (by decide) (by decide) _ _).run _
  have hc : latchedTurRun.world.trace.current =
      some (latchedTurRun.world.trace.current.getD ⟨.default, [], []⟩) := by decide
  ⟨h, by decide, hc, by decide, poll_drains_status h (by decide) hc (by decide)⟩

end UsbdStorage
