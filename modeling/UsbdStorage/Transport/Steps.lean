import UsbdStorage.Transport.BulkOnly

/-!
# What each method does

One lemma per method of the transport, by how the call ends.  The invariants of the
later files cite these and never unfold a method.  All of them assume the cursor
invariant of the IO buffer, `Buffer.Valid`.
-/

namespace UsbdStorage

@[simp] theorem Call.andThen_ok {α β : Type} (w : World) (a : α) (k : α → World → Call β) :
    (Call.mk w (.ok a)).andThen k = k a w := rfl

@[simp] theorem Call.andThen_err {α β : Type} (w : World) (e : TransportError)
    (k : α → World → Call β) : (Call.mk w (.err e)).andThen k = ⟨w, .err e⟩ := rfl

@[simp] theorem Call.andThen_panic {α β : Type} (w : World) (k : α → World → Call β) :
    (Call.mk w (.panic : Outcome α)).andThen k = ⟨w, .panic⟩ := rfl

namespace World

variable (w : World)

@[simp] theorem setBuf_dev (b : Buffer) : (w.setBuf b).dev = { w.dev with buf := b } := rfl
@[simp] theorem setBuf_bus (b : Buffer) : (w.setBuf b).bus = w.bus := rfl
@[simp] theorem setBuf_trace (b : Buffer) : (w.setBuf b).trace = w.trace := rfl
@[simp] theorem setCbw_dev (c : CommandBlockWrapper) : (w.setCbw c).dev = { w.dev with cbw := c } := rfl
@[simp] theorem setCbw_bus (c : CommandBlockWrapper) : (w.setCbw c).bus = w.bus := rfl
@[simp] theorem setCbw_trace (c : CommandBlockWrapper) : (w.setCbw c).trace = w.trace := rfl
@[simp] theorem setResidue_dev (n : Nat) :
    (w.setResidue n).dev = { w.dev with cbw := { w.dev.cbw with dataTransferLen := n } } := rfl
@[simp] theorem setResidue_bus (n : Nat) : (w.setResidue n).bus = w.bus := rfl
@[simp] theorem setResidue_trace (n : Nat) : (w.setResidue n).trace = w.trace := rfl
@[simp] theorem emit_dev (e : Event) : (w.emit e).dev = w.dev := rfl
@[simp] theorem emit_bus (e : Event) : (w.emit e).bus = w.bus := rfl
@[simp] theorem emit_trace (e : Event) : (w.emit e).trace = w.trace.emit e := rfl

end World

variable {w : World}

/-! ## Endpoints -/

theorem inEpWrite_spec (w : World) (packet : List UInt8) :
    (inEpWrite w packet).1.dev = w.dev ∧
      (inEpWrite w packet).1.bus.inStalled = w.bus.inStalled ∧
      (inEpWrite w packet).1.bus.outStalled = w.bus.outStalled ∧
      (inEpWrite w packet).1.bus.outAnswers = w.bus.outAnswers ∧
      ((w.bus.inAnswers.head? = some .accept ∧ (inEpWrite w packet).2 = .ok packet.length ∧
          (inEpWrite w packet).1.trace = w.trace.emit (.inPacket packet)) ∨
        (w.bus.inAnswers.head? ≠ some .accept ∧ ∃ e, (inEpWrite w packet).2 = .error e ∧
          (inEpWrite w packet).1.trace = w.trace)) := by
  unfold inEpWrite
  split
  · simp_all
  · split <;> simp_all

theorem outEpRead_spec (w : World) (slice : List UInt8) :
    (outEpRead w slice).1.dev = w.dev ∧
      (outEpRead w slice).1.bus.inStalled = w.bus.inStalled ∧
      (outEpRead w slice).1.bus.outStalled = w.bus.outStalled ∧
      (outEpRead w slice).1.bus.inAnswers = w.bus.inAnswers ∧
      ((∃ p, p.length ≤ slice.length ∧ (outEpRead w slice).2.2 = .ok p.length ∧
          (outEpRead w slice).2.1 = p ++ slice.drop p.length ∧
          (outEpRead w slice).1.trace = w.trace.emit (.outPacket p)) ∨
        (∃ e, (outEpRead w slice).2.2 = .error e ∧ (outEpRead w slice).2.1 = slice ∧
          (outEpRead w slice).1.trace = w.trace)) := by
  unfold outEpRead
  split
  · simp_all
  · split
    · split
      · exact ⟨rfl, rfl, rfl, rfl, .inl ⟨_, ‹_›, rfl, rfl, rfl⟩⟩
      · simp_all
    · simp_all

/-! ## Packets -/

theorem readPacket_spec (hv : w.dev.buf.Valid) :
    (readPacket w).world.dev = { w.dev with buf := (readPacket w).world.dev.buf } ∧
      (readPacket w).world.dev.buf.Valid ∧
      (readPacket w).world.dev.buf.inner.length = w.dev.buf.inner.length ∧
      (readPacket w).world.bus.inStalled = w.bus.inStalled ∧
      (readPacket w).world.bus.outStalled = w.bus.outStalled ∧
      ((∃ p : List UInt8, (readPacket w).outcome = .ok p.length ∧ 0 < p.length ∧
          p.length ≤ w.dev.packetSize ∧
          (readPacket w).world.dev.buf.content = w.dev.buf.content ++ p ∧
          (readPacket w).world.trace = w.trace.emit (.outPacket p)) ∨
        (∃ e, (readPacket w).outcome = .err e ∧
          (readPacket w).world.dev.buf.content = w.dev.buf.content ∧
          ((readPacket w).world.trace = w.trace ∨
            (readPacket w).world.trace = w.trace.emit (.outPacket [])))) := by
  obtain ⟨hv₀, hl₀, hc₀, -⟩ := hv.makeRoom w.dev.packetSize
  by_cases hroom : w.dev.buf.inner.length - w.dev.buf.availableRead < w.dev.packetSize
  · rw [readPacket, Buffer.writeAll_overflow hv _ _ _ hroom]
    exact ⟨rfl, hv₀, hl₀, rfl, rfl, .inr ⟨_, rfl, hc₀, .inl rfl⟩⟩
  have hroom' : w.dev.packetSize ≤ w.dev.buf.inner.length - w.dev.buf.availableRead := by omega
  rw [readPacket, Buffer.writeAll_room hv _ _ _ hroom']
  have hfit := hv.slot_fits hroom'
  have hslice := Buffer.length_window hfit
  generalize Buffer.window _ _ _ = slice at hslice ⊢
  obtain ⟨hd, hi, ho, -, hcase⟩ := outEpRead_spec w slice
  generalize outEpRead w slice = r at hd hi ho hcase ⊢
  obtain ⟨w', s', res⟩ := r
  dsimp only at hd hi ho hcase
  rcases hcase with ⟨p, hp, rfl, rfl, ht⟩ | ⟨e, rfl, rfl, ht⟩
  · obtain ⟨hmin, hvf, hlf, hcf⟩ := hv₀.fill (p ++ slice.drop p.length)
      p.length (by simp; omega) (by simp)
    rw [hmin] at hvf hcf
    rw [List.take_left' rfl, hc₀] at hcf
    dsimp only
    rw [hmin]
    split
    · rename_i hp0
      obtain rfl := List.length_eq_zero.mp hp0
      exact ⟨by simp [hd], hvf, hlf.trans hl₀, hi, ho,
        .inr ⟨_, rfl, by simpa using hcf, .inr (by simpa using ht)⟩⟩
    · exact ⟨by simp [hd], hvf, hlf.trans hl₀, hi, ho,
        .inl ⟨p, rfl, by omega, by omega, hcf, by simpa using ht⟩⟩
  · by_cases hwb : e = .wouldBlock
    · subst hwb
      obtain ⟨hmin, hvf, hlf, hcf⟩ := hv₀.fill s' 0 (by omega)
        (Nat.zero_le _)
      rw [hmin] at hvf hcf
      simp only [List.take_zero, List.append_nil, hc₀] at hcf
      simp only [↓reduceIte]
      rw [hmin]
      exact ⟨by simp [hd], hvf, hlf.trans hl₀, hi, ho, .inr ⟨_, rfl, hcf, .inl (by simpa using ht)⟩⟩
    · obtain ⟨hvf, hlf, hcf⟩ := hv₀.fill_error s' (by omega)
      rw [hc₀] at hcf
      simp only [hwb, if_false]
      exact ⟨by simp [hd], hvf, hlf.trans hl₀, hi, ho, .inr ⟨_, rfl, hcf, .inl (by simpa using ht)⟩⟩

theorem readPacket_overflow (hv : w.dev.buf.Valid)
    (h : w.dev.buf.inner.length - w.dev.buf.availableRead < w.dev.packetSize) :
    readPacket w =
      ⟨w.setBuf (w.dev.buf.makeRoom w.dev.packetSize), .err (.error .ioBufferOverflow)⟩ := by
  rw [readPacket, Buffer.writeAll_overflow hv _ _ _ h]

theorem readPacket_ne_overflow (hv : w.dev.buf.Valid)
    (h : w.dev.packetSize ≤ w.dev.buf.inner.length - w.dev.buf.availableRead) :
    (readPacket w).outcome ≠ .err (.error .ioBufferOverflow) := by
  rw [readPacket, Buffer.writeAll_room hv _ _ _ h]
  generalize Buffer.window _ _ _ = slice
  generalize outEpRead w slice = r
  obtain ⟨w', s', _ | _⟩ := r
  · dsimp only
    split_ifs <;> simp
  · simp only
    split_ifs <;> simp

theorem writePacket_spec (hv : w.dev.buf.Valid) (hps : 0 < w.dev.packetSize) :
    (writePacket w).world.bus.inStalled = w.bus.inStalled ∧
      (writePacket w).world.bus.outStalled = w.bus.outStalled ∧
      (writePacket w).world.bus.outAnswers = w.bus.outAnswers ∧
      ((∃ n, (writePacket w).outcome = .ok n ∧ 0 < n ∧
          n = min w.dev.packetSize w.dev.buf.availableRead ∧
          (writePacket w).world.dev =
            { w.dev with buf := { w.dev.buf with rpos := w.dev.buf.rpos + n } } ∧
          (writePacket w).world.trace = w.trace.emit (.inPacket (w.dev.buf.content.take n))) ∨
        (∃ e, (writePacket w).outcome = .err (.usb e) ∧ (writePacket w).world.dev = w.dev ∧
          (writePacket w).world.trace = w.trace)) := by
  have hlen := hv.length_content
  rw [writePacket, Buffer.read_eq]
  by_cases hc : w.dev.buf.content = []
  · simp only [hc, ne_eq, not_true_eq_false, if_false, Nat.zero_min, ↓reduceIte]
    exact ⟨rfl, rfl, rfl, .inr ⟨_, rfl, rfl, rfl⟩⟩
  obtain ⟨hd, hi, ho, hoa, hcase⟩ :=
    inEpWrite_spec w (w.dev.buf.content.take (min w.dev.packetSize w.dev.buf.content.length))
  generalize inEpWrite w _ = r at hd hi ho hoa hcase ⊢
  obtain ⟨w', res⟩ := r
  dsimp only at hd hi ho hoa hcase
  have hpos : 0 < w.dev.buf.availableRead := by
    rw [← hlen]
    exact List.length_pos.mpr hc
  rcases hcase with ⟨-, rfl, ht⟩ | ⟨-, e, rfl, ht⟩
  · have hn : (w.dev.buf.content.take (min w.dev.packetSize w.dev.buf.content.length)).length =
        min w.dev.packetSize w.dev.buf.availableRead := by
      simp [hlen]
    simp only [hc, ne_eq, not_false_eq_true, if_true, hn, min_eq_left (min_le_right _ _)]
    rw [if_neg (by omega)]
    exact ⟨hi, ho, hoa, .inl ⟨_, rfl, by omega, rfl, by simp [hd], by simp [ht, hlen]⟩⟩
  · by_cases hwb : e = .wouldBlock
    · simp only [hc, hwb, ne_eq, not_false_eq_true, if_true, Nat.zero_min, ↓reduceIte]
      exact ⟨hi, ho, hoa, .inr ⟨_, rfl, by simp [hd], ht⟩⟩
    · simp only [hc, hwb, ne_eq, not_false_eq_true, if_true, if_false]
      exact ⟨hi, ho, hoa, .inr ⟨_, rfl, by simp [hd], ht⟩⟩

theorem writePacket_ok_iff (hv : w.dev.buf.Valid) (hps : 0 < w.dev.packetSize)
    (hk : 0 < w.dev.buf.availableRead) :
    (∃ n, (writePacket w).outcome = .ok n) ↔ w.bus.inAnswers.head? = some .accept := by
  have hc : w.dev.buf.content ≠ [] := by
    rw [← List.length_pos, hv.length_content]
    exact hk
  rw [writePacket, Buffer.read_eq]
  simp only [hc, ne_eq, not_false_eq_true, if_true]
  unfold inEpWrite
  rcases w.bus.inAnswers with _ | ⟨_ | e, rest⟩
  · simp
  · simp [hc, Nat.pos_iff_ne_zero.mp hps, Nat.pos_iff_ne_zero.mp hk]
  · by_cases he : e = .wouldBlock <;> simp [he]

theorem writePacket_inAnswers (hv : w.dev.buf.Valid) (hk : 0 < w.dev.buf.availableRead) :
    (writePacket w).world.bus.inAnswers = w.bus.inAnswers.drop 1 := by
  have hc : w.dev.buf.content ≠ [] := by
    rw [← List.length_pos, hv.length_content]
    exact hk
  rw [writePacket, Buffer.read_eq]
  simp only [hc, ne_eq, not_false_eq_true, if_true]
  unfold inEpWrite
  rcases h : w.bus.inAnswers with _ | ⟨_ | e, rest⟩
  · simp [h]
  · simp only [List.drop_succ_cons, List.drop_zero]
    split <;> rfl
  · by_cases he : e = .wouldBlock <;> simp [he]

/-! ## State changes -/

@[simp] theorem BulkOnly.enterState_idle (d : BulkOnly) :
    d.enterState .idle = { d with buf := d.buf.clean, cbw := .default, cs := none, state := .idle } :=
  rfl

theorem BulkOnly.enterState_of_ne (d : BulkOnly) {s : State} (h : s ≠ .idle) :
    d.enterState s = { d with state := s } := by
  simp [BulkOnly.enterState, h]

@[simp] theorem enterState_dev (s : State) : (enterState w s).dev = w.dev.enterState s := rfl
@[simp] theorem enterState_bus (s : State) : (enterState w s).bus = w.bus := rfl
@[simp] theorem enterState_trace (s : State) :
    (enterState w s).trace = if s = .idle then w.trace.idle else w.trace := rfl

@[simp] theorem stallInEp_dev : (stallInEp w).dev = w.dev := rfl
@[simp] theorem stallInEp_bus : (stallInEp w).bus = { w.bus with inStalled := true } := rfl
@[simp] theorem stallInEp_trace : (stallInEp w).trace = w.trace.emit (.stall .inEp) := rfl
@[simp] theorem stallOutEp_dev : (stallOutEp w).dev = w.dev := rfl
@[simp] theorem stallOutEp_bus : (stallOutEp w).bus = { w.bus with outStalled := true } := rfl
@[simp] theorem stallOutEp_trace : (stallOutEp w).trace = w.trace.emit (.stall .outEp) := rfl
@[simp] theorem unstallInEp_dev : (unstallInEp w).dev = w.dev := rfl
@[simp] theorem unstallInEp_bus : (unstallInEp w).bus = { w.bus with inStalled := false } := rfl
@[simp] theorem unstallInEp_trace : (unstallInEp w).trace = w.trace.emit (.unstall .inEp) := rfl
@[simp] theorem unstallOutEp_dev : (unstallOutEp w).dev = w.dev := rfl
@[simp] theorem unstallOutEp_bus : (unstallOutEp w).bus = { w.bus with outStalled := false } := rfl
@[simp] theorem unstallOutEp_trace : (unstallOutEp w).trace = w.trace.emit (.unstall .outEp) :=
  rfl

@[simp] theorem stallOnResidue_dev : (stallOnResidue w).dev = w.dev := by
  unfold stallOnResidue
  split
  · split <;> rfl
  · rfl

theorem stallOnResidue_trace :
    (stallOnResidue w).trace =
      if 0 < w.dev.cbw.dataTransferLen then
        match w.dev.state with
        | .dataTransferToHost => w.trace.emit (.stall .inEp)
        | .dataTransferFromHost => w.trace.emit (.stall .outEp)
        | _ => w.trace
      else w.trace := by
  by_cases h : 0 < w.dev.cbw.dataTransferLen <;>
    cases hs : w.dev.state <;> simp [stallOnResidue, h, hs]

@[simp] theorem stallOnResidue_inAnswers :
    (stallOnResidue w).bus.inAnswers = w.bus.inAnswers := by
  unfold stallOnResidue
  split
  · split <;> rfl
  · rfl

@[simp] theorem stallOnResidue_outAnswers :
    (stallOnResidue w).bus.outAnswers = w.bus.outAnswers := by
  unfold stallOnResidue
  split
  · split <;> rfl
  · rfl

theorem tryParseCbw_eq (h : cbwLen ≤ w.dev.buf.availableRead) :
    tryParseCbw w =
      (w.setBuf { w.dev.buf with rpos := w.dev.buf.rpos + cbwLen },
        parseCbw (w.dev.buf.content.take cbwLen)) := by
  rw [tryParseCbw, Buffer.read_eq]
  simp only [min_eq_left h]

theorem startDataTransfer_dev (c : CommandBlockWrapper) :
    (startDataTransfer w c).dev =
      match c.direction with
      | .out => { w.dev with state := .dataTransferFromHost, cbw := c }
      | .«in» => { w.dev with state := .dataTransferToHost, cbw := c }
      | .notExpected =>
          { w.dev with state := .dataTransferNoData, cbw := { c with dataTransferLen := 0 } } := by
  unfold startDataTransfer
  cases c.direction <;> simp [BulkOnly.enterState]

@[simp] theorem startDataTransfer_packetSize (c : CommandBlockWrapper) :
    (startDataTransfer w c).dev.packetSize = w.dev.packetSize := by
  rw [startDataTransfer_dev]
  cases c.direction <;> rfl

@[simp] theorem startDataTransfer_buf (c : CommandBlockWrapper) :
    (startDataTransfer w c).dev.buf = w.dev.buf := by
  rw [startDataTransfer_dev]
  cases c.direction <;> rfl

@[simp] theorem startDataTransfer_cs (c : CommandBlockWrapper) :
    (startDataTransfer w c).dev.cs = w.dev.cs := by
  rw [startDataTransfer_dev]
  cases c.direction <;> rfl

@[simp] theorem startDataTransfer_bus (c : CommandBlockWrapper) :
    (startDataTransfer w c).bus = w.bus := by
  unfold startDataTransfer
  cases c.direction <;> rfl

@[simp] theorem startDataTransfer_trace (c : CommandBlockWrapper) :
    (startDataTransfer w c).trace = w.trace.accept c := by
  unfold startDataTransfer
  cases c.direction <;> rfl

/-! ## Status transfer -/

theorem handleWriteCsw_spec (hv : w.dev.buf.Valid) (hps : 0 < w.dev.packetSize) :
    (handleWriteCsw w).world.bus.inStalled = w.bus.inStalled ∧
      (handleWriteCsw w).world.bus.outStalled = w.bus.outStalled ∧
      ((∃ e, (handleWriteCsw w).outcome = .err (.usb e) ∧ (handleWriteCsw w).world.dev = w.dev ∧
          (handleWriteCsw w).world.trace = w.trace) ∨
        (∃ n, (handleWriteCsw w).outcome = .ok () ∧ 0 < n ∧
          n = min w.dev.packetSize w.dev.buf.availableRead ∧
          (n < w.dev.buf.availableRead →
            (handleWriteCsw w).world.dev =
              { w.dev with buf := { w.dev.buf with rpos := w.dev.buf.rpos + n } } ∧
            (handleWriteCsw w).world.trace =
              w.trace.emit (.inPacket (w.dev.buf.content.take n))) ∧
          (n = w.dev.buf.availableRead →
            (handleWriteCsw w).world.dev =
              ({ w.dev with buf := { w.dev.buf with rpos := w.dev.buf.rpos + n } } : BulkOnly).enterState
                .idle ∧
            (handleWriteCsw w).world.trace =
              (w.trace.emit (.inPacket (w.dev.buf.content.take n))).idle))) := by
  obtain ⟨hi, ho, -, hcase⟩ := writePacket_spec hv hps
  unfold handleWriteCsw
  generalize writePacket w = c at hi ho hcase ⊢
  obtain ⟨w', o⟩ := c
  dsimp only at hi ho hcase
  rcases hcase with ⟨n, rfl, hn, hnm, hd, ht⟩ | ⟨e, rfl, hd, ht⟩
  · have hav : w'.dev.buf.availableRead = w.dev.buf.availableRead - n := by
      simp [hd, Buffer.availableRead]
      omega
    simp only [Call.andThen_ok]
    refine ⟨?_, ?_, .inr ⟨n, ?_, hn, hnm, fun hlt => ?_, fun heq => ?_⟩⟩
    · split <;> simpa using hi
    · split <;> simpa using ho
    · split <;> rfl
    · simp only [hav, if_neg (by omega : ¬ w.dev.buf.availableRead - n = 0)]
      exact ⟨hd, ht⟩
    · simp only [hav, if_pos (by omega : w.dev.buf.availableRead - n = 0)]
      exact ⟨by simp [hd], by simp [ht]⟩
  · exact ⟨hi, ho, .inl ⟨e, rfl, hd, ht⟩⟩

theorem handleWriteCsw_ok_iff :
    (handleWriteCsw w).outcome = .ok () ↔ ∃ n, (writePacket w).outcome = .ok n := by
  unfold handleWriteCsw Call.andThen
  split <;> simp_all
  split <;> simp

theorem handleWriteCsw_bus : (handleWriteCsw w).world.bus = (writePacket w).world.bus := by
  unfold handleWriteCsw Call.andThen
  split
  · dsimp only
    split <;> rfl
  · rfl
  · rfl

theorem handleWriteCsw_inAnswers :
    (handleWriteCsw w).world.bus.inAnswers = (writePacket w).world.bus.inAnswers := by
  rw [handleWriteCsw_bus]

theorem handleWriteCsw_outAnswers (hv : w.dev.buf.Valid) (hps : 0 < w.dev.packetSize) :
    (handleWriteCsw w).world.bus.outAnswers = w.bus.outAnswers := by
  rw [handleWriteCsw_bus]
  exact (writePacket_spec hv hps).2.2.1

/-- The world `end_data_transfer` hands to `handle_write_csw`: the CSW alone in the IO
buffer, the state `StatusTransfer`. -/
def queueCsw (w : World) (csw : List UInt8) : World :=
  enterState ((w.setBuf (w.dev.buf.clean.write csw).1).emit (.queue csw)) .statusTransfer

theorem endDataTransfer_eq {st : CommandStatus} (hcs : w.dev.cs = some st) :
    endDataTransfer w =
      handleWriteCsw (queueCsw (stallOnResidue w) (cswBytes w.dev.cbw.tag w.dev.cbw.dataTransferLen st)) := by
  simp [endDataTransfer, BulkOnly.buildCsw, hcs, queueCsw, World.setBuf]

theorem queueCsw_spec (w : World) (csw : List UInt8)
    (hfit : csw.length ≤ w.dev.buf.inner.length) :
    (queueCsw w csw).dev.state = .statusTransfer ∧
      (queueCsw w csw).dev = { w.dev with buf := (queueCsw w csw).dev.buf, state := .statusTransfer } ∧
      (queueCsw w csw).dev.buf.Valid ∧
      (queueCsw w csw).dev.buf.inner.length = w.dev.buf.inner.length ∧
      (queueCsw w csw).dev.buf.content = csw ∧
      (queueCsw w csw).bus = w.bus ∧
      (queueCsw w csw).trace = w.trace.emit (.queue csw) := by
  obtain ⟨hk, hvw, hlw, hcw⟩ := (Buffer.valid_clean w.dev.buf).write csw
  have hk' : (w.dev.buf.clean.write csw).2 = csw.length := by
    rw [hk]
    simp [Buffer.clean, Buffer.availableRead]
    omega
  have hdev : (queueCsw w csw).dev =
      { w.dev with buf := (w.dev.buf.clean.write csw).1, state := .statusTransfer } := by
    simp [queueCsw, BulkOnly.enterState]
  rw [hdev]
  refine ⟨rfl, rfl, hvw, hlw, ?_, rfl, by simp [queueCsw]⟩
  rw [hcw, hk', Buffer.content_clean, List.nil_append, List.take_length]

theorem endDataTransfer_ok_iff (hps : 0 < w.dev.packetSize) (hfit : cbwLen ≤ w.dev.buf.inner.length)
    {st : CommandStatus} (hcs : w.dev.cs = some st) :
    (endDataTransfer w).outcome = .ok () ↔ w.bus.inAnswers.head? = some .accept := by
  obtain ⟨-, hdev, hv, -, hc, hbus, -⟩ := queueCsw_spec (stallOnResidue w)
    (cswBytes w.dev.cbw.tag w.dev.cbw.dataTransferLen st)
    (by rw [length_cswBytes, stallOnResidue_dev]; exact le_trans (by decide) hfit)
  rw [endDataTransfer_eq hcs, handleWriteCsw_ok_iff, writePacket_ok_iff hv, hbus,
    stallOnResidue_inAnswers]
  · rwa [hdev, stallOnResidue_dev]
  · rw [← hv.length_content, hc, length_cswBytes]
    decide

/-- When `check_end_data_transfer` ends the data phase. -/
def BulkOnly.dataPhaseOver (d : BulkOnly) : Prop :=
  d.statusPresent ∧
    (d.state = .dataTransferNoData ∨
      ((d.state = .dataTransferFromHost ∨ d.state = .dataTransferToHost) ∧ d.buf.availableRead = 0))

instance (d : BulkOnly) : Decidable d.dataPhaseOver := inferInstanceAs (Decidable (_ ∧ _))

theorem checkEndDataTransfer_eq :
    checkEndDataTransfer w = if w.dev.dataPhaseOver then endDataTransfer w else ⟨w, .ok ()⟩ := by
  unfold checkEndDataTransfer BulkOnly.dataPhaseOver
  by_cases hs : w.dev.statusPresent
  · simp only [hs, if_true, true_and]
    split <;> simp_all
  · simp [hs]

/-! ## The application's calls -/

theorem readData_spec (hv : w.dev.buf.Valid) (hs : w.dev.state = .dataTransferFromHost)
    (dst : List UInt8) :
    (w.dev.buf.availableRead ≤ dst.length →
      readData w dst =
        ⟨(w.setBuf { w.dev.buf with rpos := w.dev.buf.rpos + w.dev.buf.availableRead }).emit
            (.delivered w.dev.buf.content),
          .ok (w.dev.buf.availableRead, w.dev.buf.content ++ dst.drop w.dev.buf.availableRead)⟩) ∧
    (dst.length < w.dev.buf.availableRead → readData w dst = ⟨w, .panic⟩) := by
  have hlen := hv.length_content
  simp only [readData, hs, ne_eq, not_true_eq_false, if_false, Buffer.read_eq, copyFromSlice,
    List.length_take, hlen]
  refine ⟨fun hle => ?_, fun hlt => ?_⟩
  · have h₁ : min dst.length w.dev.buf.availableRead = w.dev.buf.availableRead := min_eq_right hle
    have h₂ : min w.dev.buf.availableRead dst.length = w.dev.buf.availableRead := min_eq_left hle
    simp [h₁, h₂, List.take_left' hlen]
  · have hne : min dst.length w.dev.buf.availableRead ≠ w.dev.buf.availableRead := by omega
    simp [hne]

theorem writeData_eq (hs : w.dev.state = .dataTransferToHost) (hcs : w.dev.cs = none)
    (src : List UInt8) :
    writeData w src =
      ⟨(w.setBuf (w.dev.buf.write (src.take (min src.length w.dev.cbw.dataTransferLen))).1).emit
          (.supplied ((src.take (min src.length w.dev.cbw.dataTransferLen)).take
            (w.dev.buf.write (src.take (min src.length w.dev.cbw.dataTransferLen))).2)),
        .ok (w.dev.buf.write (src.take (min src.length w.dev.cbw.dataTransferLen))).2⟩ := by
  simp [writeData, hs, BulkOnly.statusPresent, hcs]

theorem tryWriteDataAll_spec (hv : w.dev.buf.Valid) (hs : w.dev.state = .dataTransferToHost)
    (hcs : w.dev.cs = none) (src : List UInt8) :
    (w.dev.buf.inner.length - w.dev.buf.availableRead < src.length →
      tryWriteDataAll w src =
        ⟨w.setBuf (w.dev.buf.makeRoom src.length), .err (.error .ioBufferOverflow)⟩) ∧
    (src.length ≤ w.dev.buf.inner.length - w.dev.buf.availableRead →
      ∃ b, tryWriteDataAll w src = ⟨(w.setBuf b).emit (.supplied src), .ok ()⟩ ∧
        b.Valid ∧ b.inner.length = w.dev.buf.inner.length ∧ b.content = w.dev.buf.content ++ src) := by
  simp only [tryWriteDataAll, hs, BulkOnly.statusPresent, hcs, ne_eq, not_true_eq_false, if_false,
    Option.isSome_none, Bool.not_false, if_true]
  refine ⟨fun hlt => by rw [Buffer.writeAll_overflow hv _ _ _ hlt], fun hle => ?_⟩
  obtain ⟨hv₀, hl₀, hc₀, -⟩ := hv.makeRoom src.length
  rw [Buffer.writeAll_room hv _ _ _ hle]
  have hfit := hv.slot_fits hle
  have hslice := Buffer.length_window hfit
  obtain ⟨hmin, hvf, hlf, hcf⟩ := hv₀.fill
    (src ++ (Buffer.window (w.dev.buf.makeRoom src.length).inner
      (w.dev.buf.makeRoom src.length).wpos src.length).drop src.length)
    src.length (by simp [hslice]; omega) (by simp)
  exact ⟨_, rfl, hvf, hlf.trans hl₀, by rw [hcf, hc₀, List.take_left' rfl]⟩

theorem setStatus_eq (status : CommandStatus) :
    setStatus w status =
      if status = .phaseError ∨ status = .failed then
        match endDataTransfer (({ w with dev := { w.dev with cs := some status } } : World).emit
            (.latch status)) with
        | ⟨w, .ok ()⟩ => ⟨w, .ok ()⟩
        | ⟨w, _⟩ => ⟨w, .panic⟩
      else ⟨({ w with dev := { w.dev with cs := some status } } : World).emit (.latch status), .ok ()⟩ :=
  rfl

theorem setStatus_world (status : CommandStatus) :
    (setStatus w status).world =
      if status = .phaseError ∨ status = .failed then
        (endDataTransfer (({ w with dev := { w.dev with cs := some status } } : World).emit
          (.latch status))).world
      else ({ w with dev := { w.dev with cs := some status } } : World).emit (.latch status) := by
  rw [setStatus_eq]
  split
  · split <;> rename_i heq <;> rw [heq]
  · rfl

end UsbdStorage
