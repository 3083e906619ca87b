import UsbdStorage.Transport.Invariant

/-!
# Where the transport's calls fail

Three paths of `bbb.rs` on which a call does not do what its caller expects, each
characterised over every state it can be made in:

* `set_status` with `Failed` or `PhaseError` flushes the CSW at once and unwraps the
  result: it panics exactly when the IN endpoint does not take the packet
  (`setStatus_panics_iff`), `WouldBlock` included.
* `read_data` copies the whole content into the destination with `copy_from_slice`: it
  panics exactly when the destination is shorter than the content (`readData_panics_iff`).
* `read_packet` asks `write_all` for room for a whole packet, so `read` in `Idle` or
  `CommandTransfer` fails with `IoBufferOverflow` exactly when less than a packet is free,
  and then changes nothing, so it fails the same way on every later call
  (`read_overflow_stuck`).  A buffer of 31 bytes, the least `new` accepts, has 7 bytes
  free after three 8-byte packets of a wrapper, or 15 after one 16-byte packet.
-/

namespace UsbdStorage

variable {w : World}

/-! ## `set_status` -/

theorem setStatus_panics_iff (hi : w.dev.Inv) (status : CommandStatus) :
    (setStatus w status).outcome = .panic ↔
      (status = .phaseError ∨ status = .failed) ∧ w.bus.inAnswers.head? ≠ some .accept := by
  rw [setStatus_eq]
  split_ifs with hst
  · have h := endDataTransfer_ok_iff
      (w := ({ w with dev := { w.dev with cs := some status } } : World).emit (.latch status))
      hi.packetSize_pos hi.cbw_fits rfl
    generalize endDataTransfer _ = c at h ⊢
    obtain ⟨w', _ | _ | _⟩ := c <;> simp_all
  · simp [hst]

def busyInStart : World :=
  ⟨⟨32, Buffer.new (List.replicate 32 0), .idle, .default, none, 0⟩,
    ⟨[], [.packet (hostCbwBytes 8 4 0x80 0 [0x28, 0, 0, 0, 0, 0, 0, 0, 1, 0])], false, false⟩,
    .empty⟩

def busyInWorld : World := (Action.call .read busyInStart).world

theorem busyInWorld_fail_panics :
    Reachable busyInWorld ∧ busyInWorld.dev.state = .dataTransferToHost ∧
      busyInWorld.dev.cs = none ∧ (setStatus busyInWorld .failed).outcome = .panic :=
  have h : Reachable busyInWorld :=
    (Reachable.init _ (by decide : 0 < 32)
      (rfl : BulkOnly.new 32 0 (List.replicate 32 0) = .ok busyInStart.dev) rfl rfl).step
      .read rfl (by decide)
  ⟨h, by decide, by decide,
    (setStatus_panics_iff (inv_of_reachable h) .failed).mpr ⟨.inr rfl, by decide⟩⟩

/-! ## `read_data` -/

theorem readData_panics_iff (hv : w.dev.buf.Valid) (hs : w.dev.state = .dataTransferFromHost)
    (dst : List UInt8) :
    ((readData w dst).outcome = .panic ↔ dst.length < w.dev.buf.availableRead) ∧
      (w.dev.buf.availableRead ≤ dst.length →
        (readData w dst).outcome =
            .ok (min dst.length w.dev.buf.availableRead,
              w.dev.buf.content.take (min dst.length w.dev.buf.availableRead) ++
                dst.drop (min dst.length w.dev.buf.availableRead)) ∧
          (readData w dst).world.dev.buf.content =
            w.dev.buf.content.drop (min dst.length w.dev.buf.availableRead)) := by
  obtain ⟨hok, hpanic⟩ := readData_spec hv hs dst
  by_cases h : dst.length < w.dev.buf.availableRead
  · rw [hpanic h]
    exact ⟨iff_of_true rfl h, fun hle => absurd hle (by omega)⟩
  · have hle : w.dev.buf.availableRead ≤ dst.length := by omega
    have hmin : min dst.length w.dev.buf.availableRead = w.dev.buf.availableRead :=
      min_eq_right hle
    rw [hok hle, hmin, List.take_of_length_le hv.length_content.le]
    exact ⟨iff_of_false (by simp) h, fun _ => ⟨rfl, (hv.consume le_rfl).2⟩⟩

def shortReadStart : World :=
  ⟨⟨32, Buffer.new (List.replicate 64 0), .idle, .default, none, 0⟩,
    ⟨[], [.packet (hostCbwBytes 9 16 0 0 [0x2A, 0, 0, 0, 0, 0, 0, 0, 1, 0]),
      .packet (List.replicate 16 7)], false, false⟩, .empty⟩

def shortReadWorld : World := (Action.call .read (Action.call .read shortReadStart).world).world

theorem shortReadWorld_readData_panics :
    Reachable shortReadWorld ∧ shortReadWorld.dev.state = .dataTransferFromHost ∧
      shortReadWorld.dev.buf.availableRead = 16 ∧
      (readData shortReadWorld (List.replicate 8 0)).outcome = .panic :=
  have h : Reachable shortReadWorld :=
    ((Reachable.init _ (by decide : 0 < 32)
      (rfl : BulkOnly.new 32 0 (List.replicate 64 0) = .ok shortReadStart.dev) rfl rfl).step
      .read rfl (by decide)).step .read rfl (by decide)
  ⟨h, by decide, by decide,
    ((readData_panics_iff (inv_of_reachable h).valid (by decide) _).1).mpr (by decide)⟩

/-! ## Receiving a wrapper -/

theorem read_of_awaiting (hs : w.dev.state = .idle ∨ w.dev.state = .commandTransfer) :
    read w = handleReadCbw w := by
  rcases hs with hs | hs <;> simp [read, hs]

theorem handleReadCbw_err {e : TransportError} :
    (handleReadCbw w).outcome = .err e ↔ (readPacket w).outcome = .err e := by
  unfold handleReadCbw Call.andThen
  split <;> simp_all
  split
  · split <;> simp
  · simp

theorem read_overflow (hv : w.dev.buf.Valid)
    (hs : w.dev.state = .idle ∨ w.dev.state = .commandTransfer)
    (h : w.dev.buf.inner.length - w.dev.buf.availableRead < w.dev.packetSize) :
    read w = ⟨w.setBuf (w.dev.buf.makeRoom w.dev.packetSize), .err (.error .ioBufferOverflow)⟩ := by
  rw [read_of_awaiting hs, handleReadCbw, readPacket_overflow hv h]
  rfl

theorem read_overflow_stuck (hv : w.dev.buf.Valid)
    (hs : w.dev.state = .idle ∨ w.dev.state = .commandTransfer) :
    ((read w).outcome = .err (.error .ioBufferOverflow) ↔
        w.dev.buf.inner.length - w.dev.buf.availableRead < w.dev.packetSize) ∧
      (w.dev.buf.inner.length - w.dev.buf.availableRead < w.dev.packetSize →
        (read w).world = w.setBuf (w.dev.buf.makeRoom w.dev.packetSize) ∧
          (read w).world.dev.buf.content = w.dev.buf.content ∧
          read (read w).world = ⟨(read w).world, .err (.error .ioBufferOverflow)⟩) := by
  refine ⟨⟨fun h => ?_, fun h => by rw [read_overflow hv hs h]⟩, fun h => ?_⟩
  · by_contra hroom
    rw [read_of_awaiting hs, handleReadCbw_err] at h
    exact readPacket_ne_overflow hv (by omega) h
  obtain ⟨hv', hl, hc, -⟩ := hv.makeRoom w.dev.packetSize
  have hroom' : (w.setBuf (w.dev.buf.makeRoom w.dev.packetSize)).dev.buf.inner.length -
      (w.setBuf (w.dev.buf.makeRoom w.dev.packetSize)).dev.buf.availableRead < w.dev.packetSize := by
    simp only [World.setBuf_dev, hl, ← hv'.length_content, hc, hv.length_content]
    exact h
  rw [read_overflow hv hs h]
  refine ⟨rfl, hc, ?_⟩
  rw [read_overflow (w := w.setBuf (w.dev.buf.makeRoom w.dev.packetSize)) hv' hs hroom']
  simp only [World.setBuf_dev, Buffer.makeRoom_makeRoom]
  rfl

def testUnitReadyCbw : List UInt8 := hostCbwBytes 5 0 0 0 [0, 0, 0, 0, 0, 0]

def smallBufStart : World :=
  ⟨⟨8, Buffer.new (List.replicate 31 0), .idle, .default, none, 0⟩,
    ⟨[], [.packet (testUnitReadyCbw.take 8), .packet ((testUnitReadyCbw.drop 8).take 8),
      .packet ((testUnitReadyCbw.drop 16).take 8), .packet (testUnitReadyCbw.drop 24)], false,
      false⟩, .empty⟩

def smallBufWorld : World :=
  (Action.call .read (Action.call .read (Action.call .read smallBufStart).world).world).world

theorem smallBufWorld_read_overflows :
    Reachable smallBufWorld ∧ smallBufWorld.dev.state = .commandTransfer ∧
      smallBufWorld.dev.buf.availableRead = 24 ∧
      (read smallBufWorld).outcome = .err (.error .ioBufferOverflow) ∧
      read (read smallBufWorld).world = ⟨(read smallBufWorld).world, .err (.error .ioBufferOverflow)⟩ :=
  have h : Reachable smallBufWorld :=
    (((Reachable.init _ (by decide : 0 < 8)
      (rfl : BulkOnly.new 8 0 (List.replicate 31 0) = .ok smallBufStart.dev) rfl rfl).step
      .read rfl (by decide)).step .read rfl (by decide)).step .read rfl (by decide)
  have hroom : smallBufWorld.dev.buf.inner.length - smallBufWorld.dev.buf.availableRead <
      smallBufWorld.dev.packetSize := by decide
  have hstuck := read_overflow_stuck (inv_of_reachable h).valid (.inr (by decide))
  ⟨h, by decide, by decide, hstuck.1.mpr hroom, (hstuck.2 hroom).2.2⟩

end UsbdStorage
