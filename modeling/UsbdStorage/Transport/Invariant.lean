import UsbdStorage.Transport.Steps

/-!
# The transport's invariant

`BulkOnly.Inv` is what every reachable state of the transport satisfies: the cursors of
the IO buffer are in order, and each state of the machine fixes what the buffer, the
wrapper and the status may hold (`BulkOnly.StateInv`).  It is kept by every method the
poll loop and the application call, from any state, whatever the endpoints answer; so
`get_command` never slices past the command block, and `StatusTransfer` always has CSW
bytes left to send.
-/

namespace UsbdStorage

def State.isDataTransfer : State → Bool
  | .dataTransferToHost | .dataTransferFromHost | .dataTransferNoData => true
  | _ => false

namespace CommandBlockWrapper

/-- A wrapper `from_le_bytes` accepted: its length byte is in `[1, 16]`, the block has the
16 bytes of `[u8; 16]`, and the LUN is a nibble. -/
def WellFormed (c : CommandBlockWrapper) : Prop :=
  1 ≤ c.blockLen ∧ c.blockLen ≤ 16 ∧ c.block.length = 16 ∧ c.lun < 16

theorem lun_lt (x : UInt8) : (x &&& (0b00001111 : UInt8)).toNat < 16 := by
  have : (x &&& (0b00001111 : UInt8)).toNat = x.toNat &&& 15 := by
    simp [UInt8.toNat, BitVec.toNat_and]; rfl
  rw [this]
  exact Nat.and_lt_two_pow (n := 4) _ (by decide)

theorem fromLeBytes_ok {value : List UInt8} {c : CommandBlockWrapper}
    (hlen : value.length = 27) (h : fromLeBytes value = .ok c) :
    c.WellFormed ∧ (c.direction = .notExpected ↔ c.dataTransferLen = 0) := by
  by_cases hb : minCbLen ≤ value.getD 10 0 ∧ value.getD 10 0 ≤ maxCbLen
  · unfold fromLeBytes at h
    rw [if_neg (not_not.mpr hb), Except.ok.injEq] at h
    subst h
    simp only [minCbLen, maxCbLen, UInt8.le_def] at hb
    refine ⟨⟨?_, ?_, by simp [hlen], lun_lt _⟩, ?_⟩
    · simpa using hb.1
    · simpa using hb.2
    · split <;> simp_all
      split <;> simp
  · unfold fromLeBytes at h
    rw [if_pos hb] at h
    cases h

end CommandBlockWrapper

theorem parseCbw_ok {raw : List UInt8} {c : CommandBlockWrapper} (hlen : raw.length = cbwLen)
    (h : parseCbw raw = .ok c) :
    c.WellFormed ∧ (c.direction = .notExpected ↔ c.dataTransferLen = 0) := by
  unfold parseCbw at h
  split at h
  · exact CommandBlockWrapper.fromLeBytes_ok (by simp [hlen, cbwLen]) h
  · cases h

namespace BulkOnly

/-- What each state guarantees about the other fields. -/
def StateInv (d : BulkOnly) : State → Prop
  | .idle => d.buf.content = [] ∧ d.cs = none ∧ d.cbw = .default
  | .commandTransfer => 0 < d.buf.availableRead ∧ d.buf.availableRead < cbwLen ∧ d.cs = none
  | .dataTransferToHost | .dataTransferFromHost => d.cbw.WellFormed
  | .dataTransferNoData => d.cbw.WellFormed ∧ d.cbw.dataTransferLen = 0
  | .statusTransfer =>
      d.cbw.WellFormed ∧ ∃ st, d.cs = some st ∧ d.buf.content ≠ [] ∧
        d.buf.content <:+ cswBytes d.cbw.tag d.cbw.dataTransferLen st

/-- The configuration `new` accepted, and what the state guarantees. -/
structure Inv (d : BulkOnly) : Prop where
  packetSize_pos : 0 < d.packetSize
  cbw_fits : cbwLen ≤ d.buf.inner.length
  packet_fits : d.packetSize ≤ d.buf.inner.length
  valid : d.buf.Valid
  state : d.StateInv d.state

variable {d : BulkOnly}

theorem Inv.latched (h : d.Inv) (hcs : d.cs.isSome) :
    d.state.isDataTransfer ∨ d.state = .statusTransfer := by
  have hs := h.state
  cases hst : d.state <;> simp_all [StateInv, State.isDataTransfer]

theorem Inv.getCommand_ne_panic (h : d.Inv) : d.getCommand ≠ .panic := by
  have hs := h.state
  unfold getCommand
  cases hst : d.state <;> simp only [hst, StateInv, CommandBlockWrapper.WellFormed] at hs ⊢ <;>
    simp <;> omega

theorem Inv.cs_none (h : d.Inv) (hs : d.state = .idle ∨ d.state = .commandTransfer) :
    d.cs = none := by
  have hst := h.state
  rcases hs with hs | hs <;> rw [hs] at hst
  exacts [hst.2.1, hst.2.2]

theorem Inv.statusTransfer_content (h : d.Inv) (hs : d.state = .statusTransfer) :
    d.buf.content ≠ [] := by
  have hst := h.state
  rw [hs] at hst
  obtain ⟨-, _, _, hne, _⟩ := hst
  exact hne

theorem inv_enterState_idle (hp : 0 < d.packetSize) (hc : cbwLen ≤ d.buf.inner.length)
    (hpf : d.packetSize ≤ d.buf.inner.length) : (d.enterState .idle).Inv :=
  ⟨hp, hc, hpf, Buffer.valid_clean _, by simp [StateInv]⟩

theorem Inv.setBuf (h : d.Inv) {b : Buffer} (hv : b.Valid)
    (hl : b.inner.length = d.buf.inner.length) (hc : b.content = d.buf.content) :
    ({ d with buf := b } : BulkOnly).Inv := by
  refine ⟨h.packetSize_pos, hl ▸ h.cbw_fits, hl ▸ h.packet_fits, hv, ?_⟩
  have hs := h.state
  have ha : b.availableRead = d.buf.availableRead := by
    rw [← hv.length_content, ← h.valid.length_content, hc]
  cases hst : d.state <;> simp_all [StateInv]

theorem Inv.of_dataTransfer (h : d.Inv) {d' : BulkOnly} (hst : d'.state = d.state)
    (hd : d.state.isDataTransfer) (hp : d'.packetSize = d.packetSize)
    (hl : d'.buf.inner.length = d.buf.inner.length) (hv : d'.buf.Valid)
    (hc : d'.cbw.WellFormed)
    (hn : d.state = .dataTransferNoData → d'.cbw.dataTransferLen = 0) : d'.Inv := by
  refine ⟨hp ▸ h.packetSize_pos, hl ▸ h.cbw_fits, hp ▸ hl ▸ h.packet_fits, hv, ?_⟩
  rw [hst]
  cases hs : d.state <;> simp_all [StateInv, State.isDataTransfer]

theorem Inv.wellFormed (h : d.Inv) (hd : d.state.isDataTransfer) : d.cbw.WellFormed := by
  have hs := h.state
  cases hst : d.state <;> simp_all [StateInv, State.isDataTransfer]

theorem Inv.noData (h : d.Inv) (hn : d.state = .dataTransferNoData) :
    d.cbw.dataTransferLen = 0 := by
  have hs := h.state
  rw [hn] at hs
  exact hs.2

end BulkOnly

open BulkOnly

variable {w : World}

/-! ## Status transfer -/

theorem handleWriteCsw_inv (h : w.dev.Inv) (hs : w.dev.state = .statusTransfer) :
    (handleWriteCsw w).world.dev.Inv := by
  obtain ⟨-, -, hcase⟩ := handleWriteCsw_spec h.valid h.packetSize_pos
  rcases hcase with ⟨e, -, hd, -⟩ | ⟨n, -, -, hnm, hlt, heq⟩
  · exact hd ▸ h
  have hle : n ≤ w.dev.buf.availableRead := hnm ▸ min_le_right _ _
  obtain ⟨hv', hc'⟩ := h.valid.consume hle
  rcases Nat.lt_or_eq_of_le hle with hlt' | heq'
  · rw [(hlt hlt').1]
    refine ⟨h.packetSize_pos, h.cbw_fits, h.packet_fits, hv', ?_⟩
    have hst := h.state
    rw [hs] at hst
    obtain ⟨hwf, st, hcs, -, hsuf⟩ := hst
    show StateInv _ w.dev.state
    rw [hs]
    refine ⟨hwf, st, hcs, ?_, ?_⟩
    · rw [hc', ne_eq, List.drop_eq_nil_iff, h.valid.length_content]
      omega
    · exact hc' ▸ (List.drop_suffix n _).trans hsuf
  · rw [(heq heq').1]
    exact inv_enterState_idle h.packetSize_pos h.cbw_fits h.packet_fits

theorem queueCsw_inv (h : w.dev.Inv) (hd : w.dev.state.isDataTransfer) {st : CommandStatus}
    (hcs : w.dev.cs = some st) :
    (queueCsw (stallOnResidue w) (cswBytes w.dev.cbw.tag w.dev.cbw.dataTransferLen st)).dev.Inv := by
  have hfit : (cswBytes w.dev.cbw.tag w.dev.cbw.dataTransferLen st).length ≤
      (stallOnResidue w).dev.buf.inner.length := by
    rw [length_cswBytes, stallOnResidue_dev]
    exact le_trans (by decide) h.cbw_fits
  obtain ⟨-, hdev, hv, hl, hc, -, -⟩ := queueCsw_spec (stallOnResidue w)
    (cswBytes w.dev.cbw.tag w.dev.cbw.dataTransferLen st) hfit
  rw [stallOnResidue_dev] at hdev hl
  rw [hdev]
  generalize (queueCsw (stallOnResidue w) _).dev.buf = b at hv hl hc ⊢
  refine ⟨h.packetSize_pos, hl ▸ h.cbw_fits, hl ▸ h.packet_fits, hv,
    ⟨h.wellFormed hd, st, hcs, ?_, ?_⟩⟩
  · show b.content ≠ []
    simp [hc, cswBytes]
  · show b.content <:+ _
    simp only [hc]
    exact List.suffix_refl _

theorem endDataTransfer_inv (h : w.dev.Inv) (hd : w.dev.state.isDataTransfer) {st : CommandStatus}
    (hcs : w.dev.cs = some st) : (endDataTransfer w).world.dev.Inv := by
  rw [endDataTransfer_eq hcs]
  exact handleWriteCsw_inv (queueCsw_inv h hd hcs) rfl

theorem checkEndDataTransfer_inv (h : w.dev.Inv) (hd : w.dev.state.isDataTransfer) :
    (checkEndDataTransfer w).world.dev.Inv := by
  rw [checkEndDataTransfer_eq]
  split
  · rename_i hover
    obtain ⟨st, hcs⟩ := Option.isSome_iff_exists.mp hover.1
    exact endDataTransfer_inv h hd hcs
  · exact h

/-! ## The methods the poll loop calls -/

theorem handleReadCbw_inv (h : w.dev.Inv)
    (hs : w.dev.state = .idle ∨ w.dev.state = .commandTransfer) :
    (handleReadCbw w).world.dev.Inv := by
  obtain ⟨hd, hv, hl, -, -, hcase⟩ := readPacket_spec h.valid
  unfold handleReadCbw
  generalize readPacket w = c at hd hv hl hcase ⊢
  obtain ⟨w', o⟩ := c
  dsimp only at hd hv hl hcase
  have h' : ({ w.dev with buf := w'.dev.buf } : BulkOnly).Inv → w'.dev.Inv := fun hi => hd ▸ hi
  rcases hcase with ⟨p, rfl, hp, -, hc, -⟩ | ⟨e, rfl, hc, -⟩
  · simp only [Call.andThen_ok]
    have hlen : w'.dev.buf.availableRead = w.dev.buf.availableRead + p.length := by
      rw [← hv.length_content, hc, List.length_append, h.valid.length_content]
    have hconf : 0 < w'.dev.packetSize ∧ cbwLen ≤ w'.dev.buf.inner.length ∧
        w'.dev.packetSize ≤ w'.dev.buf.inner.length := by
      rw [hd, hl]
      exact ⟨h.packetSize_pos, h.cbw_fits, h.packet_fits⟩
    split
    · rename_i hcbw
      rw [tryParseCbw_eq hcbw]
      obtain ⟨hv'', -⟩ := hv.consume hcbw
      cases hr : parseCbw (w'.dev.buf.content.take cbwLen) with
      | error e =>
        simp only [reset, enterState_dev, unstallOutEp_dev, unstallInEp_dev, stallEps,
          stallOutEp_dev, stallInEp_dev, World.setBuf_dev]
        exact inv_enterState_idle hconf.1 hconf.2.1 hconf.2.2
      | ok c =>
        have hraw : (w'.dev.buf.content.take cbwLen).length = cbwLen := by
          rw [List.length_take, hv.length_content, min_eq_left hcbw]
        obtain ⟨hwf, -⟩ := parseCbw_ok hraw hr
        dsimp only
        rw [startDataTransfer_dev]
        cases c.direction <;> exact ⟨hconf.1, hconf.2.1, hconf.2.2, hv'', by simpa [StateInv] using hwf⟩
    · simp only [enterState_dev,
        BulkOnly.enterState_of_ne _ (by decide : State.commandTransfer ≠ .idle)]
      refine ⟨hconf.1, hconf.2.1, hconf.2.2, hv, ?_⟩
      show 0 < w'.dev.buf.availableRead ∧ w'.dev.buf.availableRead < cbwLen ∧ w'.dev.cs = none
      exact ⟨by omega, by omega, by rw [hd]; exact h.cs_none hs⟩
  · exact h' (h.setBuf hv hl hc)

theorem BulkOnly.Inv.setResidue (h : w.dev.Inv)
    (hs : w.dev.state = .dataTransferFromHost ∨ w.dev.state = .dataTransferToHost) (n : Nat) :
    (w.setResidue n).dev.Inv := by
  have hd : w.dev.state.isDataTransfer := by rcases hs with hs | hs <;> rw [hs] <;> rfl
  refine h.of_dataTransfer rfl hd rfl rfl h.valid (h.wellFormed hd) fun hn => ?_
  rcases hs with hs | hs <;> rw [hs] at hn <;> cases hn

theorem handleReadFromHost_inv (h : w.dev.Inv) (hs : w.dev.state = .dataTransferFromHost) :
    (handleReadFromHost w).world.dev.Inv := by
  have hd : w.dev.state.isDataTransfer := by rw [hs]; rfl
  unfold handleReadFromHost
  split
  · obtain ⟨hdev, hv, hl, -, -, hcase⟩ := readPacket_spec h.valid
    generalize readPacket w = c at hdev hv hl hcase ⊢
    obtain ⟨w', o⟩ := c
    dsimp only at hdev hv hl hcase
    have hs' : w'.dev.state = .dataTransferFromHost := by rw [hdev]; exact hs
    have hi : w'.dev.Inv := by
      rw [hdev]
      exact h.of_dataTransfer rfl hd rfl hl hv (h.wellFormed hd) (by simp [hs])
    rcases hcase with ⟨p, rfl, -⟩ | ⟨e, rfl, -⟩
    · exact checkEndDataTransfer_inv (hi.setResidue (.inl hs') _)
        (by simp only [World.setResidue_dev, hs']; rfl)
    · exact hi
  · exact checkEndDataTransfer_inv h hd

theorem handleWriteToHost_inv (h : w.dev.Inv) (hs : w.dev.state = .dataTransferToHost) :
    (handleWriteToHost w).world.dev.Inv := by
  have hd : w.dev.state.isDataTransfer := by rw [hs]; rfl
  unfold handleWriteToHost
  dsimp only
  split
  · split
    · obtain ⟨-, -, -, hcase⟩ := writePacket_spec h.valid h.packetSize_pos
      generalize writePacket w = c at hcase ⊢
      obtain ⟨w', o⟩ := c
      dsimp only at hcase
      rcases hcase with ⟨n, rfl, -, hnm, hdev, -⟩ | ⟨e, rfl, hdev, -⟩
      · have hle : n ≤ w.dev.buf.availableRead := hnm ▸ min_le_right _ _
        have hi : w'.dev.Inv := hdev ▸ h.of_dataTransfer rfl hd rfl rfl (h.valid.consume hle).1
          (h.wellFormed hd) (by simp [hs])
        exact checkEndDataTransfer_inv (hi.setResidue (.inr (by rw [hdev]; exact hs)) _)
          (by simp [hdev, hs]; rfl)
      · exact hdev ▸ h
    · exact checkEndDataTransfer_inv h hd
  · exact h

theorem read_inv (h : w.dev.Inv) : (read w).world.dev.Inv := by
  unfold read
  split
  · exact handleReadCbw_inv h (.inl ‹_›)
  · exact handleReadCbw_inv h (.inr ‹_›)
  · exact handleReadFromHost_inv h ‹_›
  · exact h

theorem write_inv (h : w.dev.Inv) : (write w).world.dev.Inv := by
  unfold write
  split
  · exact handleWriteCsw_inv h ‹_›
  · exact handleWriteToHost_inv h ‹_›
  · exact checkEndDataTransfer_inv h (by rw [‹w.dev.state = _›]; rfl)
  · exact h

/-! ## The methods the application calls -/

theorem setStatus_inv (h : w.dev.Inv) (hd : w.dev.state.isDataTransfer) (status : CommandStatus) :
    (setStatus w status).world.dev.Inv := by
  have hi : (({ w with dev := { w.dev with cs := some status } } : World).emit
      (.latch status)).dev.Inv :=
    h.of_dataTransfer rfl hd rfl rfl h.valid (h.wellFormed hd) h.noData
  rw [setStatus_world]
  split
  · exact endDataTransfer_inv hi hd rfl
  · exact hi

theorem readData_inv (h : w.dev.Inv) (dst : List UInt8) : (readData w dst).world.dev.Inv := by
  by_cases hs : w.dev.state = .dataTransferFromHost
  · obtain ⟨hle, hlt⟩ := readData_spec h.valid hs dst
    rcases Nat.lt_or_ge dst.length w.dev.buf.availableRead with hl | hl
    · rw [hlt hl]
      exact h
    · rw [hle hl]
      exact h.of_dataTransfer rfl (by rw [hs]; rfl) rfl rfl (h.valid.consume le_rfl).1
        (h.wellFormed (by rw [hs]; rfl)) (by simp [hs])
  · simp [readData, hs, h]

theorem writeData_inv (h : w.dev.Inv) (src : List UInt8) : (writeData w src).world.dev.Inv := by
  by_cases hs : w.dev.state = .dataTransferToHost
  · have hd : w.dev.state.isDataTransfer := by rw [hs]; rfl
    cases hcs : w.dev.cs with
    | some st => simp [writeData, hs, BulkOnly.statusPresent, hcs, h]
    | none =>
      rw [writeData_eq hs hcs, World.emit_dev, World.setBuf_dev]
      obtain ⟨-, hv, hl, -⟩ := h.valid.write (src.take (min src.length w.dev.cbw.dataTransferLen))
      generalize (w.dev.buf.write _).1 = b at hv hl ⊢
      exact h.of_dataTransfer rfl hd rfl hl hv (h.wellFormed hd) (by simp [hs])
  · simp [writeData, hs, h]

theorem tryWriteDataAll_inv (h : w.dev.Inv) (src : List UInt8) :
    (tryWriteDataAll w src).world.dev.Inv := by
  by_cases hs : w.dev.state = .dataTransferToHost
  · have hd : w.dev.state.isDataTransfer := by rw [hs]; rfl
    cases hcs : w.dev.cs with
    | some st => simp [tryWriteDataAll, hs, BulkOnly.statusPresent, hcs, h]
    | none =>
      obtain ⟨hover, hroom⟩ := tryWriteDataAll_spec h.valid hs hcs src
      rcases Nat.lt_or_ge (w.dev.buf.inner.length - w.dev.buf.availableRead) src.length with
        hlt | hge
      · rw [hover hlt]
        obtain ⟨hv, hl, -, -⟩ := h.valid.makeRoom src.length
        exact h.of_dataTransfer rfl hd rfl hl hv (h.wellFormed hd) (by simp [hs])
      · obtain ⟨b, heq, hv, hl, -⟩ := hroom hge
        rw [heq]
        exact h.of_dataTransfer rfl hd rfl hl hv (h.wellFormed hd) (by simp [hs])
  · simp [tryWriteDataAll, hs, h]

theorem reset_inv (h : w.dev.Inv) : (reset w).dev.Inv := by
  simp only [reset, enterState_dev, unstallOutEp_dev, unstallInEp_dev]
  exact inv_enterState_idle h.packetSize_pos h.cbw_fits h.packet_fits

/-! ## Runs -/

/-- The calls a run is made of: the poll loop's `read` and `write`, the application's
calls from its callback, and the host's reset. -/
inductive Action where
  | read
  | write
  | readData (dst : List UInt8)
  | writeData (src : List UInt8)
  | tryWriteDataAll (src : List UInt8)
  | setStatus (status : CommandStatus)
  | reset
  deriving DecidableEq, Repr

def Outcome.erase {α : Type} : Outcome α → Outcome Unit
  | .ok _ => .ok ()
  | .err e => .err e
  | .panic => .panic

def Action.call : Action → World → Call Unit
  | .read, w => UsbdStorage.read w
  | .write, w => UsbdStorage.write w
  | .readData dst, w =>
      ⟨(UsbdStorage.readData w dst).world, (UsbdStorage.readData w dst).outcome.erase⟩
  | .writeData src, w =>
      ⟨(UsbdStorage.writeData w src).world, (UsbdStorage.writeData w src).outcome.erase⟩
  | .tryWriteDataAll src, w => UsbdStorage.tryWriteDataAll w src
  | .setStatus status, w => UsbdStorage.setStatus w status
  | .reset, w => ⟨UsbdStorage.reset w, .ok ()⟩

/-- `set_status` is called only where the poll loop lets the application finish a
command: in a data-transfer state with no status latched. -/
def Action.allowed : Action → BulkOnly → Bool
  | .setStatus _, d => d.state.isDataTransfer && d.cs.isNone
  | _, _ => true

/-- The worlds a run reaches.  It starts from a transport `new` accepted, with a packet size
the bus allocator gives (not zero), endpoints not halted and any answers of the bus to
come; a call that panics ends the run. -/
inductive Reachable : World → Prop where
  | init {packetSize maxLun : Nat} {buf : List UInt8} {d : BulkOnly} (bus : Bus) :
      0 < packetSize → BulkOnly.new packetSize maxLun buf = .ok d →
      bus.inStalled = false → bus.outStalled = false → Reachable ⟨d, bus, .empty⟩
  | step {w : World} (a : Action) : Reachable w → a.allowed w.dev →
      (a.call w).outcome ≠ .panic → Reachable (a.call w).world

def lunOneWorld : World :=
  ⟨⟨32, Buffer.new (List.replicate 32 0), .idle, .default, none, 0⟩,
    ⟨[], [.packet (hostCbwBytes 7 0 0 1 [0, 0, 0, 0, 0, 0])], false, false⟩, .empty⟩

theorem lunOneWorld_read_reachable : Reachable (Action.call .read lunOneWorld).world :=
  (Reachable.init _ (by decide : 0 < 32)
    (rfl : BulkOnly.new 32 0 (List.replicate 32 0) = .ok lunOneWorld.dev) rfl rfl).step
    .read rfl (by decide)

theorem BulkOnly.new_ok {packetSize maxLun : Nat} {buf : List UInt8} {d : BulkOnly}
    (h : BulkOnly.new packetSize maxLun buf = .ok d) :
    d = ⟨packetSize, Buffer.new buf, .idle, .default, none, maxLun⟩ ∧
      cbwLen ≤ buf.length ∧ packetSize ≤ buf.length := by
  unfold BulkOnly.new at h
  split at h
  · cases h
  split at h
  · cases h
  rename_i hsmall
  cases h
  simp only [not_or, not_lt] at hsmall
  exact ⟨rfl, hsmall⟩

theorem new_inv {packetSize maxLun : Nat} {buf : List UInt8} {d : BulkOnly}
    (hp : 0 < packetSize) (h : BulkOnly.new packetSize maxLun buf = .ok d) : d.Inv := by
  obtain ⟨rfl, hc, hpf⟩ := BulkOnly.new_ok h
  exact ⟨hp, hc, hpf, ⟨Nat.zero_le _, Nat.zero_le _⟩,
    by simp [StateInv, Buffer.new, Buffer.content]⟩

theorem Action.call_inv (h : w.dev.Inv) (a : Action) (ha : a.allowed w.dev) :
    (a.call w).world.dev.Inv := by
  cases a with
  | read => exact read_inv h
  | write => exact write_inv h
  | readData dst => exact readData_inv h dst
  | writeData src => exact writeData_inv h src
  | tryWriteDataAll src => exact tryWriteDataAll_inv h src
  | setStatus status =>
    simp only [Action.allowed, Bool.and_eq_true] at ha
    exact setStatus_inv h ha.1 status
  | reset => exact reset_inv h

theorem inv_of_reachable (h : Reachable w) : w.dev.Inv := by
  induction h with
  | init bus hp hnew => exact new_inv hp hnew
  | step a _ ha _ ih => exact Action.call_inv ih a ha

theorem transport_invariant (h : Reachable w) :
    w.dev.Inv ∧ (w.dev.cs.isSome → w.dev.state.isDataTransfer ∨ w.dev.state = .statusTransfer) :=
  ⟨inv_of_reachable h, (inv_of_reachable h).latched⟩

theorem lunOneWorld_read_invariant :
    Reachable (Action.call .read lunOneWorld).world ∧
      (Action.call .read lunOneWorld).world.dev.Inv ∧
      ((Action.call .read lunOneWorld).world.dev.cs.isSome →
        (Action.call .read lunOneWorld).world.dev.state.isDataTransfer ∨
          (Action.call .read lunOneWorld).world.dev.state = .statusTransfer) :=
  ⟨lunOneWorld_read_reachable, transport_invariant lunOneWorld_read_reachable⟩

/-! ## The LUN of a command -/

theorem getCommand_lun_lt (h : w.dev.Inv) {cb : CommandBlock}
    (hc : w.dev.getCommand = .ok (some cb)) : cb.lun < 16 := by
  have hs := h.state
  unfold BulkOnly.getCommand at hc
  cases hst : w.dev.state <;> simp only [hst] at hc hs <;> try cases hc
  all_goals
    split at hc
    · cases hc
      simp_all [StateInv, CommandBlockWrapper.WellFormed]
    · cases hc

theorem getCommand_lun_le (h : Reachable w) {cb : CommandBlock}
    (hc : w.dev.getCommand = .ok (some cb)) : cb.lun ≤ 15 :=
  Nat.le_of_lt_succ (getCommand_lun_lt (inv_of_reachable h) hc)

theorem lunOneWorld_read_lun :
    Reachable (Action.call .read lunOneWorld).world ∧
      (Action.call .read lunOneWorld).world.dev.getCommand = .ok (some ⟨[0, 0, 0, 0, 0, 0], 1⟩) ∧
      1 ≤ 15 :=
  have hc : (Action.call .read lunOneWorld).world.dev.getCommand =
      .ok (some ⟨[0, 0, 0, 0, 0, 0], 1⟩) := by decide
  ⟨lunOneWorld_read_reachable, hc, getCommand_lun_le lunOneWorld_read_reachable hc⟩

theorem getCommand_lun_exceeds_maxLun :
    ¬ ∀ w : World, Reachable w → ∀ cb : CommandBlock,
      w.dev.getCommand = .ok (some cb) → cb.lun ≤ w.dev.maxLun := by
  intro hall
  exact absurd (hall _ lunOneWorld_read_reachable ⟨[0, 0, 0, 0, 0, 0], 1⟩ (by decide)) (by decide)

/-! ## A wrapper the device refuses -/

/-- A wrapper the device must refuse (spec. 6.2.1): no `USBC` signature, or a
`bCBWCBLength` outside `[1, 16]`. -/
def InvalidCbw (raw : List UInt8) : Prop :=
  raw.take 4 ≠ cbwSignatureLe ∨ ¬ (1 ≤ (raw.getD 14 0).toNat ∧ (raw.getD 14 0).toNat ≤ 16)

instance : DecidablePred InvalidCbw := fun _ => inferInstanceAs (Decidable (_ ∨ _))

theorem parseCbw_invalid {raw : List UInt8} (h : InvalidCbw raw) : parseCbw raw = .error ⟨⟩ := by
  unfold parseCbw
  split
  · rename_i hsig
    have htake : raw.take 4 = cbwSignatureLe := by
      have := (List.prefix_iff_eq_take.mp (List.isPrefixOf_iff_prefix.mp hsig)).symm
      simpa [cbwSignatureLe, u32ToLeBytes] using this
    have hlen : ¬ (1 ≤ ((raw.drop 4).getD 10 0).toNat ∧ ((raw.drop 4).getD 10 0).toNat ≤ 16) := by
      simpa [InvalidCbw, htake] using h
    unfold CommandBlockWrapper.fromLeBytes
    rw [if_pos]
    simpa [CommandBlockWrapper.minCbLen, CommandBlockWrapper.maxCbLen, UInt8.le_def] using hlen
  · rfl

/-- `handle_read_cbw` calls `reset` right after `stall_eps`, so neither endpoint stays halted. -/
theorem read_invalidCbw_unstalls (hs : w.dev.state = .idle ∨ w.dev.state = .commandTransfer) {n : Nat}
    (hok : (readPacket w).outcome = .ok n)
    (hfull : cbwLen ≤ (readPacket w).world.dev.buf.availableRead)
    (hinv : InvalidCbw ((readPacket w).world.dev.buf.content.take cbwLen)) :
    (read w).world.dev.state = .idle ∧ (read w).world.dev.buf.content = [] ∧
      (read w).world.dev.cs = none ∧ (read w).world.dev.getCommand = .ok none ∧
      (read w).world.bus.inStalled = false ∧ (read w).world.bus.outStalled = false := by
  have hread : read w = handleReadCbw w := by
    unfold read
    rcases hs with hs | hs <;> simp [hs]
  rw [hread, handleReadCbw]
  generalize readPacket w = c at hok hfull hinv ⊢
  obtain ⟨w', o⟩ := c
  dsimp only at hok hfull hinv
  subst hok
  simp only [Call.andThen_ok, if_pos hfull, tryParseCbw_eq hfull, parseCbw_invalid hinv]
  simp [reset, stallEps, BulkOnly.getCommand]

def zeroWrapperWorld : World :=
  ⟨⟨32, Buffer.new (List.replicate 32 0), .idle, .default, none, 0⟩,
    ⟨[], [.packet (List.replicate 31 0)], false, false⟩, .empty⟩

theorem read_zeroWrapper_unstalls :
    (readPacket zeroWrapperWorld).outcome = .ok 31 ∧
      cbwLen ≤ (readPacket zeroWrapperWorld).world.dev.buf.availableRead ∧
      InvalidCbw ((readPacket zeroWrapperWorld).world.dev.buf.content.take cbwLen) ∧
      (read zeroWrapperWorld).world.bus.inStalled = false ∧
      (read zeroWrapperWorld).world.bus.outStalled = false :=
  have hc := read_invalidCbw_unstalls (.inl rfl) (n := 31) (by decide) (by decide) (by decide)
  ⟨by decide, by decide, by decide, hc.2.2.2.2⟩

end UsbdStorage
