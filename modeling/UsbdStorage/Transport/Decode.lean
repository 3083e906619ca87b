import Mathlib.Data.Nat.Bitwise
import UsbdStorage.Transport.Tracking

/-!
# Decoding the command block wrapper

`wireCbw` reads a 31-byte wrapper the way the Bulk-Only specification lays it out, field by
field at its byte offset; `try_parse_cbw` with `from_le_bytes` computes the same partial map
(`parseCbw_toOption`), and it gives back the fields of every wrapper a host encodes
(`parseCbw_hostCbwBytes`).  `try_parse_cbw` takes exactly the 31 bytes at the front of the
IO buffer, and `start_data_transfer` picks the data phase from the transfer length and bit 7
of the flags.

The decoded wrapper then stays what `get_command` reads until the transport enters `Idle`
again: along every run, the wrapper the trace records as served is the decoding of the
first 31 OUT bytes since the previous command, and the block and LUN in the transport are
its own (`ServedAgrees`, kept by every call, `agrees_of_reachable`).
-/

namespace UsbdStorage

/-! ## The wire layout -/

/-- `LE32(b[i..i + 4])`: the four bytes from offset `i`, least significant first. -/
def le32 (b : List UInt8) (i : Nat) : Nat :=
  (b.getD i 0).toNat + 256 * (b.getD (i + 1) 0).toNat + 65536 * (b.getD (i + 2) 0).toNat +
    16777216 * (b.getD (i + 3) 0).toNat

/-- The wrapper a CBW stands for, read off the Bulk-Only layout (section 5.1): the
signature `55 53 42 43`, `dCBWTag` at 4, `dCBWDataTransferLength` at 8, the direction in
bit 7 of `bmCBWFlags` at 12, the LUN in the low nibble of 13, `bCBWCBLength` at 14 between
1 and 16, and the block from 15.  No data phase is expected when the length is 0. -/
def wireCbw (b : List UInt8) : Option CommandBlockWrapper :=
  if b.take 4 = [0x55, 0x53, 0x42, 0x43] ∧ 1 ≤ (b.getD 14 0).toNat ∧ (b.getD 14 0).toNat ≤ 16 then
    some { tag := le32 b 4
           dataTransferLen := le32 b 8
           direction :=
             if le32 b 8 = 0 then .notExpected
             else if (b.getD 12 0).toNat.testBit 7 then .«in» else .out
           lun := (b.getD 13 0).toNat % 16
           blockLen := (b.getD 14 0).toNat
           block := b.drop 15 }
  else none

theorem getD_drop (b : List UInt8) (i j : Nat) : (b.drop i).getD j 0 = b.getD (i + j) 0 := by
  simp [List.getD_eq_getElem?_getD, List.getElem?_drop]

theorem u32FromLeBytes_window (b : List UInt8) (i : Nat) :
    u32FromLeBytes ((b.drop i).take 4) = le32 b i := by
  have h : ∀ j, b.getD (i + j) 0 = (b.drop i).getD j 0 := fun j => (getD_drop b i j).symm
  rw [le32, ← Nat.add_zero i, h 0, h 1, h 2, h 3, Nat.add_zero]
  generalize b.drop i = l
  rcases l with _ | ⟨a, _ | ⟨b, _ | ⟨c, _ | ⟨d, l⟩⟩⟩⟩ <;> simp [u32FromLeBytes] <;> omega

theorem and_bit_seven (x : UInt8) : ((x &&& ((1 : UInt8) <<< 7)) > 0) ↔ x.toNat.testBit 7 := by
  show 0 < x.toNat &&& 2 ^ 7 ↔ _
  rw [Nat.and_two_pow]
  cases x.toNat.testBit 7 <;> simp

theorem toNat_and_low_nibble (x : UInt8) : (x &&& (0b00001111 : UInt8)).toNat = x.toNat % 16 :=
  Nat.and_pow_two_sub_one_eq_mod x.toNat 4

theorem signature_prefix_iff (b : List UInt8) :
    cbwSignatureLe <+: b ↔ b.take 4 = [0x55, 0x53, 0x42, 0x43] := by
  rw [List.prefix_iff_eq_take, eq_comm]
  rfl

theorem parseCbw_toOption (b : List UInt8) : (parseCbw b).toOption = wireCbw b := by
  unfold parseCbw wireCbw CommandBlockWrapper.fromLeBytes
  by_cases hs : b.take 4 = [0x55, 0x53, 0x42, 0x43]
  · simp only [List.isPrefixOf_iff_prefix, signature_prefix_iff, hs, if_true, true_and, getD_drop,
      List.drop_drop, u32FromLeBytes_window, and_bit_seven, toNat_and_low_nibble]
    have hlen : ∀ x : UInt8, (CommandBlockWrapper.minCbLen ≤ x ∧ x ≤ CommandBlockWrapper.maxCbLen) ↔
        (1 ≤ x.toNat ∧ x.toNat ≤ 16) := fun _ => Iff.rfl
    simp only [Nat.reduceAdd, hlen, ne_eq, ite_not]
    split_ifs <;> rfl
  · simp [hs, signature_prefix_iff, Except.toOption]

theorem toNat_uint8OfNat (n : Nat) : (UInt8.ofNat n).toNat = n % 256 := rfl

theorem parseCbw_hostCbwBytes {tag dataTransferLen : Nat} (htag : tag < 2 ^ 32)
    (hlen : dataTransferLen < 2 ^ 32) (flags lun : UInt8) {block : List UInt8}
    (h₁ : 1 ≤ block.length) (h₁₆ : block.length ≤ 16) :
    parseCbw (hostCbwBytes tag dataTransferLen flags lun block) =
      .ok { tag, dataTransferLen
            direction := if dataTransferLen = 0 then .notExpected
              else if flags.toNat.testBit 7 then .«in» else .out
            lun := lun.toNat % 16
            blockLen := block.length
            block := block ++ List.replicate (16 - block.length) 0 } := by
  have h₄ : le32 (hostCbwBytes tag dataTransferLen flags lun block) 4 = tag := by
    simp [hostCbwBytes, u32ToLeBytes, cbwSignatureLe, le32, toNat_uint8OfNat]
    omega
  have h₈ : le32 (hostCbwBytes tag dataTransferLen flags lun block) 8 = dataTransferLen := by
    simp [hostCbwBytes, u32ToLeBytes, cbwSignatureLe, le32, toNat_uint8OfNat]
    omega
  have h₁₄ : ((hostCbwBytes tag dataTransferLen flags lun block).getD 14 0).toNat =
      block.length := by
    simp [hostCbwBytes, u32ToLeBytes, cbwSignatureLe, toNat_uint8OfNat]
    omega
  have hw : wireCbw (hostCbwBytes tag dataTransferLen flags lun block) = some ⟨tag, dataTransferLen,
      if dataTransferLen = 0 then .notExpected else if flags.toNat.testBit 7 then .«in» else .out,
      lun.toNat % 16, block.length, block ++ List.replicate (16 - block.length) 0⟩ := by
    rw [wireCbw, if_pos ⟨by simp [hostCbwBytes, u32ToLeBytes, cbwSignatureLe], by omega, by omega⟩,
      h₄, h₈, h₁₄]
    simp [hostCbwBytes, u32ToLeBytes, cbwSignatureLe]
  have h := parseCbw_toOption (hostCbwBytes tag dataTransferLen flags lun block)
  rw [hw] at h
  revert h
  cases parseCbw _ <;> simp [Except.toOption]

theorem inquiryCbw_decodes :
    ((0xFFFFFFFF : Nat) < 2 ^ 32 ∧ (36 : Nat) < 2 ^ 32 ∧ 1 ≤ [0x12, 0, 0, 0, 36, 0].length ∧
        [0x12, 0, 0, 0, 36, 0].length ≤ 16) ∧
      parseCbw (hostCbwBytes 0xFFFFFFFF 36 0x80 0x21 [0x12, 0, 0, 0, 36, 0]) =
        .ok ⟨0xFFFFFFFF, 36, .«in», 1, 6, [0x12, 0, 0, 0, 36, 0] ++ List.replicate 10 0⟩ :=
  ⟨by decide, parseCbw_hostCbwBytes (by decide) (by decide) _ _ (by decide) (by decide)⟩

theorem startDataTransfer_wire {b : List UInt8} {c : CommandBlockWrapper} (hc : wireCbw b = some c)
    (w : World) :
    (startDataTransfer w c).dev.cbw = c ∧
      (startDataTransfer w c).dev.state =
        if le32 b 8 = 0 then .dataTransferNoData
        else if (b.getD 12 0).toNat.testBit 7 then .dataTransferToHost else .dataTransferFromHost := by
  obtain ⟨-, ⟨⟩⟩ := Option.ite_none_right_eq_some.mp hc
  rw [startDataTransfer_dev]
  by_cases h0 : le32 b 8 = 0
  · simp only [h0, if_true, and_self]
  · by_cases h7 : (b.getD 12 0).toNat.testBit 7 <;>
      simp only [h0, h7, if_true, if_false, Bool.false_eq_true, and_self]

/-! ## The wrapper served -/

namespace World

/-- The wrapper the trace records as served, the events before it, and the command block
`get_command` hands out for it. -/
def served (w : World) : Option (CommandBlockWrapper × List Event × CommandBlock) :=
  w.trace.current.map fun c => (c.cbw, c.before, ⟨w.dev.cbw.block.take w.dev.cbw.blockLen, w.dev.cbw.lun⟩)

@[simp] theorem served_emit (w : World) (e : Event) : (w.emit e).served = w.served := by
  unfold served emit Trace.emit
  cases w.trace.current <;> rfl

@[simp] theorem served_setBuf (w : World) (b : Buffer) : (w.setBuf b).served = w.served := rfl

@[simp] theorem served_setResidue (w : World) (n : Nat) : (w.setResidue n).served = w.served :=
  rfl

theorem served_eq_none {w : World} : w.served = none ↔ w.trace.current = none := by
  simp [served]

end World

variable {w : World}

def KeepsServed (w w' : World) : Prop := w'.served = w.served ∨ w'.trace.current = none

theorem KeepsServed.of_eq {w' : World} (h : w'.served = w.served) : KeepsServed w w' := .inl h

theorem KeepsServed.refl (w : World) : KeepsServed w w := .inl rfl

theorem KeepsServed.trans {w₁ w₂ w₃ : World} (h₁ : KeepsServed w₁ w₂) (h₂ : KeepsServed w₂ w₃) :
    KeepsServed w₁ w₃ := by
  rcases h₂ with h₂ | h₂
  · rcases h₁ with h₁ | h₁
    · exact .inl (h₂.trans h₁)
    · exact .inr (World.served_eq_none.mp (h₂.trans (World.served_eq_none.mpr h₁)))
  · exact .inr h₂

theorem KeepsServed.andThen {α β : Type} {c : Call α} {k : α → World → Call β}
    (h₁ : KeepsServed w c.world) (h₂ : ∀ a, KeepsServed c.world (k a c.world).world) :
    KeepsServed w (c.andThen k).world := by
  unfold Call.andThen
  split
  · exact h₁.trans (h₂ _)
  · exact h₁
  · exact h₁

theorem inEpWrite_served (w : World) (p : List UInt8) : (inEpWrite w p).1.served = w.served := by
  unfold inEpWrite
  split
  · rfl
  · split <;> simp only [World.served_emit] <;> rfl

theorem outEpRead_served (w : World) (slice : List UInt8) :
    (outEpRead w slice).1.served = w.served := by
  unfold outEpRead
  split
  · rfl
  · split
    · split <;> simp only [World.served_emit] <;> rfl
    · rfl

theorem readPacket_served : (readPacket w).world.served = w.served := by
  unfold readPacket
  split <;> rename_i heq <;> (try split) <;>
    refine Buffer.writeAll_preserves (P := fun w' : World => w'.served = w.served) heq ?_ rfl
  all_goals
    intro slice s hs
    have hout : ∀ r, outEpRead s slice = r → r.1.served = w.served :=
      fun r hr => hr ▸ (outEpRead_served s slice).trans hs
    split <;> rename_i heq' <;> (try split) <;> exact hout _ heq'

theorem writePacket_served : (writePacket w).world.served = w.served := by
  unfold writePacket
  dsimp only
  split <;> rename_i heq <;> (try split) <;>
    refine Buffer.read_preserves (P := fun w' : World => w'.served = w.served) heq ?_ rfl
  all_goals
    intro slice s hs
    have hin : ∀ r, inEpWrite s (slice.take (min w.dev.packetSize slice.length)) = r →
        r.1.served = w.served := fun r hr => hr ▸ (inEpWrite_served s _).trans hs
    split
    · split <;> rename_i heq' <;> (try split) <;> exact hin _ heq'
    · exact hs

theorem enterState_keeps (s : State) : KeepsServed w (enterState w s) := by
  by_cases h : s = .idle
  · subst h
    exact .inr rfl
  · refine .of_eq ?_
    simp only [World.served, enterState_trace, if_neg h, enterState_dev,
      BulkOnly.enterState_of_ne _ h]

theorem stallOnResidue_served : (stallOnResidue w).served = w.served := by
  unfold stallOnResidue
  split
  · split <;> simp only [stallInEp, stallOutEp, World.served_emit] <;> rfl
  · rfl

theorem handleWriteCsw_keeps : KeepsServed w (handleWriteCsw w).world :=
  (KeepsServed.of_eq writePacket_served).andThen fun _ => by
    split
    · exact enterState_keeps _
    · exact .refl _

theorem endDataTransfer_keeps : KeepsServed w (endDataTransfer w).world := by
  unfold endDataTransfer
  dsimp only
  split
  · exact .of_eq stallOnResidue_served
  · refine (KeepsServed.of_eq ?_).trans ((enterState_keeps _).trans handleWriteCsw_keeps)
    simp only [World.served_emit, World.served_setBuf, stallOnResidue_served]

theorem checkEndDataTransfer_keeps : KeepsServed w (checkEndDataTransfer w).world := by
  rw [checkEndDataTransfer_eq]
  split
  · exact endDataTransfer_keeps
  · exact .refl _

theorem handleReadFromHost_keeps : KeepsServed w (handleReadFromHost w).world := by
  unfold handleReadFromHost
  split
  · exact (KeepsServed.of_eq readPacket_served).andThen fun _ =>
      (KeepsServed.of_eq (World.served_setResidue _ _)).trans checkEndDataTransfer_keeps
  · exact checkEndDataTransfer_keeps

theorem handleWriteToHost_keeps : KeepsServed w (handleWriteToHost w).world := by
  unfold handleWriteToHost
  dsimp only
  split
  · split
    · exact (KeepsServed.of_eq writePacket_served).andThen fun _ =>
        (KeepsServed.of_eq (World.served_setResidue _ _)).trans checkEndDataTransfer_keeps
    · exact checkEndDataTransfer_keeps
  · exact .refl _

theorem write_keeps : KeepsServed w (write w).world := by
  unfold write
  split
  · exact handleWriteCsw_keeps
  · exact handleWriteToHost_keeps
  · exact checkEndDataTransfer_keeps
  · exact .refl _

theorem setStatus_keeps (status : CommandStatus) : KeepsServed w (setStatus w status).world := by
  have h : KeepsServed w (({ w with dev := { w.dev with cs := some status } } : World).emit
      (.latch status)) := .of_eq (by simp only [World.served_emit]; rfl)
  rw [setStatus_world]
  split
  · exact h.trans endDataTransfer_keeps
  · exact h

theorem readData_served (dst : List UInt8) : (readData w dst).world.served = w.served := by
  unfold readData
  split
  · rfl
  · split
    · simp only [World.served_emit, World.served_setBuf]
    · rfl

theorem writeData_served (src : List UInt8) : (writeData w src).world.served = w.served := by
  unfold writeData
  split
  · rfl
  · split
    · simp only [World.served_emit, World.served_setBuf]
    · rfl

theorem tryWriteDataAll_served (src : List UInt8) :
    (tryWriteDataAll w src).world.served = w.served := by
  unfold tryWriteDataAll
  split
  · rfl
  · split
    · split <;> simp only [World.served_emit, World.served_setBuf]
    · rfl

/-! ## The served wrapper agrees with its bytes -/

/-- The wrapper served decodes from the first 31 OUT bytes since the previous command, and
the transport holds its block and LUN. -/
def ServedAgrees (w : World) : Prop :=
  ∀ cbw before cb, w.served = some (cbw, before, cb) →
    parseCbw ((outBytes before).take cbwLen) = .ok cbw ∧ cb = ⟨cbw.block.take cbw.blockLen, cbw.lun⟩

theorem ServedAgrees.keeps {w' : World} (h : ServedAgrees w) (hk : KeepsServed w w') :
    ServedAgrees w' := by
  intro cbw before cb hs
  rcases hk with hk | hk
  · exact h cbw before cb (hk ▸ hs)
  · rw [World.served_eq_none.mpr hk] at hs
    cases hs

theorem agrees_of_none (h : w.trace.current = none) : ServedAgrees w := by
  intro cbw before cb hs
  rw [World.served_eq_none.mpr h] at hs
  cases hs

theorem startDataTransfer_agrees {cbw : CommandBlockWrapper}
    (hp : parseCbw ((outBytes w.trace.pending).take cbwLen) = .ok cbw) :
    ServedAgrees (startDataTransfer w cbw) := by
  have hs : (startDataTransfer w cbw).served =
      some (cbw, w.trace.pending, ⟨cbw.block.take cbw.blockLen, cbw.lun⟩) := by
    unfold World.served
    rw [startDataTransfer_trace, startDataTransfer_dev]
    cases cbw.direction <;> rfl
  intro cbw' before cb h
  rw [hs, Option.some.injEq, Prod.mk.injEq, Prod.mk.injEq] at h
  obtain ⟨rfl, rfl, rfl⟩ := h
  exact ⟨hp, rfl⟩

theorem handleReadCbw_agrees (hi : w.dev.Inv)
    (hs : w.dev.state = .idle ∨ w.dev.state = .commandTransfer) (ht : Tracks w.dev w.trace) :
    ServedAgrees (handleReadCbw w).world := by
  obtain ⟨hcur, hcont⟩ := ht.pending hs
  obtain ⟨-, -, -, -, -, hcase⟩ := readPacket_spec hi.valid
  unfold handleReadCbw
  generalize readPacket w = r at hcase ⊢
  obtain ⟨w', o⟩ := r
  dsimp only at hcase
  rcases hcase with ⟨p, rfl, -, -, hc, htr⟩ | ⟨e, rfl, -, htr⟩
  · simp only [Call.andThen_ok]
    have hcur' : w'.trace.current = none := by simp [htr, hcur]
    split
    · rename_i hcbw
      rw [tryParseCbw_eq hcbw]
      cases hr : parseCbw (w'.dev.buf.content.take cbwLen) with
      | error e => exact agrees_of_none (by simp [reset, stallEps, hcur'])
      | ok cbw =>
        refine startDataTransfer_agrees ?_
        rw [World.setBuf_trace, ← hr, hc, htr, Trace.emit_of_none _ _ hcur, hcont]
        simp [Event.outData]
    · exact agrees_of_none (by simpa using hcur')
  · exact agrees_of_none (by rcases htr with htr | htr <;> simp [htr, hcur])

theorem Action.call_agrees (hi : w.dev.Inv) (ht : Tracks w.dev w.trace) (ha : ServedAgrees w)
    (a : Action) : ServedAgrees (a.call w).world := by
  cases a with
  | read =>
    show ServedAgrees (UsbdStorage.read w).world
    unfold UsbdStorage.read
    split
    · exact handleReadCbw_agrees hi (.inl ‹_›) ht
    · exact handleReadCbw_agrees hi (.inr ‹_›) ht
    · exact ha.keeps handleReadFromHost_keeps
    · exact ha
  | write => exact ha.keeps write_keeps
  | readData dst => exact ha.keeps (.of_eq (readData_served dst))
  | writeData src => exact ha.keeps (.of_eq (writeData_served src))
  | tryWriteDataAll src => exact ha.keeps (.of_eq (tryWriteDataAll_served src))
  | setStatus status => exact ha.keeps (setStatus_keeps status)
  | reset => exact agrees_of_none (by simp [Action.call, UsbdStorage.reset])

theorem agrees_of_reachable (h : Reachable w) : ServedAgrees w := by
  induction h with
  | init bus _ _ => exact agrees_of_none rfl
  | step a hr _ _ ih => exact Action.call_agrees (inv_of_reachable hr) (tracks_of_reachable hr) ih a

theorem BulkOnly.Inv.getCommand_eq {d : BulkOnly} (hi : d.Inv)
    (hs : d.state ≠ .idle ∧ d.state ≠ .commandTransfer) :
    d.getCommand = .ok (some ⟨d.cbw.block.take d.cbw.blockLen, d.cbw.lun⟩) := by
  have hne := hi.getCommand_ne_panic
  unfold BulkOnly.getCommand at hne ⊢
  cases hst : d.state <;> simp only [hst, ne_eq, not_true_eq_false, false_and, and_false] at hs hne ⊢ <;>
    split_ifs at hne ⊢ <;> first | rfl | exact absurd rfl hne

theorem served_wire (h : Reachable w) {c : CommandLog} (hcur : w.trace.current = some c) :
    wireCbw ((outBytes c.before).take cbwLen) = some c.cbw ∧
      (⟨w.dev.cbw.block.take w.dev.cbw.blockLen, w.dev.cbw.lun⟩ : CommandBlock) =
        ⟨c.cbw.block.take c.cbw.blockLen, c.cbw.lun⟩ := by
  obtain ⟨hp, hcb⟩ := agrees_of_reachable h c.cbw c.before
    ⟨w.dev.cbw.block.take w.dev.cbw.blockLen, w.dev.cbw.lun⟩ (by simp [World.served, hcur])
  refine ⟨?_, hcb⟩
  rw [← parseCbw_toOption, hp]
  rfl

/-! ## The decoder -/

theorem tryParseCbw_reads_wire (hv : w.dev.buf.Valid) {b : List UInt8} (hb : b.length = cbwLen)
    (hfront : b <+: w.dev.buf.content) :
    (tryParseCbw w).1.dev.buf.content = w.dev.buf.content.drop cbwLen ∧
      (tryParseCbw w).2.toOption = wireCbw b ∧
      ∀ c, wireCbw b = some c →
        (startDataTransfer (tryParseCbw w).1 c).dev.cbw = c ∧
        (startDataTransfer (tryParseCbw w).1 c).dev.state =
          (if le32 b 8 = 0 then .dataTransferNoData
           else if (b.getD 12 0).toNat.testBit 7 then .dataTransferToHost
           else .dataTransferFromHost) ∧
        ∀ w', Reachable w' → ∀ c', w'.trace.current = some c' →
          (outBytes c'.before).take cbwLen = b →
            c'.cbw = c ∧
              w'.dev.getCommand =
                .ok (some ⟨(b.drop 15).take (b.getD 14 0).toNat, (b.getD 13 0).toNat % 16⟩) := by
  have htake : w.dev.buf.content.take cbwLen = b := by
    rw [← hb]
    exact (List.prefix_iff_eq_take.mp hfront).symm
  have havail : cbwLen ≤ w.dev.buf.availableRead := by
    rw [← hb, ← hv.length_content]
    exact hfront.length_le
  rw [tryParseCbw_eq havail]
  refine ⟨(hv.consume havail).2, by rw [htake]; exact parseCbw_toOption b, fun c hc =>
    ⟨(startDataTransfer_wire hc _).1, (startDataTransfer_wire hc _).2,
      fun w' hr c' hcur hbytes => ?_⟩⟩
  obtain ⟨hp, hcb⟩ := agrees_of_reachable hr c'.cbw c'.before
    ⟨w'.dev.cbw.block.take w'.dev.cbw.blockLen, w'.dev.cbw.lun⟩ (by simp [World.served, hcur])
  have hcc : c'.cbw = c := by
    rw [hbytes] at hp
    rw [← parseCbw_toOption, hp] at hc
    exact Option.some.inj hc
  have hst : w'.dev.state ≠ .idle ∧ w'.dev.state ≠ .commandTransfer := by
    have ht := tracks_of_reachable hr
    constructor <;> intro h <;> simpa [hcur] using (ht.pending (by simp [h])).1
  refine ⟨hcc, ?_⟩
  rw [(inv_of_reachable hr).getCommand_eq hst, hcb, hcc]
  obtain ⟨-, ⟨⟩⟩ := Option.ite_none_right_eq_some.mp hc
  rfl

def readFourCbw : List UInt8 := hostCbwBytes 8 4 0x80 0 [0x28, 0, 0, 0, 0, 0, 0, 0, 1, 0]

def cbwFrontWorld : World := (readPacket readFourStart).world

theorem cbwFrontWorld_reads_wire :
    cbwFrontWorld.dev.buf.Valid ∧ readFourCbw.length = cbwLen ∧
      readFourCbw <+: cbwFrontWorld.dev.buf.content ∧
      (tryParseCbw cbwFrontWorld).2.toOption = wireCbw readFourCbw ∧
      readFourWorld.dev.getCommand =
        .ok (some ⟨(readFourCbw.drop 15).take (readFourCbw.getD 14 0).toNat,
          (readFourCbw.getD 13 0).toNat % 16⟩) :=
  have hr : Reachable readFourWorld :=
    (((Reachable.init _ (by decide : 0 < 32)
      (rfl : BulkOnly.new 32 0 (List.replicate 32 0) = .ok readFourStart.dev) rfl rfl).step
        .read rfl (by decide)).step (.writeData [1, 2, 3, 4]) rfl (by decide)).step .write rfl
          (by decide)
  have h := tryParseCbw_reads_wire (w := cbwFrontWorld) (by decide) (by decide) (by decide)
  ⟨by decide, by decide, by decide, h.2.1,
    ((h.2.2 ((wireCbw readFourCbw).getD .default) (by decide)).2.2 readFourWorld hr
      (readFourWorld.trace.current.getD ⟨.default, [], []⟩) (by decide) (by decide)).2⟩

end UsbdStorage
