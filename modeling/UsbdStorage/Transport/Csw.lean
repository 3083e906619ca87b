import UsbdStorage.Transport.Decode

/-!
# The status wrapper as the host reads it

`build_csw` writes the signature, the tag and the residue as little-endian `u32`s, then the
status byte.  A host reads the 13 bytes back by the Bulk-Only layout (section 5.2,
`readCsw`).  The wrapper queued for a command decodes to the tag the host put in bytes 4
to 8 of that command's CBW, to the `dCBWDataTransferLength` of bytes 8 to 12 less the bytes
its data phase moved, without wrapping around, and to the status the application latched
(`host_reads_csw`).
-/

namespace UsbdStorage

/-- `bCSWStatus` as the host reads it; the values above 2 are reserved. -/
def CommandStatus.ofU8 (x : UInt8) : Option CommandStatus :=
  if x = 0x00 then some .passed
  else if x = 0x01 then some .failed
  else if x = 0x02 then some .phaseError
  else none

@[simp] theorem CommandStatus.ofU8_toU8 (st : CommandStatus) :
    CommandStatus.ofU8 st.toU8 = some st := by
  cases st <;> rfl

/-- The host's reading of a CSW: 13 bytes, the signature `55 53 42 53`, then `dCSWTag`,
`dCSWDataResidue` and `bCSWStatus`. -/
def readCsw (b : List UInt8) : Option (Nat × Nat × CommandStatus) :=
  if b.length = cswLen ∧ b.take 4 = [0x55, 0x53, 0x42, 0x53] then
    (CommandStatus.ofU8 (b.getD 12 0)).map fun st => (le32 b 4, le32 b 8, st)
  else none

theorem le32_lt (b : List UInt8) (i : Nat) : le32 b i < 2 ^ 32 := by
  have h₀ := (b.getD i 0).toNat_lt_size
  have h₁ := (b.getD (i + 1) 0).toNat_lt_size
  have h₂ := (b.getD (i + 2) 0).toNat_lt_size
  have h₃ := (b.getD (i + 3) 0).toNat_lt_size
  unfold le32
  simp only [UInt8.size] at h₀ h₁ h₂ h₃
  omega

theorem readCsw_cswBytes {tag residue : Nat} (htag : tag < 2 ^ 32) (hres : residue < 2 ^ 32)
    (st : CommandStatus) : readCsw (cswBytes tag residue st) = some (tag, residue, st) := by
  have h₄ : le32 (cswBytes tag residue st) 4 = tag := by
    simp [cswBytes, u32ToLeBytes, cswSignatureLe, le32, toNat_uint8OfNat]
    omega
  have h₈ : le32 (cswBytes tag residue st) 8 = residue := by
    simp [cswBytes, u32ToLeBytes, cswSignatureLe, le32, toNat_uint8OfNat]
    omega
  have hsig : (cswBytes tag residue st).take 4 = [0x55, 0x53, 0x42, 0x53] := by
    simp [cswBytes, u32ToLeBytes, cswSignatureLe]
  have hst : (cswBytes tag residue st).getD 12 0 = st.toU8 := by
    simp [cswBytes, u32ToLeBytes, cswSignatureLe]
  simp only [readCsw, length_cswBytes, hsig, and_self, if_true, hst, CommandStatus.ofU8_toU8,
    Option.map_some', h₄, h₈]

theorem host_reads_csw {w : World} (h : Reachable w) {c : CommandLog}
    (hcur : w.trace.current = some c) {csw : List UInt8} {post : List Event}
    (hq : c.events = dataPhase c.events ++ .queue csw :: post) :
    ∃ st, latches (dataPhase c.events) = [st] ∧
      readCsw csw = some (le32 ((outBytes c.before).take cbwLen) 4,
        le32 ((outBytes c.before).take cbwLen) 8 - transferred c.cbw (dataPhase c.events), st) := by
  have hmem : c ∈ w.trace.commands := by simp [Trace.commands, hcur]
  obtain ⟨st, hl, hcsw, -⟩ := (commands_correct h c hmem).1 csw post hq
  obtain ⟨-, hcbw⟩ := Option.ite_none_right_eq_some.mp (served_wire h hcur).1
  have htag : c.cbw.tag = le32 ((outBytes c.before).take cbwLen) 4 := by
    rw [← Option.some.inj hcbw]
  have hlen : c.cbw.dataTransferLen = le32 ((outBytes c.before).take cbwLen) 8 := by
    rw [← Option.some.inj hcbw]
  refine ⟨st, hl, ?_⟩
  rw [hcsw, residue, readCsw_cswBytes (htag ▸ le32_lt _ _)
    (lt_of_le_of_lt (Nat.sub_le _ _) (hlen ▸ le32_lt _ _)), htag, hlen]

def queuedCswStart : World :=
  ⟨⟨32, Buffer.new (List.replicate 32 0), .idle, .default, none, 0⟩,
    ⟨[], [.packet (hostCbwBytes 7 0 0 0 [0, 0, 0, 0, 0, 0])], false, false⟩, .empty⟩

def queuedCswWorld : World :=
  (Action.call .write
    (Action.call (.setStatus .passed) (Action.call .read queuedCswStart).world).world).world

theorem queuedCswWorld_reads_csw :
    Reachable queuedCswWorld ∧
      queuedCswWorld.trace.current =
        some (queuedCswWorld.trace.current.getD ⟨.default, [], []⟩) ∧
      (queuedCswWorld.trace.current.getD ⟨.default, [], []⟩).events =
        dataPhase (queuedCswWorld.trace.current.getD ⟨.default, [], []⟩).events ++
          [.queue (cswBytes 7 0 .passed)] ∧
      ∃ st, latches (dataPhase (queuedCswWorld.trace.current.getD ⟨.default, [], []⟩).events) =
          [st] ∧
        readCsw (cswBytes 7 0 .passed) =
          some (le32 ((outBytes (queuedCswWorld.trace.current.getD ⟨.default, [], []⟩).before).take
              cbwLen) 4,
            le32 ((outBytes (queuedCswWorld.trace.current.getD ⟨.default, [], []⟩).before).take
              cbwLen) 8 -
              transferred (queuedCswWorld.trace.current.getD ⟨.default, [], []⟩).cbw
                (dataPhase (queuedCswWorld.trace.current.getD ⟨.default, [], []⟩).events), st) :=
  have h : Reachable queuedCswWorld :=
    (((Reachable.init _ (by decide : 0 < 32)
      (rfl : BulkOnly.new 32 0 (List.replicate 32 0) = .ok queuedCswStart.dev) rfl rfl).step
      .read rfl (by decide)).step (.setStatus .passed) (by decide) (by decide)).step .write rfl
        (by decide)
  have hq : (queuedCswWorld.trace.current.getD ⟨.default, [], []⟩).events =
      dataPhase (queuedCswWorld.trace.current.getD ⟨.default, [], []⟩).events ++
        [.queue (cswBytes 7 0 .passed)] := by decide
  ⟨h, by decide, hq, host_reads_csw h (by decide) hq⟩

end UsbdStorage
