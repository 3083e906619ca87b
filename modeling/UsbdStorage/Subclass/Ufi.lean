import Mathlib.Data.Nat.Bitwise
import UsbdStorage.Subclass.Scsi

/-!
# The UFI command set

`parse_cb` of `subclass/ufi.rs`, read as `Scsi.parseCb` is: a read past the end of the
command block panics, and `Ufi.parseCb` returns `none` then, exactly when the block is
shorter than its operation code needs (`Ufi.parseCb_eq_none_iff`).  The block comes from
`get_command`, whose length is the host's `bCBWCBLength`, anything from 1 to 16: a short
block with a known operation code panics either subclass (`parseCb_none_iff_short`).
-/

namespace UsbdStorage

inductive UfiCommand where
  | unknown
  | formatUnit (track : UInt8) (parameterListLen : Nat)
  | inquiry (allocLen : UInt8)
  | testUnitReady
  | preventAllowMediumRemoval (prevent : Bool)
  | readCapacity
  | requestSense (allocLen : UInt8)
  | modeSense (pageControl pageCode : UInt8) (paramListLen : Nat)
  | modeSelect (parameterListLen : Nat)
  | startStop (start eject : Bool)
  | read (lba len : Nat)
  | write (lba len : Nat) (verify : Bool)
  | readFormatCapacities (allocLen : Nat)
  | rezeroUnit
  | seek (lba : Nat)
  | sendDiagnostic (default : Bool)
  | verify (lba len : Nat)
  deriving DecidableEq, Repr

namespace Ufi

def formatUnit : UInt8 := 0x04
def inquiry : UInt8 := 0x12
def modeSelect : UInt8 := 0x55
def modeSense : UInt8 := 0x5A
def preventAllowMediumRemoval : UInt8 := 0x1E
def read10 : UInt8 := 0x28
def read12 : UInt8 := 0xA8
def readCapacity : UInt8 := 0x25
def readFormatCapacities : UInt8 := 0x23
def requestSense : UInt8 := 0x03
def rezeroUnit : UInt8 := 0x01
def seek10 : UInt8 := 0x2B
def sendDiagnostic : UInt8 := 0x1D
def startStop : UInt8 := 0x1B
def testUnitReady : UInt8 := 0x00
def verify : UInt8 := 0x2F
def write10 : UInt8 := 0x2A
def write12 : UInt8 := 0xAA
def writeAndVerify : UInt8 := 0x2E

def parseCb (cb : List UInt8) : Option UfiCommand := do
  let op ← byteAt cb 0
  if op = requestSense then return .requestSense (← byteAt cb 4)
  else if op = inquiry then return .inquiry (← byteAt cb 4)
  else if op = testUnitReady then return .testUnitReady
  else if op = readCapacity then return .readCapacity
  else if op = preventAllowMediumRemoval then
    return .preventAllowMediumRemoval ((← byteAt cb 4) ≠ 0)
  else if op = modeSense then
    return .modeSense ((← byteAt cb 2) >>> 6) ((← byteAt cb 2) &&& 0b00111111)
      (fromBeBytes (← bytesAt cb 7 2))
  else if op = read10 then
    return .read (fromBeBytes (← bytesAt cb 2 4)) (fromBeBytes (← bytesAt cb 7 2))
  else if op = read12 then
    return .read (fromBeBytes (← bytesAt cb 2 4)) (fromBeBytes (← bytesAt cb 6 4))
  else if op = write10 then
    return .write (fromBeBytes (← bytesAt cb 2 4)) (fromBeBytes (← bytesAt cb 7 2)) false
  else if op = write12 then
    return .write (fromBeBytes (← bytesAt cb 2 4)) (fromBeBytes (← bytesAt cb 6 4)) false
  else if op = writeAndVerify then
    return .write (fromBeBytes (← bytesAt cb 2 4)) (fromBeBytes (← bytesAt cb 7 2)) true
  else if op = formatUnit then
    return .formatUnit (← byteAt cb 2) (fromBeBytes (← bytesAt cb 7 2))
  else if op = modeSelect then return .modeSelect (fromBeBytes (← bytesAt cb 7 2))
  else if op = readFormatCapacities then
    return .readFormatCapacities (fromBeBytes (← bytesAt cb 7 2))
  else if op = rezeroUnit then return .rezeroUnit
  else if op = seek10 then return .seek (fromBeBytes (← bytesAt cb 2 4))
  else if op = sendDiagnostic then
    return .sendDiagnostic ((← byteAt cb 1) &&& (1 : UInt8) <<< 2 > 0)
  else if op = startStop then
    return .startStop ((← byteAt cb 4) &&& 1 > 0) ((← byteAt cb 4) = 2)
  else if op = verify then
    return .verify (fromBeBytes (← bytesAt cb 2 4)) (fromBeBytes (← bytesAt cb 7 2))
  else return .unknown

def blockLenNeeded (op : UInt8) : Nat :=
  if op = requestSense then 5
  else if op = inquiry then 5
  else if op = testUnitReady then 1
  else if op = readCapacity then 1
  else if op = preventAllowMediumRemoval then 5
  else if op = modeSense then 9
  else if op = read10 then 9
  else if op = read12 then 10
  else if op = write10 then 9
  else if op = write12 then 10
  else if op = writeAndVerify then 9
  else if op = formatUnit then 9
  else if op = modeSelect then 9
  else if op = readFormatCapacities then 9
  else if op = rezeroUnit then 1
  else if op = seek10 then 6
  else if op = sendDiagnostic then 2
  else if op = startStop then 5
  else if op = verify then 9
  else 1

theorem parseCb_eq_none_iff (cb : List UInt8) :
    parseCb cb = none ↔ cb.length < blockLenNeeded (cb.headD 0) := by
  cases cb with
  | nil => exact ⟨fun _ => by decide, fun _ => rfl⟩
  | cons op rest =>
    unfold parseCb blockLenNeeded
    rw [Option.bind_eq_bind, byteAt_bind_eq_none]
    simp only [List.length_cons, List.getElem_cons_zero, List.headD_cons, ite_eq_none_iff,
      Option.bind_eq_bind, byteAt_bind_eq_none, bytesAt_bind_eq_none, Option.pure_def,
      reduceCtorEq, imp_false, or_false]
    simp only [imp_iff_not_or, Nat.zero_lt_succ, not_true_eq_false, false_or]
    repeat' first
      | refine iff_lt_ite (fun _ => ?_) (fun _ => ?_)
      | omega
      | exact iff_of_false id (by omega)

/-! ## Floppy geometry

`lba_to_sector`, `lba_to_head` and `lba_to_track` split a block number into the address of
a floppy with `head_trk` heads and `sec_trk` sectors a track, sectors counted from 1.  The
`u32` divisions panic on a zero divisor. -/

def lbaToSector (lba : UInt32) (secTrk : UInt8) : Option UInt32 :=
  if secTrk = 0 then none else some (lba % secTrk.toUInt32 + 1)

def lbaToHead (lba : UInt32) (secTrk headTrk : UInt8) : Option UInt32 :=
  if secTrk = 0 then none
  else if headTrk = 0 then none
  else some (lba / secTrk.toUInt32 % headTrk.toUInt32)

def lbaToTrack (lba : UInt32) (secTrk headTrk : UInt8) : Option UInt32 :=
  if secTrk = 0 then none
  else if headTrk = 0 then none
  else some (lba / secTrk.toUInt32 / headTrk.toUInt32)

/-- The block at an address: the tracks before it, the heads before it on its track, the
sectors before it under its head. -/
def chsToLba (secTrk headTrk track head sector : Nat) : Nat :=
  (track * headTrk + head) * secTrk + (sector - 1)

theorem toNat_pos_of_ne_zero {x : UInt8} (h : x ≠ 0) : 0 < x.toNat := by
  rcases Nat.eq_zero_or_pos x.toNat with h0 | h0
  · exact absurd (UInt8.eq_of_val_eq (Fin.ext h0) : x = 0) h
  · exact h0

variable {secTrk headTrk : UInt8}

theorem lba_to_chs (hs : secTrk ≠ 0) (hh : headTrk ≠ 0) (lba : UInt32) :
    ∃ track head sector : UInt32,
      lbaToTrack lba secTrk headTrk = some track ∧ lbaToHead lba secTrk headTrk = some head ∧
      lbaToSector lba secTrk = some sector ∧ head.toNat < headTrk.toNat ∧
      1 ≤ sector.toNat ∧ sector.toNat ≤ secTrk.toNat ∧
      chsToLba secTrk.toNat headTrk.toNat track.toNat head.toNat sector.toNat = lba.toNat := by
  have hS := toNat_pos_of_ne_zero hs
  have hS' : secTrk.toNat < 256 := secTrk.toNat_lt_size
  have hL : lba.toNat < 2 ^ 32 := lba.toNat_lt_size
  have hm := Nat.mod_lt lba.toNat hS
  refine ⟨lba / secTrk.toUInt32 / headTrk.toUInt32, lba / secTrk.toUInt32 % headTrk.toUInt32,
    lba % secTrk.toUInt32 + 1, by simp [lbaToTrack, hs, hh], by simp [lbaToHead, hs, hh],
    by simp [lbaToSector, hs], Nat.mod_lt _ (toNat_pos_of_ne_zero hh), ?_, ?_, ?_⟩
  · show 1 ≤ (lba.toNat % secTrk.toNat + 1) % 2 ^ 32
    omega
  · show (lba.toNat % secTrk.toNat + 1) % 2 ^ 32 ≤ secTrk.toNat
    omega
  · show (lba.toNat / secTrk.toNat / headTrk.toNat * headTrk.toNat +
        lba.toNat / secTrk.toNat % headTrk.toNat) * secTrk.toNat +
        ((lba.toNat % secTrk.toNat + 1) % 2 ^ 32 - 1) = lba.toNat
    rw [Nat.div_add_mod', Nat.mod_eq_of_lt (by omega), Nat.add_sub_cancel, Nat.div_add_mod']

theorem chs_to_lba (hs : secTrk ≠ 0) (hh : headTrk ≠ 0) {track head sector : UInt32}
    (hh' : head.toNat < headTrk.toNat) (hs₁ : 1 ≤ sector.toNat) (hs₂ : sector.toNat ≤ secTrk.toNat)
    (hfit : chsToLba secTrk.toNat headTrk.toNat track.toNat head.toNat sector.toNat < 2 ^ 32) :
    lbaToTrack (UInt32.ofNat (chsToLba secTrk.toNat headTrk.toNat track.toNat head.toNat
        sector.toNat)) secTrk headTrk = some track ∧
      lbaToHead (UInt32.ofNat (chsToLba secTrk.toNat headTrk.toNat track.toNat head.toNat
        sector.toNat)) secTrk headTrk = some head ∧
      lbaToSector (UInt32.ofNat (chsToLba secTrk.toNat headTrk.toNat track.toNat head.toNat
        sector.toNat)) secTrk = some sector := by
  have hS := toNat_pos_of_ne_zero hs
  have hq : chsToLba secTrk.toNat headTrk.toNat track.toNat head.toNat sector.toNat / secTrk.toNat =
      track.toNat * headTrk.toNat + head.toNat := by
    rw [chsToLba, Nat.add_comm, Nat.add_mul_div_right _ _ hS, Nat.div_eq_of_lt (by omega),
      Nat.zero_add]
  have hr : chsToLba secTrk.toNat headTrk.toNat track.toNat head.toNat sector.toNat % secTrk.toNat =
      sector.toNat - 1 := by
    rw [chsToLba, Nat.add_comm, Nat.add_mul_mod_self_right, Nat.mod_eq_of_lt (by omega)]
  refine ⟨?_, ?_, ?_⟩
  · simp only [lbaToTrack, hs, hh, if_false, Option.some.injEq]
    refine UInt32.eq_of_val_eq (Fin.ext ?_)
    show chsToLba _ _ _ _ _ % 2 ^ 32 / secTrk.toNat / headTrk.toNat = track.toNat
    rw [Nat.mod_eq_of_lt hfit, hq, Nat.add_comm, Nat.add_mul_div_right _ _ (toNat_pos_of_ne_zero hh),
      Nat.div_eq_of_lt hh', Nat.zero_add]
  · simp only [lbaToHead, hs, hh, if_false, Option.some.injEq]
    refine UInt32.eq_of_val_eq (Fin.ext ?_)
    show chsToLba _ _ _ _ _ % 2 ^ 32 / secTrk.toNat % headTrk.toNat = head.toNat
    rw [Nat.mod_eq_of_lt hfit, hq, Nat.add_comm, Nat.add_mul_mod_self_right, Nat.mod_eq_of_lt hh']
  · simp only [lbaToSector, hs, if_false, Option.some.injEq]
    refine UInt32.eq_of_val_eq (Fin.ext ?_)
    show (chsToLba _ _ _ _ _ % 2 ^ 32 % secTrk.toNat + 1) % 2 ^ 32 = sector.toNat
    rw [Nat.mod_eq_of_lt hfit, hr]
    have : sector.toNat < 2 ^ 32 := sector.toNat_lt_size
    omega

theorem lba_chs_inverse {secTrk headTrk : UInt8} (hs : secTrk ≠ 0) (hh : headTrk ≠ 0) :
    (∀ lba : UInt32, ∃ track head sector : UInt32,
      lbaToTrack lba secTrk headTrk = some track ∧ lbaToHead lba secTrk headTrk = some head ∧
      lbaToSector lba secTrk = some sector ∧ head.toNat < headTrk.toNat ∧
      1 ≤ sector.toNat ∧ sector.toNat ≤ secTrk.toNat ∧
      chsToLba secTrk.toNat headTrk.toNat track.toNat head.toNat sector.toNat = lba.toNat) ∧
    ∀ track head sector : UInt32, head.toNat < headTrk.toNat → 1 ≤ sector.toNat →
      sector.toNat ≤ secTrk.toNat →
      chsToLba secTrk.toNat headTrk.toNat track.toNat head.toNat sector.toNat < 2 ^ 32 →
      lbaToTrack (UInt32.ofNat (chsToLba secTrk.toNat headTrk.toNat track.toNat head.toNat
          sector.toNat)) secTrk headTrk = some track ∧
        lbaToHead (UInt32.ofNat (chsToLba secTrk.toNat headTrk.toNat track.toNat head.toNat
          sector.toNat)) secTrk headTrk = some head ∧
        lbaToSector (UInt32.ofNat (chsToLba secTrk.toNat headTrk.toNat track.toNat head.toNat
          sector.toNat)) secTrk = some sector :=
  ⟨lba_to_chs hs hh, fun _ _ _ hh' hs₁ hs₂ hfit => chs_to_lba hs hh hh' hs₁ hs₂ hfit⟩

theorem floppy_chs_inverse :
    (18 : UInt8) ≠ 0 ∧ (2 : UInt8) ≠ 0 ∧
      (∀ lba : UInt32, ∃ track head sector : UInt32,
        lbaToTrack lba 18 2 = some track ∧ lbaToHead lba 18 2 = some head ∧
        lbaToSector lba 18 = some sector ∧ head.toNat < (2 : UInt8).toNat ∧
        1 ≤ sector.toNat ∧ sector.toNat ≤ (18 : UInt8).toNat ∧
        chsToLba (18 : UInt8).toNat (2 : UInt8).toNat track.toNat head.toNat sector.toNat =
          lba.toNat) ∧
      ∀ track head sector : UInt32, head.toNat < (2 : UInt8).toNat → 1 ≤ sector.toNat →
        sector.toNat ≤ (18 : UInt8).toNat →
        chsToLba (18 : UInt8).toNat (2 : UInt8).toNat track.toNat head.toNat sector.toNat <
          2 ^ 32 →
        lbaToTrack (UInt32.ofNat (chsToLba (18 : UInt8).toNat (2 : UInt8).toNat track.toNat
            head.toNat sector.toNat)) 18 2 = some track ∧
          lbaToHead (UInt32.ofNat (chsToLba (18 : UInt8).toNat (2 : UInt8).toNat track.toNat
            head.toNat sector.toNat)) 18 2 = some head ∧
          lbaToSector (UInt32.ofNat (chsToLba (18 : UInt8).toNat (2 : UInt8).toNat track.toNat
            head.toNat sector.toNat)) 18 = some sector :=
  ⟨by decide, by decide, lba_chs_inverse (by decide) (by decide)⟩

end Ufi

theorem parseCb_none_iff_short (cb : List UInt8) :
    (Scsi.parseCb cb = none ↔ cb.length < Scsi.blockLenNeeded (cb.headD 0)) ∧
      (Ufi.parseCb cb = none ↔ cb.length < Ufi.blockLenNeeded (cb.headD 0)) ∧
      ∀ x : UInt8, ∃ pc, PageControl.tryFromPrimitive (x >>> 6) = some pc :=
  ⟨Scsi.parseCb_eq_none_iff cb, Ufi.parseCb_eq_none_iff cb, PageControl.tryFromPrimitive_shiftRight⟩

example : Scsi.parseCb [Scsi.inquiry] = none ∧ Ufi.parseCb [Ufi.inquiry] = none := by decide

end UsbdStorage
