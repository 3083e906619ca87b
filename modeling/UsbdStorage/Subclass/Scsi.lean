import Mathlib.Data.List.Basic

/-!
# The SCSI command set

`parse_cb` of `subclass/scsi.rs` reads the command `poll` hands to the callback from the
bytes of the command block.  In the source a read past the end of the block panics
(`cb[i]`, and the `unwrap` of `try_from_primitive`); `Scsi.parseCb` returns `none` then.
The block is as long as the host's CBW says (1 to 16 bytes), so `Scsi.parseCb_eq_none_iff`
says which wrappers a host can send to stop the device: those whose block is shorter than
its operation code needs.
-/

namespace UsbdStorage

/-! ## Reading the command block -/

/-- `cb[i]`, which panics past the end of the block. -/
def byteAt (cb : List UInt8) (i : Nat) : Option UInt8 := cb.get? i

def bytesAt (cb : List UInt8) (start : Nat) : Nat → Option (List UInt8)
  | 0 => some []
  | n + 1 => do return (← byteAt cb start) :: (← bytesAt cb (start + 1) n)

/-- `u16::from_be_bytes`, `u32::from_be_bytes` and `u64::from_be_bytes`. -/
def fromBeBytes (bytes : List UInt8) : Nat := bytes.foldl (fun acc b => acc * 256 + b.toNat) 0

theorem byteAt_bind_eq_none {α : Type} {cb : List UInt8} {i : Nat} {f : UInt8 → Option α} :
    (byteAt cb i).bind f = none ↔ ∀ h : i < cb.length, f cb[i] = none := by
  by_cases h : i < cb.length
  · simp [byteAt, List.get?_eq_getElem?, h]
  · simp [byteAt, List.get?_eq_getElem?, h, List.getElem?_eq_none (by omega : cb.length ≤ i)]

theorem bytesAt_eq_some {cb : List UInt8} {start n : Nat} (h : start + n ≤ cb.length ∨ n = 0) :
    bytesAt cb start n = some ((cb.drop start).take n) := by
  induction n generalizing start with
  | zero => rfl
  | succ n ih =>
    simp only [bytesAt]
    rw [ih (by omega)]
    simp [byteAt, List.get?_eq_getElem?, List.getElem?_eq_getElem (by omega : start < cb.length)]
    rw [List.drop_eq_getElem_cons (by omega : start < cb.length), List.take_succ_cons]

theorem bytesAt_eq_none {cb : List UInt8} {start n : Nat} (hn : 0 < n)
    (h : cb.length < start + n) : bytesAt cb start n = none := by
  induction n generalizing start with
  | zero => omega
  | succ n ih =>
    simp only [bytesAt]
    by_cases hs : start < cb.length
    · cases n with
      | zero => omega
      | succ n => simp [ih (by omega) (by omega : cb.length < start + 1 + (n + 1))]
    · simp [byteAt, List.get?_eq_getElem?, List.getElem?_eq_none (by omega : cb.length ≤ start)]

theorem bytesAt_bind_eq_none {α : Type} {cb : List UInt8} {start n : Nat}
    {f : List UInt8 → Option α} :
    (bytesAt cb start n).bind f = none ↔
      (start + n ≤ cb.length ∨ n = 0 → f ((cb.drop start).take n) = none) := by
  by_cases h : start + n ≤ cb.length ∨ n = 0
  · simp [bytesAt_eq_some h, h]
  · simp only [h, false_implies, iff_true]
    rw [bytesAt_eq_none (by omega) (by omega)]
    rfl

theorem iff_lt_ite {c : Prop} [Decidable c] {p q : Prop} {k n m : Nat} (hp : c → (p ↔ k < n))
    (hq : ¬c → (q ↔ k < m)) : (if c then p else q) ↔ k < if c then n else m := by
  split
  exacts [hp ‹_›, hq ‹_›]

theorem ite_eq_none_iff {α : Type} {c : Prop} [Decidable c] {a b : Option α} :
    (if c then a else b) = none ↔ if c then a = none else b = none := by
  split <;> rfl

/-! ## SCSI commands -/

inductive PageControl where
  | currentValues
  | changeableValues
  | defaultValues
  | savedValues
  deriving DecidableEq, Repr

/-- `PageControl::try_from_primitive`, derived from the `#[repr(u8)]` discriminants. -/
def PageControl.tryFromPrimitive (x : UInt8) : Option PageControl :=
  match x.toNat with
  | 0b00 => some .currentValues
  | 0b01 => some .changeableValues
  | 0b10 => some .defaultValues
  | 0b11 => some .savedValues
  | _ => none

theorem toNat_shiftRight_six (x : UInt8) : (x >>> 6).toNat = x.toNat / 64 := by
  show (x.toBitVec >>> ((6 : UInt8).toBitVec % 8)).toNat = x.toBitVec.toNat / 64
  have h6 : (6 : UInt8).toBitVec % 8 = 6#8 := by decide
  rw [h6, BitVec.ushiftRight_eq', BitVec.toNat_ushiftRight, Nat.shiftRight_eq_div_pow]
  rfl

theorem PageControl.tryFromPrimitive_shiftRight (x : UInt8) :
    ∃ pc, PageControl.tryFromPrimitive (x >>> 6) = some pc := by
  have hx : x.toNat < 256 := x.toBitVec.isLt
  have h : (x >>> 6).toNat = 0 ∨ (x >>> 6).toNat = 1 ∨ (x >>> 6).toNat = 2 ∨
      (x >>> 6).toNat = 3 := by
    rw [toNat_shiftRight_six]
    omega
  unfold PageControl.tryFromPrimitive
  rcases h with h | h | h | h <;> exact ⟨_, by rw [h]⟩

theorem PageControl.forall_tryFromPrimitive_shiftRight (x : UInt8) (p : Prop) :
    (∀ pc, PageControl.tryFromPrimitive (x >>> 6) = some pc → p) ↔ p := by
  obtain ⟨pc, hpc⟩ := PageControl.tryFromPrimitive_shiftRight x
  exact ⟨fun h => h pc hpc, fun h _ _ => h⟩

theorem PageControl.bind_tryFromPrimitive_eq_none {α : Type} (x : UInt8)
    {f : PageControl → Option α} :
    (PageControl.tryFromPrimitive (x >>> 6)).bind f = none ↔
      ∀ pc, PageControl.tryFromPrimitive (x >>> 6) = some pc → f pc = none :=
  Option.bind_eq_none

inductive ScsiCommand where
  | unknown
  | inquiry (evpd : Bool) (pageCode : UInt8) (allocLen : Nat)
  | testUnitReady
  | requestSense (desc : Bool) (allocLen : UInt8)
  | modeSense6 (dbd : Bool) (pageControl : PageControl) (pageCode subpageCode allocLen : UInt8)
  | modeSense10 (dbd : Bool) (pageControl : PageControl) (pageCode subpageCode : UInt8)
      (allocLen : Nat)
  | readCapacity10
  | readCapacity16 (allocLen : Nat)
  | read (lba len : Nat)
  | write (lba len : Nat)
  | readFormatCapacities (allocLen : Nat)
  deriving DecidableEq, Repr

namespace Scsi

def testUnitReady : UInt8 := 0x00
def requestSense : UInt8 := 0x03
def inquiry : UInt8 := 0x12
def modeSense6 : UInt8 := 0x1A
def modeSense10 : UInt8 := 0x5A
def read10 : UInt8 := 0x28
def read16 : UInt8 := 0x88
def readCapacity10 : UInt8 := 0x25
def readCapacity16 : UInt8 := 0x9E
def write10 : UInt8 := 0x2A
def readFormatCapacities : UInt8 := 0x23

def parseCb (cb : List UInt8) : Option ScsiCommand := do
  let op ← byteAt cb 0
  if op = testUnitReady then return .testUnitReady
  else if op = inquiry then
    return .inquiry ((← byteAt cb 1) &&& 0b00000001 ≠ 0) (← byteAt cb 2)
      (fromBeBytes (← bytesAt cb 3 2))
  else if op = requestSense then
    return .requestSense ((← byteAt cb 1) &&& 0b00000001 ≠ 0) (← byteAt cb 4)
  else if op = readCapacity10 then return .readCapacity10
  else if op = readCapacity16 then return .readCapacity16 (fromBeBytes (← bytesAt cb 10 4))
  else if op = read10 then
    return .read (fromBeBytes (← bytesAt cb 2 4)) (fromBeBytes (← bytesAt cb 7 2))
  else if op = read16 then
    return .read (fromBeBytes (← bytesAt cb 2 8)) (fromBeBytes (← bytesAt cb 10 4))
  else if op = write10 then
    return .write (fromBeBytes (← bytesAt cb 2 4)) (fromBeBytes (← bytesAt cb 7 2))
  else if op = modeSense6 then
    return .modeSense6 ((← byteAt cb 1) &&& 0b00001000 ≠ 0)
      (← PageControl.tryFromPrimitive ((← byteAt cb 2) >>> 6)) ((← byteAt cb 2) &&& 0b00111111)
      (← byteAt cb 3) (← byteAt cb 4)
  else if op = modeSense10 then
    return .modeSense10 ((← byteAt cb 1) &&& 0b00001000 ≠ 0)
      (← PageControl.tryFromPrimitive ((← byteAt cb 2) >>> 6)) ((← byteAt cb 2) &&& 0b00111111)
      (← byteAt cb 3) (fromBeBytes (← bytesAt cb 7 2))
  else if op = readFormatCapacities then
    return .readFormatCapacities (fromBeBytes (← bytesAt cb 7 2))
  else return .unknown

/-- The bytes each operation code reads: one past the last index `parse_cb` looks at. -/
def blockLenNeeded (op : UInt8) : Nat :=
  if op = testUnitReady then 1
  else if op = inquiry then 5
  else if op = requestSense then 5
  else if op = readCapacity10 then 1
  else if op = readCapacity16 then 14
  else if op = read10 then 9
  else if op = read16 then 14
  else if op = write10 then 9
  else if op = modeSense6 then 5
  else if op = modeSense10 then 9
  else if op = readFormatCapacities then 9
  else 1

theorem parseCb_eq_none_iff (cb : List UInt8) :
    parseCb cb = none ↔ cb.length < blockLenNeeded (cb.headD 0) := by
  cases cb with
  | nil => exact ⟨fun _ => by decide, fun _ => rfl⟩
  | cons op rest =>
    unfold parseCb blockLenNeeded
    rw [Option.bind_eq_bind, byteAt_bind_eq_none]
    simp only [List.length_cons, List.getElem_cons_zero, List.headD_cons, ite_eq_none_iff,
      Option.bind_eq_bind, byteAt_bind_eq_none, bytesAt_bind_eq_none,
      PageControl.bind_tryFromPrimitive_eq_none, PageControl.forall_tryFromPrimitive_shiftRight,
      Option.pure_def, reduceCtorEq, imp_false, or_false]
    simp only [imp_iff_not_or, Nat.zero_lt_succ, not_true_eq_false, false_or]
    repeat' first
      | refine iff_lt_ite (fun _ => ?_) (fun _ => ?_)
      | omega
      | exact iff_of_false id (by omega)

end Scsi

end UsbdStorage
