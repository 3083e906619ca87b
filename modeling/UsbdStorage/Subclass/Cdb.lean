import UsbdStorage.Subclass.Ufi

/-!
# Command blocks as a host lays them out

A host builds each command block by its command set's layout: SPC-4 and SBC-3 for the SCSI
transparent command set, the UFI specification for floppies.  `ScsiCdb` and `UfiCdb` are
those layouts, with the flags `parse_cb` does not read at zero, and `command` says what each
block asks for.  Both parsers decode every block whose fields fit their widths to that
command (`Scsi.parseCb_scsiCdb`, `Ufi.parseCb_ufiCdb`): every field is read at its offset,
big-endian, and every flag from its bit.
-/

namespace UsbdStorage

/-! ## Fields -/

/-- `n` as `k` big-endian bytes, the most significant first. -/
def toBeBytes : Nat → Nat → List UInt8
  | 0, _ => []
  | k + 1, n => toBeBytes k (n / 256) ++ [UInt8.ofNat n]

@[simp] theorem length_toBeBytes (k n : Nat) : (toBeBytes k n).length = k := by
  induction k generalizing n with
  | zero => rfl
  | succ k ih => simp [toBeBytes, ih]

theorem fromBeBytes_append (l : List UInt8) (b : UInt8) :
    fromBeBytes (l ++ [b]) = fromBeBytes l * 256 + b.toNat := by
  simp [fromBeBytes, List.foldl_append]

@[simp] theorem fromBeBytes_toBeBytes (k n : Nat) : fromBeBytes (toBeBytes k n) = n % 256 ^ k := by
  induction k generalizing n with
  | zero => simp [toBeBytes, fromBeBytes, Nat.mod_one]
  | succ k ih =>
    rw [toBeBytes, fromBeBytes_append, ih, Nat.pow_succ, Nat.mul_comm (256 ^ k), Nat.mod_mul]
    show n / 256 % 256 ^ k * 256 + n % 256 = n % 256 + 256 * (n / 256 % 256 ^ k)
    omega

@[simp] theorem drop_toBeBytes_append {k i : Nat} (n : Nat) (l : List UInt8) (h : k ≤ i) :
    (toBeBytes k n ++ l).drop i = l.drop (i - k) := by
  rw [List.drop_append_eq_append_drop, List.drop_eq_nil_of_le (by simpa using h), List.nil_append,
    length_toBeBytes]

def flag (b : Bool) (mask : UInt8) : UInt8 := if b then mask else 0

/-- The page control in bits 7 and 6 of a byte, the page code in bits 5 to 0. -/
def pageByte (pageControl pageCode : UInt8) : UInt8 :=
  UInt8.ofNat (pageControl.toNat * 64 + pageCode.toNat)

/-- `PageControl`'s `#[repr(u8)]` discriminant. -/
def PageControl.toU8 : PageControl → UInt8
  | .currentValues => 0b00
  | .changeableValues => 0b01
  | .defaultValues => 0b10
  | .savedValues => 0b11

/-- A SCSI command block by SPC-4 and SBC-3. -/
inductive ScsiCdb where
  | testUnitReady
  | inquiry (evpd : Bool) (pageCode : UInt8) (allocLen : Nat)
  | requestSense (desc : Bool) (allocLen : UInt8)
  | readCapacity10
  | readCapacity16 (allocLen : Nat)
  | read10 (lba len : Nat)
  | read16 (lba len : Nat)
  | write10 (lba len : Nat)
  | modeSense6 (dbd : Bool) (pageControl : PageControl) (pageCode subpageCode allocLen : UInt8)
  | modeSense10 (dbd : Bool) (pageControl : PageControl) (pageCode subpageCode : UInt8)
      (allocLen : Nat)
  | readFormatCapacities (allocLen : Nat)

namespace ScsiCdb

def bytes : ScsiCdb → List UInt8
  | testUnitReady => [Scsi.testUnitReady, 0, 0, 0, 0, 0]
  | inquiry evpd pageCode allocLen =>
      [Scsi.inquiry, flag evpd 0b00000001, pageCode] ++ toBeBytes 2 allocLen ++ [0]
  | requestSense desc allocLen => [Scsi.requestSense, flag desc 0b00000001, 0, 0, allocLen, 0]
  | readCapacity10 => [Scsi.readCapacity10, 0, 0, 0, 0, 0, 0, 0, 0, 0]
  | readCapacity16 allocLen =>
      [Scsi.readCapacity16, 0x10] ++ toBeBytes 8 0 ++ toBeBytes 4 allocLen ++ [0, 0]
  | read10 lba len => [Scsi.read10, 0] ++ toBeBytes 4 lba ++ [0] ++ toBeBytes 2 len ++ [0]
  | read16 lba len => [Scsi.read16, 0] ++ toBeBytes 8 lba ++ toBeBytes 4 len ++ [0, 0]
  | write10 lba len => [Scsi.write10, 0] ++ toBeBytes 4 lba ++ [0] ++ toBeBytes 2 len ++ [0]
  | modeSense6 dbd pc pageCode subpageCode allocLen =>
      [Scsi.modeSense6, flag dbd 0b00001000, pageByte pc.toU8 pageCode, subpageCode, allocLen, 0]
  | modeSense10 dbd pc pageCode subpageCode allocLen =>
      [Scsi.modeSense10, flag dbd 0b00001000, pageByte pc.toU8 pageCode, subpageCode, 0, 0, 0] ++
        toBeBytes 2 allocLen ++ [0]
  | readFormatCapacities allocLen =>
      [Scsi.readFormatCapacities, 0, 0, 0, 0, 0, 0] ++ toBeBytes 2 allocLen ++ [0]

def command : ScsiCdb → ScsiCommand
  | testUnitReady => .testUnitReady
  | inquiry evpd pageCode allocLen => .inquiry evpd pageCode allocLen
  | requestSense desc allocLen => .requestSense desc allocLen
  | readCapacity10 => .readCapacity10
  | readCapacity16 allocLen => .readCapacity16 allocLen
  | read10 lba len | read16 lba len => .read lba len
  | write10 lba len => .write lba len
  | modeSense6 dbd pc pageCode subpageCode allocLen =>
      .modeSense6 dbd pc pageCode subpageCode allocLen
  | modeSense10 dbd pc pageCode subpageCode allocLen =>
      .modeSense10 dbd pc pageCode subpageCode allocLen
  | readFormatCapacities allocLen => .readFormatCapacities allocLen

end ScsiCdb

/-- `START STOP UNIT`'s byte 4: `LoEj` in bit 1, `Start` in bit 0. -/
def startStopByte (start loej : Bool) : UInt8 := flag loej 0b10 ||| flag start 0b01

/-- A UFI command block by the UFI command specification: twelve bytes. -/
inductive UfiCdb where
  | requestSense (allocLen : UInt8)
  | inquiry (allocLen : UInt8)
  | testUnitReady
  | readCapacity
  | preventAllowMediumRemoval (prevent : Bool)
  | modeSense (pageControl pageCode : UInt8) (paramListLen : Nat)
  | read10 (lba len : Nat)
  | read12 (lba len : Nat)
  | write10 (lba len : Nat)
  | write12 (lba len : Nat)
  | writeAndVerify (lba len : Nat)
  | formatUnit (track : UInt8) (parameterListLen : Nat)
  | modeSelect (parameterListLen : Nat)
  | readFormatCapacities (allocLen : Nat)
  | rezeroUnit
  | seek (lba : Nat)
  | sendDiagnostic (selfTest : Bool)
  | startStop (start loej : Bool)
  | verify (lba len : Nat)

namespace UfiCdb

def bytes : UfiCdb → List UInt8
  | requestSense allocLen => [Ufi.requestSense, 0, 0, 0, allocLen, 0, 0, 0, 0, 0, 0, 0]
  | inquiry allocLen => [Ufi.inquiry, 0, 0, 0, allocLen, 0, 0, 0, 0, 0, 0, 0]
  | testUnitReady => [Ufi.testUnitReady, 0, 0, 0, 0, 0, 0, 0, 0, 0, 0, 0]
  | readCapacity => [Ufi.readCapacity, 0, 0, 0, 0, 0, 0, 0, 0, 0, 0, 0]
  | preventAllowMediumRemoval prevent =>
      [Ufi.preventAllowMediumRemoval, 0, 0, 0, flag prevent 0b1, 0, 0, 0, 0, 0, 0, 0]
  | modeSense pageControl pageCode paramListLen =>
      [Ufi.modeSense, 0, pageByte pageControl pageCode, 0, 0, 0, 0] ++
        toBeBytes 2 paramListLen ++ [0, 0, 0]
  | read10 lba len => [Ufi.read10, 0] ++ toBeBytes 4 lba ++ [0] ++ toBeBytes 2 len ++ [0, 0, 0]
  | read12 lba len => [Ufi.read12, 0] ++ toBeBytes 4 lba ++ toBeBytes 4 len ++ [0, 0]
  | write10 lba len => [Ufi.write10, 0] ++ toBeBytes 4 lba ++ [0] ++ toBeBytes 2 len ++ [0, 0, 0]
  | write12 lba len => [Ufi.write12, 0] ++ toBeBytes 4 lba ++ toBeBytes 4 len ++ [0, 0]
  | writeAndVerify lba len =>
      [Ufi.writeAndVerify, 0] ++ toBeBytes 4 lba ++ [0] ++ toBeBytes 2 len ++ [0, 0, 0]
  | formatUnit track parameterListLen =>
      [Ufi.formatUnit, 0x17, track, 0, 0, 0, 0] ++ toBeBytes 2 parameterListLen ++ [0, 0, 0]
  | modeSelect parameterListLen =>
      [Ufi.modeSelect, 0x10, 0, 0, 0, 0, 0] ++ toBeBytes 2 parameterListLen ++ [0, 0, 0]
  | readFormatCapacities allocLen =>
      [Ufi.readFormatCapacities, 0, 0, 0, 0, 0, 0] ++ toBeBytes 2 allocLen ++ [0, 0, 0]
  | rezeroUnit => [Ufi.rezeroUnit, 0, 0, 0, 0, 0, 0, 0, 0, 0, 0, 0]
  | seek lba => [Ufi.seek10, 0] ++ toBeBytes 4 lba ++ [0, 0, 0, 0, 0, 0]
  | sendDiagnostic selfTest =>
      [Ufi.sendDiagnostic, flag selfTest 0b100, 0, 0, 0, 0, 0, 0, 0, 0, 0, 0]
  | startStop start loej => [Ufi.startStop, 0, 0, 0, startStopByte start loej, 0, 0, 0, 0, 0, 0, 0]
  | verify lba len => [Ufi.verify, 0] ++ toBeBytes 4 lba ++ [0] ++ toBeBytes 2 len ++ [0, 0, 0]

/-- What the block asks for: `LoEj` without `Start` ejects the medium. -/
def command : UfiCdb → UfiCommand
  | requestSense allocLen => .requestSense allocLen
  | inquiry allocLen => .inquiry allocLen
  | testUnitReady => .testUnitReady
  | readCapacity => .readCapacity
  | preventAllowMediumRemoval prevent => .preventAllowMediumRemoval prevent
  | modeSense pageControl pageCode paramListLen => .modeSense pageControl pageCode paramListLen
  | read10 lba len | read12 lba len => .read lba len
  | write10 lba len | write12 lba len => .write lba len false
  | writeAndVerify lba len => .write lba len true
  | formatUnit track parameterListLen => .formatUnit track parameterListLen
  | modeSelect parameterListLen => .modeSelect parameterListLen
  | readFormatCapacities allocLen => .readFormatCapacities allocLen
  | rezeroUnit => .rezeroUnit
  | seek lba => .seek lba
  | sendDiagnostic selfTest => .sendDiagnostic selfTest
  | startStop start loej => .startStop start (loej && !start)
  | verify lba len => .verify lba len

end UfiCdb

end UsbdStorage
