import Mathlib.Data.List.Basic

/-!
# Command and status wrappers

The 31-byte Command Block Wrapper the host sends and the 13-byte Command Status Wrapper
the device answers with (`bbb.rs`).  Multi-byte fields are little endian.
-/

namespace UsbdStorage

/-- `u32::from_le_bytes`. -/
def u32FromLeBytes (bytes : List UInt8) : Nat :=
  bytes.foldr (fun byte acc => byte.toNat + 256 * acc) 0

/-- `u32::to_le_bytes`. -/
def u32ToLeBytes (x : Nat) : List UInt8 :=
  [x, x / 256, x / 65536, x / 16777216].map UInt8.ofNat

def cbwLen : Nat := 31

def cswLen : Nat := 13

def cbwSignatureLe : List UInt8 := u32ToLeBytes 0x43425355

def cswSignatureLe : List UInt8 := u32ToLeBytes 0x53425355

example : cbwSignatureLe = [0x55, 0x53, 0x42, 0x43] := by decide

/-- `CommandStatus`, sent as its `u8` discriminant. -/
inductive CommandStatus where
  | passed
  | failed
  | phaseError
  deriving DecidableEq, Repr

def CommandStatus.toU8 : CommandStatus → UInt8
  | .passed => 0x00
  | .failed => 0x01
  | .phaseError => 0x02

inductive DataDirection where
  | out
  | «in»
  | notExpected
  deriving DecidableEq, Repr

structure InvalidCbwError where
  deriving DecidableEq, Repr

structure CommandBlockWrapper where
  tag : Nat
  dataTransferLen : Nat
  direction : DataDirection
  lun : Nat
  blockLen : Nat
  block : List UInt8
  deriving DecidableEq, Repr

namespace CommandBlockWrapper

def default : CommandBlockWrapper :=
  ⟨0, 0, .notExpected, 0, 0, List.replicate 16 0⟩

def minCbLen : UInt8 := 1

def maxCbLen : UInt8 := 16

def fromLeBytes (value : List UInt8) : Except InvalidCbwError CommandBlockWrapper :=
  let blockLen := value.getD 10 0
  if ¬ (minCbLen ≤ blockLen ∧ blockLen ≤ maxCbLen) then .error ⟨⟩
  else
    .ok { tag := u32FromLeBytes (value.take 4)
          dataTransferLen := u32FromLeBytes ((value.drop 4).take 4)
          direction :=
            if u32FromLeBytes ((value.drop 4).take 4) ≠ 0 then
              if (value.getD 8 0 &&& ((1 : UInt8) <<< 7)) > 0 then .«in» else .out
            else .notExpected
          lun := (value.getD 9 0 &&& (0b00001111 : UInt8)).toNat
          blockLen := blockLen.toNat
          block := value.drop 11 }

end CommandBlockWrapper

/-- The checks `try_parse_cbw` makes on the 31 raw bytes: the signature, then
`from_le_bytes` on the rest. -/
def parseCbw (rawCbw : List UInt8) : Except InvalidCbwError CommandBlockWrapper :=
  if cbwSignatureLe.isPrefixOf rawCbw then CommandBlockWrapper.fromLeBytes (rawCbw.drop 4)
  else .error ⟨⟩

/-- The 31 bytes a host sends for a wrapper: the tests' `CBW::into_bytes`, with the tag and
the LUN byte as parameters. -/
def hostCbwBytes (tag dataTransferLen : Nat) (flags lun : UInt8) (block : List UInt8) :
    List UInt8 :=
  cbwSignatureLe ++ u32ToLeBytes tag ++ u32ToLeBytes dataTransferLen ++
    [flags, lun, UInt8.ofNat block.length] ++ block ++ List.replicate (16 - block.length) 0

/-- The wrapper `build_csw` writes: signature, tag, residue, status. -/
def cswBytes (tag residue : Nat) (status : CommandStatus) : List UInt8 :=
  cswSignatureLe ++ u32ToLeBytes tag ++ u32ToLeBytes residue ++ [status.toU8]

@[simp] theorem length_cswBytes (tag residue : Nat) (status : CommandStatus) :
    (cswBytes tag residue status).length = cswLen := rfl

end UsbdStorage
