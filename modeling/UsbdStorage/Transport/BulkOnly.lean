import UsbdStorage.Buffer
import UsbdStorage.Transport.Bus

/-!
# Bulk Only Transport

`BulkOnly` holds the fields of `bbb.rs`'s `BulkOnly`; the endpoints' answers and halt
features live in `Bus`.  A `World` is the three of them with the trace, and each method
of the transport is a function `World → Call α`.  `Call.andThen` is Rust's `?`: the
world a failed call leaves is kept, as `&mut self` keeps what was written before the
error.
-/

namespace UsbdStorage

inductive State where
  | idle
  | commandTransfer
  | dataTransferToHost
  | dataTransferFromHost
  | dataTransferNoData
  | statusTransfer
  deriving DecidableEq, Repr

/-- The transport's own fields; `packetSize` is the endpoints' `max_packet_size`. -/
structure BulkOnly where
  packetSize : Nat
  buf : Buffer
  state : State
  cbw : CommandBlockWrapper
  cs : Option CommandStatus
  maxLun : Nat
  deriving DecidableEq, Repr

structure CommandBlock where
  bytes : List UInt8
  lun : Nat
  deriving DecidableEq, Repr

namespace BulkOnly

def new (packetSize maxLun : Nat) (buf : List UInt8) : Except BulkOnlyError BulkOnly :=
  if maxLun > 0x0F then .error .invalidMaxLun
  else if buf.length < cbwLen ∨ buf.length < packetSize then .error .bufferTooSmall
  else .ok ⟨packetSize, Buffer.new buf, .idle, .default, none, maxLun⟩

def statusPresent (d : BulkOnly) : Bool := d.cs.isSome

def hasStatus (d : BulkOnly) : Bool := d.statusPresent

def buildCsw (d : BulkOnly) : Option (List UInt8) :=
  d.cs.map (cswBytes d.cbw.tag d.cbw.dataTransferLen)

def enterState (d : BulkOnly) (state : State) : BulkOnly :=
  let d := if state = .idle then { d with buf := d.buf.clean, cbw := .default, cs := none } else d
  { d with state }

/-- `&block[..block_len]` panics past the 16 bytes of the block. -/
def getCommand (d : BulkOnly) : Outcome (Option CommandBlock) :=
  match d.state with
  | .idle | .commandTransfer => .ok none
  | _ =>
      if d.cbw.blockLen ≤ d.cbw.block.length then
        .ok (some ⟨d.cbw.block.take d.cbw.blockLen, d.cbw.lun⟩)
      else .panic

end BulkOnly

structure World where
  dev : BulkOnly
  bus : Bus
  trace : Trace
  deriving DecidableEq, Repr

structure Call (α : Type) where
  world : World
  outcome : Outcome α
  deriving DecidableEq, Repr

/-- `c?` followed by `k`. -/
def Call.andThen {α β : Type} (c : Call α) (k : α → World → Call β) : Call β :=
  match c.outcome with
  | .ok a => k a c.world
  | .err e => ⟨c.world, .err e⟩
  | .panic => ⟨c.world, .panic⟩

namespace World

def setBuf (w : World) (buf : Buffer) : World := { w with dev := { w.dev with buf } }

def setCbw (w : World) (cbw : CommandBlockWrapper) : World := { w with dev := { w.dev with cbw } }

def setResidue (w : World) (residue : Nat) : World :=
  w.setCbw { w.dev.cbw with dataTransferLen := residue }

def emit (w : World) (e : Event) : World := { w with trace := w.trace.emit e }

end World

/-! ## Endpoints -/

/-- `in_ep.write(packet)`. -/
def inEpWrite (w : World) (packet : List UInt8) : World × Except UsbError Nat :=
  match w.bus.inAnswers with
  | [] => (w, .error .wouldBlock)
  | a :: rest =>
      let w := { w with bus := { w.bus with inAnswers := rest } }
      match a with
      | .accept => (w.emit (.inPacket packet), .ok packet.length)
      | .refuse e => (w, .error e)

/-- `out_ep.read(slice)`: the packet lands at the front of the slice. -/
def outEpRead (w : World) (slice : List UInt8) : World × List UInt8 × Except UsbError Nat :=
  match w.bus.outAnswers with
  | [] => (w, slice, .error .wouldBlock)
  | a :: rest =>
      let w := { w with bus := { w.bus with outAnswers := rest } }
      match a with
      | .packet p =>
          if p.length ≤ slice.length then
            (w.emit (.outPacket p), p ++ slice.drop p.length, .ok p.length)
          else (w, slice, .error .bufferOverflow)
      | .refuse e => (w, slice, .error e)

def stallInEp (w : World) : World :=
  { w with bus := { w.bus with inStalled := true } }.emit (.stall .inEp)

def stallOutEp (w : World) : World :=
  { w with bus := { w.bus with outStalled := true } }.emit (.stall .outEp)

def stallEps (w : World) : World := stallOutEp (stallInEp w)

def unstallInEp (w : World) : World :=
  { w with bus := { w.bus with inStalled := false } }.emit (.unstall .inEp)

def unstallOutEp (w : World) : World :=
  { w with bus := { w.bus with outStalled := false } }.emit (.unstall .outEp)

/-! ## The transport's methods -/

/-- `BulkOnly::enter_state`; entering `Idle` ends the command in the trace. -/
def enterState (w : World) (state : State) : World :=
  { w with dev := w.dev.enterState state
           trace := if state = .idle then w.trace.idle else w.trace }

/-- `Transport::reset`. -/
def reset (w : World) : World := enterState (unstallOutEp (unstallInEp w)) .idle

def readPacket (w : World) : Call Nat :=
  match w.dev.buf.writeAll w.dev.packetSize (TransportError.error .ioBufferOverflow)
      (fun slice w =>
        match outEpRead w slice with
        | (w, slice, .ok count) => (slice, .ok count, w)
        | (w, slice, .error err) =>
            if err = .wouldBlock then (slice, .ok 0, w) else (slice, .error (.usb err), w)) w with
  | (buf, .ok count, w) =>
      if count = 0 then ⟨w.setBuf buf, .err (.usb .wouldBlock)⟩ else ⟨w.setBuf buf, .ok count⟩
  | (buf, .error e, w) => ⟨w.setBuf buf, .err e⟩

def writePacket (w : World) : Call Nat :=
  let packetSize := w.dev.packetSize
  match w.dev.buf.read
      (fun buf w =>
        if buf ≠ [] then
          match inEpWrite w (buf.take (min packetSize buf.length)) with
          | (w, .ok count) => (.ok count, w)
          | (w, .error err) => if err = .wouldBlock then (.ok 0, w) else (.error (.usb err), w)
        else (.ok 0, w)) w with
  | (buf, .ok count, w) =>
      if count = 0 then ⟨w.setBuf buf, .err (.usb .wouldBlock)⟩ else ⟨w.setBuf buf, .ok count⟩
  | (buf, .error e, w) => ⟨w.setBuf buf, .err e⟩

def tryParseCbw (w : World) : World × Except InvalidCbwError CommandBlockWrapper :=
  match w.dev.buf.read (fun buf (_ : List UInt8) => ((.ok cbwLen : Except Unit Nat), buf.take cbwLen))
      (List.replicate cbwLen 0) with
  | (buf, _, rawCbw) => (w.setBuf buf, parseCbw rawCbw)

def startDataTransfer (w : World) (cbw : CommandBlockWrapper) : World :=
  let w := { w with trace := w.trace.accept cbw }
  match cbw.direction with
  | .out => (enterState w .dataTransferFromHost).setCbw cbw
  | .«in» => (enterState w .dataTransferToHost).setCbw cbw
  | .notExpected => (enterState w .dataTransferNoData).setCbw { cbw with dataTransferLen := 0 }

def handleWriteCsw (w : World) : Call Unit :=
  (writePacket w).andThen fun _ w =>
    if w.dev.buf.availableRead = 0 then ⟨enterState w .idle, .ok ()⟩ else ⟨w, .ok ()⟩

/-- The start of `end_data_transfer` (spec. 6.7.2 and 6.7.3): a data phase that ends
with a residue halts the endpoint of its direction. -/
def stallOnResidue (w : World) : World :=
  if w.dev.cbw.dataTransferLen > 0 then
    match w.dev.state with
    | .dataTransferToHost => stallInEp w
    | .dataTransferFromHost => stallOutEp w
    | _ => w
  else w

/-- Ends with `self.write()`, which in `StatusTransfer` is `handle_write_csw`. -/
def endDataTransfer (w : World) : Call Unit :=
  let w := stallOnResidue w
  match w.dev.buildCsw with
  | none => ⟨w, .panic⟩
  | some csw =>
      let w := w.setBuf w.dev.buf.clean
      let w := (w.setBuf (w.dev.buf.write csw).1).emit (.queue csw)
      handleWriteCsw (enterState w .statusTransfer)

def checkEndDataTransfer (w : World) : Call Unit :=
  if w.dev.statusPresent then
    match w.dev.state with
    | .dataTransferNoData => endDataTransfer w
    | .dataTransferFromHost | .dataTransferToHost =>
        if w.dev.buf.availableRead = 0 then endDataTransfer w else ⟨w, .ok ()⟩
    | _ => ⟨w, .ok ()⟩
  else ⟨w, .ok ()⟩

def handleReadFromHost (w : World) : Call Unit :=
  if !w.dev.statusPresent then
    (readPacket w).andThen fun count w =>
      checkEndDataTransfer (w.setResidue (w.dev.cbw.dataTransferLen - count))
  else checkEndDataTransfer w

def handleWriteToHost (w : World) : Call Unit :=
  let maxPacketSize := w.dev.packetSize
  let fullPacketExpected := decide (maxPacketSize ≤ w.dev.cbw.dataTransferLen) && !w.dev.statusPresent
  let fullPacket := decide (maxPacketSize ≤ w.dev.buf.availableRead)
  if fullPacket || !fullPacketExpected then
    if w.dev.buf.availableRead > 0 then
      (writePacket w).andThen fun count w =>
        checkEndDataTransfer (w.setResidue (w.dev.cbw.dataTransferLen - count))
    else checkEndDataTransfer w
  else ⟨w, .err (.error .fullPacketExpected)⟩

def handleNoDataTransfer (w : World) : Call Unit := checkEndDataTransfer w

def handleReadCbw (w : World) : Call Unit :=
  (readPacket w).andThen fun _ w =>
    if cbwLen ≤ w.dev.buf.availableRead then
      match tryParseCbw w with
      | (w, .ok cbw) => ⟨startDataTransfer w cbw, .ok ()⟩
      | (w, .error _) => ⟨reset (stallEps w), .ok ()⟩
    else ⟨enterState w .commandTransfer, .ok ()⟩

def read (w : World) : Call Unit :=
  match w.dev.state with
  | .idle | .commandTransfer => handleReadCbw w
  | .dataTransferFromHost => handleReadFromHost w
  | _ => ⟨w, .ok ()⟩

def write (w : World) : Call Unit :=
  match w.dev.state with
  | .statusTransfer => handleWriteCsw w
  | .dataTransferToHost => handleWriteToHost w
  | .dataTransferNoData => handleNoDataTransfer w
  | _ => ⟨w, .ok ()⟩

/-- `Failed` and `PhaseError` end the data transfer at once; `unwrap` panics when the
flush of the CSW fails. -/
def setStatus (w : World) (status : CommandStatus) : Call Unit :=
  let w := { w with dev := { w.dev with cs := some status } }.emit (.latch status)
  if status = .phaseError ∨ status = .failed then
    match endDataTransfer w with
    | ⟨w, .ok ()⟩ => ⟨w, .ok ()⟩
    | ⟨w, _⟩ => ⟨w, .panic⟩
  else ⟨w, .ok ()⟩

/-- `dst[..size].copy_from_slice(src)` panics unless the lengths agree. -/
def copyFromSlice (dst src : List UInt8) : Option (List UInt8) :=
  if dst.length = src.length then some src else none

def readData (w : World) (dst : List UInt8) : Call (Nat × List UInt8) :=
  if w.dev.state ≠ .dataTransferFromHost then ⟨w, .err (.error .invalidState)⟩
  else
    match w.dev.buf.read
        (fun buf dst =>
          match dst with
          | none => ((.ok 0 : Except Unit Nat), none)
          | some dst =>
              let size := min dst.length buf.length
              match copyFromSlice (dst.take size) buf with
              | some copied => (.ok size, some (copied ++ dst.drop size))
              | none => (.ok size, none)) (some dst) with
    | (buf, .ok n, some dst) => ⟨(w.setBuf buf).emit (.delivered (dst.take n)), .ok (n, dst)⟩
    | _ => ⟨w, .panic⟩

def writeData (w : World) (src : List UInt8) : Call Nat :=
  if w.dev.state ≠ .dataTransferToHost then ⟨w, .err (.error .invalidState)⟩
  else if !w.dev.statusPresent then
    let data := src.take (min src.length w.dev.cbw.dataTransferLen)
    let (buf, count) := w.dev.buf.write data
    ⟨(w.setBuf buf).emit (.supplied (data.take count)), .ok count⟩
  else ⟨w, .err (.error .invalidState)⟩

def tryWriteDataAll (w : World) (src : List UInt8) : Call Unit :=
  if w.dev.state ≠ .dataTransferToHost then ⟨w, .err (.error .invalidState)⟩
  else if !w.dev.statusPresent then
    match w.dev.buf.writeAll src.length (TransportError.error .ioBufferOverflow)
        (fun dst (_ : Unit) => (src ++ dst.drop src.length, .ok src.length, ())) () with
    | (buf, .ok _, _) => ⟨(w.setBuf buf).emit (.supplied src), .ok ()⟩
    | (buf, .error e, _) => ⟨w.setBuf buf, .err e⟩
  else ⟨w, .err (.error .invalidState)⟩

end UsbdStorage
