import UsbdStorage.Transport.Wire

/-!
# Errors, endpoints and the trace of a run

The transport talks to two bulk endpoints through `usb-device`.  An endpoint call is
answered by the bus, and every answer the bus may give is allowed: the answers a run
receives are listed up front in `Bus`, one per call, and a call past the end of the
list would block.  Everything the host can observe, and what the application hands to
the transport and gets from it, is recorded in a `Trace`, one `CommandLog` per accepted
CBW.
-/

namespace UsbdStorage

/-- `usb_device::UsbError`. -/
inductive UsbError where
  | wouldBlock
  | parseError
  | bufferOverflow
  | endpointOverflow
  | endpointMemoryOverflow
  | invalidEndpoint
  | unsupported
  | invalidState
  deriving DecidableEq, Repr

inductive BulkOnlyError where
  | ioBufferOverflow
  | invalidMaxLun
  | invalidState
  | fullPacketExpected
  | bufferTooSmall
  deriving DecidableEq, Repr

inductive TransportError where
  | usb (e : UsbError)
  | error (e : BulkOnlyError)
  deriving DecidableEq, Repr

/-- How a call ends: Rust's `Ok` or `Err`, or a panic, which nothing catches. -/
inductive Outcome (α : Type) where
  | ok (a : α)
  | err (e : TransportError)
  | panic
  deriving DecidableEq, Repr

inductive Endpoint where
  | inEp
  | outEp
  deriving DecidableEq, Repr

/-- What the trace records: a packet the OUT endpoint delivered or the IN endpoint accepted,
a halt set or cleared, a status `set_status` latched, a CSW `end_data_transfer` put into the
IO buffer, and the bytes `write_data` or `try_write_data_all` took from the application and
`read_data` handed to it. -/
inductive Event where
  | outPacket (bytes : List UInt8)
  | inPacket (bytes : List UInt8)
  | stall (ep : Endpoint)
  | unstall (ep : Endpoint)
  | latch (status : CommandStatus)
  | queue (csw : List UInt8)
  | supplied (bytes : List UInt8)
  | delivered (bytes : List UInt8)
  deriving DecidableEq, Repr

/-- One accepted CBW: the events since the previous `Idle`, which carried the wrapper,
and the events from its acceptance until the transport next enters `Idle`. -/
structure CommandLog where
  cbw : CommandBlockWrapper
  before : List Event
  events : List Event
  deriving DecidableEq, Repr

structure Trace where
  done : List CommandLog
  current : Option CommandLog
  pending : List Event
  deriving DecidableEq, Repr

namespace Trace

def empty : Trace := ⟨[], none, []⟩

def emit (t : Trace) (e : Event) : Trace :=
  match t.current with
  | some c => { t with current := some { c with events := c.events ++ [e] } }
  | none => { t with pending := t.pending ++ [e] }

def accept (t : Trace) (cbw : CommandBlockWrapper) : Trace :=
  ⟨t.done ++ t.current.toList, some ⟨cbw, t.pending, []⟩, []⟩

def idle (t : Trace) : Trace := ⟨t.done ++ t.current.toList, none, []⟩

def commands (t : Trace) : List CommandLog := t.done ++ t.current.toList

end Trace

inductive InAnswer where
  | accept
  | refuse (e : UsbError)
  deriving DecidableEq, Repr

inductive OutAnswer where
  | packet (bytes : List UInt8)
  | refuse (e : UsbError)
  deriving DecidableEq, Repr

/-- The endpoints' side: the answers still to come and the halt features. -/
structure Bus where
  inAnswers : List InAnswer
  outAnswers : List OutAnswer
  inStalled : Bool
  outStalled : Bool
  deriving DecidableEq, Repr

end UsbdStorage
