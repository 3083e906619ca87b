import UsbdStorage.Transport.Invariant

/-!
# What the host sees of each command

The trace keeps, for every CBW the transport accepts, the events from its acceptance until
the transport next enters `Idle`.  This file says what those events must satisfy: the CSW
sent for the command (`CommandLog.CswCorrect`), the order of its data bytes
(`CommandLog.FifoCorrect`) and where a data packet shorter than the packet size may fall
(`CommandLog.ShortPacketLast`).  It then names what the transport's fields say about the
command it serves, in a data phase (`Serving`) and while it sends the CSW (`Sending`);
both imply the three properties, so a command keeps them when it ends.
-/

namespace UsbdStorage

namespace Event

def inData : Event → List UInt8
  | .inPacket bytes => bytes
  | _ => []

def outData : Event → List UInt8
  | .outPacket bytes => bytes
  | _ => []

def suppliedData : Event → List UInt8
  | .supplied bytes => bytes
  | _ => []

def deliveredData : Event → List UInt8
  | .delivered bytes => bytes
  | _ => []

def latchedStatus : Event → Option CommandStatus
  | .latch status => some status
  | _ => none

def isQueue : Event → Bool
  | .queue _ => true
  | _ => false

end Event

def inBytes (es : List Event) : List UInt8 := es.flatMap Event.inData

def outBytes (es : List Event) : List UInt8 := es.flatMap Event.outData

/-- The bytes `write_data` and `try_write_data_all` took from the application. -/
def suppliedBytes (es : List Event) : List UInt8 := es.flatMap Event.suppliedData

/-- The bytes `read_data` handed to the application. -/
def deliveredBytes (es : List Event) : List UInt8 := es.flatMap Event.deliveredData

def latches (es : List Event) : List CommandStatus := es.filterMap Event.latchedStatus

section Projections

variable (e : Event) (es es' : List Event)

@[simp] theorem inBytes_nil : inBytes [] = [] := rfl
@[simp] theorem inBytes_cons : inBytes (e :: es) = e.inData ++ inBytes es := rfl
@[simp] theorem inBytes_append : inBytes (es ++ es') = inBytes es ++ inBytes es' :=
  List.flatMap_append ..

@[simp] theorem outBytes_nil : outBytes [] = [] := rfl
@[simp] theorem outBytes_cons : outBytes (e :: es) = e.outData ++ outBytes es := rfl
@[simp] theorem outBytes_append : outBytes (es ++ es') = outBytes es ++ outBytes es' :=
  List.flatMap_append ..

@[simp] theorem suppliedBytes_nil : suppliedBytes [] = [] := rfl
@[simp] theorem suppliedBytes_cons : suppliedBytes (e :: es) = e.suppliedData ++ suppliedBytes es :=
  rfl
@[simp] theorem suppliedBytes_append :
    suppliedBytes (es ++ es') = suppliedBytes es ++ suppliedBytes es' :=
  List.flatMap_append ..

@[simp] theorem deliveredBytes_nil : deliveredBytes [] = [] := rfl
@[simp] theorem deliveredBytes_cons :
    deliveredBytes (e :: es) = e.deliveredData ++ deliveredBytes es := rfl
@[simp] theorem deliveredBytes_append :
    deliveredBytes (es ++ es') = deliveredBytes es ++ deliveredBytes es' :=
  List.flatMap_append ..

@[simp] theorem latches_nil : latches [] = [] := rfl
@[simp] theorem latches_append : latches (es ++ es') = latches es ++ latches es' :=
  List.filterMap_append ..

@[simp] theorem latches_cons : latches (e :: es) = e.latchedStatus.toList ++ latches es := by
  cases h : e.latchedStatus <;> simp [latches, List.filterMap_cons, h]

end Projections

/-- The events before the CSW is queued. -/
def dataPhase (es : List Event) : List Event := es.takeWhile fun e => !e.isQueue

/-- The bytes that followed the wrapper in the packets that carried it. -/
def CommandLog.leftover (c : CommandLog) : List UInt8 := (outBytes c.before).drop cbwLen

/-- The data bytes a residue counts down: those the IN endpoint accepted for data-in,
those the OUT endpoint delivered for data-out. -/
def transferred (cbw : CommandBlockWrapper) (es : List Event) : Nat :=
  match cbw.direction with
  | .in => (inBytes es).length
  | .out => (outBytes es).length
  | .notExpected => 0

def residue (cbw : CommandBlockWrapper) (es : List Event) : Nat :=
  cbw.dataTransferLen - transferred cbw es

def DataDirection.endpoint : DataDirection → Endpoint
  | .in => .inEp
  | _ => .outEp

/-- Data bytes sent and handed over in order: those the IN endpoint took are a prefix of
what the application supplied, those the application got a prefix of what the OUT
endpoint delivered, after the bytes that followed the wrapper. -/
def FifoPrefix (leftover : List UInt8) (es : List Event) : Prop :=
  inBytes es <+: leftover ++ suppliedBytes es ∧ deliveredBytes es <+: leftover ++ outBytes es

/-- A data packet shorter than `packetSize` is written while no status is latched and the
residue is below `packetSize`, or after the status is latched, and then no data packet
follows it. -/
def ShortPacketsOk (packetSize : Nat) (cbw : CommandBlockWrapper) (es : List Event) : Prop :=
  ∀ pre p post, es = pre ++ .inPacket p :: post → p.length < packetSize →
    (latches pre = [] → residue cbw pre < packetSize) ∧
      (latches pre ≠ [] → ∀ q, .inPacket q ∉ post)

def ShortPacketsUnlatched (packetSize : Nat) (cbw : CommandBlockWrapper) (es : List Event) :
    Prop :=
  ∀ pre p post, es = pre ++ .inPacket p :: post → p.length < packetSize →
    latches pre = [] ∧ residue cbw pre < packetSize

namespace CommandLog

/-- The CSW of a command is queued after the application latched its status, once; it is
`USBS`, the tag, the residue and that status; a residue left over means the endpoint of
the data direction was halted first; and every IN byte after it is a byte of it. -/
def CswCorrect (c : CommandLog) : Prop :=
  ∀ csw post, c.events = dataPhase c.events ++ .queue csw :: post →
    ∃ st, latches (dataPhase c.events) = [st] ∧
      csw = cswBytes c.cbw.tag (residue c.cbw (dataPhase c.events)) st ∧
      (0 < residue c.cbw (dataPhase c.events) →
        .stall c.cbw.direction.endpoint ∈ dataPhase c.events) ∧
      inBytes post <+: csw ∧ ∀ e ∈ post, e.isQueue = false

def FifoCorrect (c : CommandLog) : Prop := FifoPrefix c.leftover (dataPhase c.events)

def ShortPacketLast (packetSize : Nat) (c : CommandLog) : Prop :=
  ShortPacketsOk packetSize c.cbw (dataPhase c.events)

def StatusOnce (c : CommandLog) : Prop := (latches c.events).length ≤ 1

def Correct (packetSize : Nat) (c : CommandLog) : Prop :=
  c.CswCorrect ∧ c.FifoCorrect ∧ c.ShortPacketLast packetSize ∧ c.StatusOnce

end CommandLog

/-! ## Lists of events -/

theorem dataPhase_of_noQueue {es : List Event} (h : ∀ e ∈ es, e.isQueue = false) :
    dataPhase es = es :=
  List.takeWhile_eq_self_iff.mpr fun e he => by simp [h e he]

theorem dataPhase_queue {pre post : List Event} {csw : List UInt8}
    (h : ∀ e ∈ pre, e.isQueue = false) : dataPhase (pre ++ .queue csw :: post) = pre := by
  have hself := dataPhase_of_noQueue h
  unfold dataPhase at hself ⊢
  rw [List.takeWhile_append, hself, if_pos rfl]
  simp [Event.isQueue]

theorem inBytes_eq_nil {es : List Event} (h : ∀ p, .inPacket p ∉ es) : inBytes es = [] := by
  simp only [inBytes, List.flatMap_eq_nil_iff]
  intro e he
  cases e <;> simp_all [Event.inData]

theorem eq_append_cons_of_snoc {α : Type} {es pre post : List α} {x e : α}
    (h : es ++ [e] = pre ++ x :: post) :
    (pre = es ∧ x = e ∧ post = []) ∨ ∃ post', es = pre ++ x :: post' ∧ post = post' ++ [e] := by
  rcases List.append_eq_append_iff.mp h with ⟨a', hpre, hsingle⟩ | ⟨c', hes, hcons⟩
  · rcases a' with _ | ⟨y, a''⟩
    · simp only [List.nil_append, List.cons.injEq] at hsingle
      exact .inl ⟨by simpa using hpre, hsingle.1.symm, hsingle.2.symm⟩
    · simp only [List.cons_append, List.cons.injEq] at hsingle
      simp at hsingle
  · rcases c' with _ | ⟨y, c''⟩
    · simp only [List.nil_append, List.cons.injEq] at hcons
      exact .inl ⟨by simpa using hes.symm, hcons.1, hcons.2⟩
    · simp only [List.cons_append, List.cons.injEq] at hcons
      exact .inr ⟨c'', by rw [hes, hcons.1], hcons.2⟩

theorem ShortPacketsOk.snoc {ps : Nat} {cbw : CommandBlockWrapper} {es : List Event} {e : Event}
    (h : ShortPacketsOk ps cbw es) (he : ∀ q, e ≠ .inPacket q) :
    ShortPacketsOk ps cbw (es ++ [e]) := by
  intro pre p post hsplit hshort
  rcases eq_append_cons_of_snoc hsplit with ⟨-, rfl, -⟩ | ⟨post', hes, rfl⟩
  · exact absurd rfl (he p)
  obtain ⟨h₁, h₂⟩ := h pre p post' hes hshort
  refine ⟨h₁, fun hl q hq => ?_⟩
  rcases List.mem_append.mp hq with hq | hq
  · exact h₂ hl q hq
  · exact he q (List.mem_singleton.mp hq).symm

theorem ShortPacketsUnlatched.snoc {ps : Nat} {cbw : CommandBlockWrapper} {es : List Event}
    {e : Event} (h : ShortPacketsUnlatched ps cbw es) (he : ∀ q, e ≠ .inPacket q) :
    ShortPacketsUnlatched ps cbw (es ++ [e]) := by
  intro pre p post hsplit hshort
  rcases eq_append_cons_of_snoc hsplit with ⟨-, rfl, -⟩ | ⟨post', hes, rfl⟩
  · exact absurd rfl (he p)
  · exact h pre p post' hes hshort

theorem ShortPacketsUnlatched.shortPacketsOk {ps : Nat} {cbw : CommandBlockWrapper}
    {es : List Event} (h : ShortPacketsUnlatched ps cbw es) : ShortPacketsOk ps cbw es := by
  intro pre p post hev hp
  obtain ⟨hl, hr⟩ := h pre p post hev hp
  exact ⟨fun _ => hr, fun hne => absurd hl hne⟩

theorem ShortPacketsOk.append {ps : Nat} {cbw : CommandBlockWrapper} {es es' : List Event}
    (h : ShortPacketsOk ps cbw es) (he : ∀ q, .inPacket q ∉ es') :
    ShortPacketsOk ps cbw (es ++ es') := by
  induction es' using List.reverseRecOn with
  | nil => simpa using h
  | append_singleton es' e ih =>
    rw [← List.append_assoc]
    exact (ih fun q hq => he q (List.mem_append_left _ hq)).snoc
      fun q hq => he q (List.mem_append_right _ (by simp [hq]))

/-! ## The command the transport serves -/

/-- What the buffer holds in each data-transfer state: the bytes supplied and not yet sent,
or the bytes delivered by the OUT endpoint and not yet read by the application. -/
def BulkOnly.DataBytes (d : BulkOnly) (c : CommandLog) : State → Prop
  | .dataTransferToHost =>
      c.cbw.direction = .in ∧ deliveredBytes c.events = [] ∧
        inBytes c.events ++ d.buf.content = c.leftover ++ suppliedBytes c.events
  | .dataTransferFromHost =>
      c.cbw.direction = .out ∧ (∀ p, .inPacket p ∉ c.events) ∧
        deliveredBytes c.events ++ d.buf.content = c.leftover ++ outBytes c.events
  | .dataTransferNoData =>
      c.cbw.direction = .notExpected ∧ (∀ p, .inPacket p ∉ c.events) ∧
        deliveredBytes c.events = []
  | _ => False

/-- The transport serves `c` in a data-transfer state: its wrapper is `c`'s with the
residue counted down from `c`'s events, its status is the one latched among them, and
every short data packet so far went out with no status latched. -/
structure Serving (d : BulkOnly) (c : CommandLog) : Prop where
  tag : d.cbw.tag = c.cbw.tag
  noQueue : ∀ e ∈ c.events, e.isQueue = false
  latched : latches c.events = d.cs.toList
  counted : d.cbw.dataTransferLen = residue c.cbw c.events
  short : ShortPacketsUnlatched d.packetSize c.cbw c.events
  bytes : d.DataBytes c d.state

/-- The transport sends the CSW of `c`: the events are the data phase `pre`, the queue of
the CSW, and the packets of it sent since, which with the buffer make up the CSW; no
status is latched after the queue. -/
def Sending (d : BulkOnly) (c : CommandLog) : Prop :=
  ∃ pre csw post, c.events = pre ++ .queue csw :: post ∧ (∀ e ∈ pre, e.isQueue = false) ∧
    (∃ st, latches pre = [st] ∧ csw = cswBytes c.cbw.tag (residue c.cbw pre) st ∧
      (0 < residue c.cbw pre → .stall c.cbw.direction.endpoint ∈ pre)) ∧
    (∀ e ∈ post, e.isQueue = false) ∧ latches post = [] ∧ inBytes post ++ d.buf.content = csw ∧
    FifoPrefix c.leftover pre ∧ ShortPacketsOk d.packetSize c.cbw pre

theorem Sending.correct {d : BulkOnly} {c : CommandLog} (h : Sending d c) :
    c.Correct d.packetSize := by
  obtain ⟨pre, csw, post, hev, hpre, ⟨st, hl, hc, hs⟩, hpost, hlat, hbytes, hfifo, hshort⟩ := h
  have hdata : dataPhase c.events = pre := by rw [hev, dataPhase_queue hpre]
  refine ⟨fun csw' post' hev' => ?_, by rw [CommandLog.FifoCorrect, hdata]; exact hfifo,
    by rw [CommandLog.ShortPacketLast, hdata]; exact hshort,
    by simp [CommandLog.StatusOnce, hev, hl, hlat, Event.latchedStatus]⟩
  rw [hdata, hev] at hev'
  obtain ⟨rfl, rfl⟩ : csw = csw' ∧ post = post' := by simpa using hev'
  rw [hdata]
  exact ⟨st, hl, hc, hs, ⟨_, hbytes⟩, hpost⟩

theorem BulkOnly.DataBytes.fifo {d : BulkOnly} {c : CommandLog} {s : State}
    (h : d.DataBytes c s) : FifoPrefix c.leftover c.events := by
  cases s <;> simp only [BulkOnly.DataBytes] at h
  · obtain ⟨-, hd, heq⟩ := h
    exact ⟨⟨_, heq⟩, by simp [hd]⟩
  · obtain ⟨-, hin, heq⟩ := h
    exact ⟨by simp [inBytes_eq_nil hin], ⟨_, heq⟩⟩
  · obtain ⟨-, hin, hd⟩ := h
    exact ⟨by simp [inBytes_eq_nil hin], by simp [hd]⟩

theorem Serving.correct {d : BulkOnly} {c : CommandLog} (h : Serving d c) :
    c.Correct d.packetSize := by
  have hdata := dataPhase_of_noQueue h.noQueue
  refine ⟨fun csw post hev => ?_, ?_, ?_, ?_⟩
  · rw [hdata] at hev
    simpa using congrArg List.length hev
  · rw [CommandLog.FifoCorrect, hdata]
    exact h.bytes.fifo
  · rw [CommandLog.ShortPacketLast, hdata]
    exact h.short.shortPacketsOk
  · rw [CommandLog.StatusOnce, h.latched]
    cases d.cs <;> simp

end UsbdStorage
