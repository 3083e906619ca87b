import UsbdStorage.Transport.Commands

/-!
# The trace follows the transport

`Tracks d t` says how the trace `t` of a run stands to the transport `d`: every command
that ended is correct, in `Idle` and `CommandTransfer` the buffer holds the bytes the OUT
endpoint delivered since the last `Idle`, and in the other states the transport serves
the trace's current command (`Serving`, `Sending`).  Every method keeps it, so every
command of every run satisfies `CommandLog.Correct`.
-/

namespace UsbdStorage

/-! ## The trace -/

namespace Trace

variable (t : Trace) (e : Event)

theorem emit_of_current {c : CommandLog} (h : t.current = some c) :
    t.emit e = { t with current := some { c with events := c.events ++ [e] } } := by
  simp [emit, h]

theorem emit_of_none (h : t.current = none) : t.emit e = { t with pending := t.pending ++ [e] } := by
  simp [emit, h]

@[simp] theorem emit_done : (t.emit e).done = t.done := by
  unfold emit
  split <;> rfl

@[simp] theorem emit_current :
    (t.emit e).current = t.current.map fun c => { c with events := c.events ++ [e] } := by
  unfold emit
  split <;> simp_all

@[simp] theorem commands_idle : t.idle.commands = t.commands := by simp [idle, commands]

@[simp] theorem idle_current : t.idle.current = none := rfl

theorem commands_emit_of_current {c : CommandLog} (h : t.current = some c) :
    (t.emit e).commands = t.done ++ [{ c with events := c.events ++ [e] }] := by
  simp [commands, h]

end Trace

/-- An event that moves no byte, latches no status, queues no CSW and is no IN packet:
the halts of the endpoints, and an empty OUT packet. -/
def Event.Quiet (e : Event) : Prop :=
  e.inData = [] ∧ e.outData = [] ∧ e.suppliedData = [] ∧ e.deliveredData = [] ∧
    e.latchedStatus = none ∧ e.isQueue = false ∧ ∀ q, e ≠ .inPacket q

theorem Event.quiet_stall (ep : Endpoint) : (Event.stall ep).Quiet := by
  simp [Event.Quiet, Event.inData, Event.outData, Event.suppliedData, Event.deliveredData,
    Event.latchedStatus, Event.isQueue]

theorem Event.quiet_unstall (ep : Endpoint) : (Event.unstall ep).Quiet := by
  simp [Event.Quiet, Event.inData, Event.outData, Event.suppliedData, Event.deliveredData,
    Event.latchedStatus, Event.isQueue]

theorem Event.quiet_outPacket_nil : (Event.outPacket []).Quiet := by
  simp [Event.Quiet, Event.inData, Event.outData, Event.suppliedData, Event.deliveredData,
    Event.latchedStatus, Event.isQueue]

theorem quiet_flatMap {qs : List Event} (h : ∀ e ∈ qs, e.Quiet) {f : Event → List UInt8}
    (hf : ∀ e, e.Quiet → f e = []) : qs.flatMap f = [] :=
  List.flatMap_eq_nil_iff.mpr fun e he => hf e (h e he)

theorem quiet_latches {qs : List Event} (h : ∀ e ∈ qs, e.Quiet) : latches qs = [] :=
  List.filterMap_eq_nil_iff.mpr fun e he => (h e he).2.2.2.2.1

theorem Event.Quiet.isQueue {e : Event} (h : e.Quiet) : e.isQueue = false := h.2.2.2.2.2.1

theorem Event.Quiet.ne_inPacket {e : Event} (h : e.Quiet) (q : List UInt8) : e ≠ .inPacket q :=
  h.2.2.2.2.2.2 q

/-! ## The command being served -/

/-- What `end_data_transfer` needs of the command it ends: `Serving`, with the bytes only
in order and a short packet allowed as the last one once a status is latched. -/
structure Ending (d : BulkOnly) (c : CommandLog) : Prop where
  tag : d.cbw.tag = c.cbw.tag
  noQueue : ∀ e ∈ c.events, e.isQueue = false
  latched : latches c.events = d.cs.toList
  counted : d.cbw.dataTransferLen = residue c.cbw c.events
  fifo : FifoPrefix c.leftover c.events
  short : ShortPacketsOk d.packetSize c.cbw c.events
  toHost : d.state = .dataTransferToHost → c.cbw.direction = .in
  fromHost : d.state = .dataTransferFromHost → c.cbw.direction = .out

theorem ShortPacketsUnlatched.append {ps : Nat} {cbw : CommandBlockWrapper} {es es' : List Event}
    (h : ShortPacketsUnlatched ps cbw es) (he : ∀ q, .inPacket q ∉ es') :
    ShortPacketsUnlatched ps cbw (es ++ es') := by
  induction es' using List.reverseRecOn with
  | nil => simpa using h
  | append_singleton es' e ih =>
    rw [← List.append_assoc]
    exact (ih fun q hq => he q (List.mem_append_left _ hq)).snoc
      fun q hq => he q (List.mem_append_right _ (by simp [hq]))

theorem residue_append_quiet (cbw : CommandBlockWrapper) (es : List Event) {qs : List Event}
    (h : ∀ e ∈ qs, e.Quiet) : residue cbw (es ++ qs) = residue cbw es := by
  have hin : inBytes qs = [] := quiet_flatMap h fun _ he => he.1
  have hout : outBytes qs = [] := quiet_flatMap h fun _ he => he.2.1
  simp only [inBytes, outBytes] at hin hout
  simp [residue, transferred, inBytes, outBytes, hin, hout]

theorem Serving.quiet {d : BulkOnly} {c : CommandLog} (h : Serving d c) {qs : List Event}
    (hq : ∀ e ∈ qs, e.Quiet) : Serving d { c with events := c.events ++ qs } := by
  have hin : ∀ p, .inPacket p ∉ qs := fun p hp => (hq _ hp).ne_inPacket p rfl
  have hb := h.bytes
  refine ⟨h.tag, fun e he => ?_, ?_, ?_, h.short.append hin, ?_⟩
  · rcases List.mem_append.mp he with he | he
    exacts [h.noQueue e he, (hq e he).isQueue]
  · have hl := quiet_latches hq
    unfold latches at hl ⊢
    rw [List.filterMap_append, hl, List.append_nil, ← h.latched]
    rfl
  · rw [h.counted]
    exact (residue_append_quiet _ _ hq).symm
  · have hin' : qs.flatMap Event.inData = [] := quiet_flatMap hq fun _ he => he.1
    have hout : qs.flatMap Event.outData = [] := quiet_flatMap hq fun _ he => he.2.1
    have hsup : qs.flatMap Event.suppliedData = [] := quiet_flatMap hq fun _ he => he.2.2.1
    have hdel : qs.flatMap Event.deliveredData = [] := quiet_flatMap hq fun _ he => he.2.2.2.1
    have hleft : ({ c with events := c.events ++ qs } : CommandLog).leftover = c.leftover := rfl
    cases hs : d.state <;> simp only [hs, BulkOnly.DataBytes] at hb ⊢ <;>
      simp only [inBytes, outBytes, suppliedBytes, deliveredBytes, List.flatMap_append, hin', hout,
        hsup, hdel, List.append_nil, hleft, List.mem_append, not_or] at hb ⊢
    · exact hb
    · exact ⟨hb.1, fun p => ⟨hb.2.1 p, hin p⟩, hb.2.2⟩
    · exact ⟨hb.1, fun p => ⟨hb.2.1 p, hin p⟩, hb.2.2⟩

theorem Ending.of_dataBytes {d : BulkOnly} {c : CommandLog} (htag : d.cbw.tag = c.cbw.tag)
    (hq : ∀ e ∈ c.events, e.isQueue = false) (hl : latches c.events = d.cs.toList)
    (hc : d.cbw.dataTransferLen = residue c.cbw c.events)
    (hs : ShortPacketsOk d.packetSize c.cbw c.events) (hb : d.DataBytes c d.state) :
    Ending d c := by
  refine ⟨htag, hq, hl, hc, hb.fifo, hs, fun h => ?_, fun h => ?_⟩ <;> rw [h] at hb
  exacts [hb.1, hb.1]

theorem Serving.ending {d : BulkOnly} {c : CommandLog} (h : Serving d c) : Ending d c :=
  .of_dataBytes h.tag h.noQueue h.latched h.counted h.short.shortPacketsOk h.bytes

/-- The transport's state as the trace sees it. -/
def BulkOnly.TraceAt (d : BulkOnly) (t : Trace) : State → Prop
  | .idle | .commandTransfer => t.current = none ∧ d.buf.content = outBytes t.pending
  | .statusTransfer => ∃ c, t.current = some c ∧ Sending d c
  | _ => ∃ c, t.current = some c ∧ Serving d c

structure Tracks (d : BulkOnly) (t : Trace) : Prop where
  done : ∀ c ∈ t.done, c.Correct d.packetSize
  current : d.TraceAt t d.state

theorem Tracks.serving {d : BulkOnly} {t : Trace} (h : Tracks d t) (hd : d.state.isDataTransfer) :
    ∃ c, t.current = some c ∧ Serving d c := by
  have hc := h.current
  cases hs : d.state <;> simp_all [State.isDataTransfer, BulkOnly.TraceAt]

theorem Tracks.of_serving {d : BulkOnly} {t : Trace} {c : CommandLog}
    (hdone : ∀ c ∈ t.done, c.Correct d.packetSize) (hc : t.current = some c) (h : Serving d c) :
    Tracks d t := by
  refine ⟨hdone, ?_⟩
  have hb := h.bytes
  cases hs : d.state <;> simp only [hs, BulkOnly.DataBytes] at hb <;>
    exact ⟨c, hc, h⟩

theorem Tracks.pending {d : BulkOnly} {t : Trace} (h : Tracks d t)
    (hs : d.state = .idle ∨ d.state = .commandTransfer) :
    t.current = none ∧ d.buf.content = outBytes t.pending := by
  have hc := h.current
  rcases hs with hs | hs <;> rw [hs] at hc <;> exact hc

theorem Tracks.of_pending {d : BulkOnly} {t : Trace}
    (hs : d.state = .idle ∨ d.state = .commandTransfer)
    (hdone : ∀ c ∈ t.done, c.Correct d.packetSize) (hcur : t.current = none)
    (hb : d.buf.content = outBytes t.pending) : Tracks d t :=
  ⟨hdone, by rcases hs with hs | hs <;> rw [hs] <;> exact ⟨hcur, hb⟩⟩

theorem Sending.quiet {d : BulkOnly} {c : CommandLog} (h : Sending d c) {qs : List Event}
    (hq : ∀ e ∈ qs, e.Quiet) : Sending d { c with events := c.events ++ qs } := by
  obtain ⟨pre, csw, post, hev, hpre, hcsw, hpost, hlat, hbytes, hfifo, hshort⟩ := h
  have hin : inBytes qs = [] := quiet_flatMap hq fun _ he => he.1
  refine ⟨pre, csw, post ++ qs, by simp [hev], hpre, hcsw, fun e he => ?_,
    by simp [hlat, quiet_latches hq], by simpa [hin], hfifo, hshort⟩
  rcases List.mem_append.mp he with he | he
  exacts [hpost e he, (hq e he).isQueue]

theorem Tracks.current_quiet {d : BulkOnly} {t : Trace} (h : Tracks d t) {c : CommandLog}
    (hc : t.current = some c) {qs : List Event} (hq : ∀ e ∈ qs, e.Quiet) :
    CommandLog.Correct d.packetSize { c with events := c.events ++ qs } := by
  have hcur := h.current
  cases hs : d.state <;> simp only [hs, BulkOnly.TraceAt] at hcur
  case idle | commandTransfer =>
    rw [hcur.1] at hc
    cases hc
  all_goals
    obtain ⟨c', hc', hnow⟩ := hcur
    rw [hc] at hc'
    cases hc'
    exact (hnow.quiet hq).correct

theorem tracks_idle {d : BulkOnly} {t : Trace} (hdone : ∀ c ∈ t.done, c.Correct d.packetSize)
    (hc : ∀ c, t.current = some c → c.Correct d.packetSize) :
    Tracks (d.enterState .idle) t.idle := by
  refine ⟨fun c' hc' => ?_, ⟨rfl, by simp [Trace.idle, outBytes]⟩⟩
  rcases List.mem_append.mp hc' with h | h
  · exact hdone c' h
  · exact hc c' (Option.mem_toList.mp h)

variable {w : World}

/-! ## Status transfer -/

theorem Sending.sent {d : BulkOnly} {c : CommandLog} (h : Sending d c) (hv : d.buf.Valid) {n : Nat}
    (hn : n ≤ d.buf.availableRead) :
    Sending { d with buf := { d.buf with rpos := d.buf.rpos + n } }
      { c with events := c.events ++ [.inPacket (d.buf.content.take n)] } := by
  obtain ⟨pre, csw, post, hev, hpre, hcsw, hpost, hlat, hbytes, hfifo, hshort⟩ := h
  refine ⟨pre, csw, post ++ [.inPacket (d.buf.content.take n)], by simp [hev], hpre, hcsw,
    fun e he => ?_, by simp [hlat, Event.latchedStatus], ?_, hfifo, hshort⟩
  · rcases List.mem_append.mp he with he | he
    · exact hpost e he
    · rw [List.mem_singleton.mp he]
      rfl
  · rw [(hv.consume hn).2, ← hbytes]
    simp [inBytes, Event.inData]

theorem tracks_handleWriteCsw (hi : w.dev.Inv) (hs : w.dev.state = .statusTransfer)
    (ht : Tracks w.dev w.trace) :
    Tracks (handleWriteCsw w).world.dev (handleWriteCsw w).world.trace := by
  obtain ⟨-, -, hcase⟩ := handleWriteCsw_spec hi.valid hi.packetSize_pos
  have hcur := ht.current
  rw [hs] at hcur
  obtain ⟨c, hc, hsend⟩ := hcur
  rcases hcase with ⟨e, -, hd, htr⟩ | ⟨n, -, -, hnm, hlt, heq⟩
  · rw [hd, htr]
    exact ht
  have hle : n ≤ w.dev.buf.availableRead := hnm ▸ min_le_right _ _
  have hsent := hsend.sent hi.valid hle
  rcases Nat.lt_or_eq_of_le hle with hlt' | heq'
  · obtain ⟨hd, htr⟩ := hlt hlt'
    rw [hd, htr, Trace.emit_of_current _ _ hc]
    exact ⟨ht.done, by simp only [hs, BulkOnly.TraceAt]; exact ⟨_, rfl, hsent⟩⟩
  · obtain ⟨hd, htr⟩ := heq heq'
    rw [hd, htr, Trace.emit_of_current _ _ hc]
    refine tracks_idle ht.done fun c' hc' => ?_
    cases hc'
    exact hsent.correct

theorem FifoPrefix.append_quiet {l : List UInt8} {es qs : List Event} (h : FifoPrefix l es)
    (hq : ∀ e ∈ qs, e.Quiet) : FifoPrefix l (es ++ qs) := by
  have h₁ : qs.flatMap Event.inData = [] := quiet_flatMap hq fun _ he => he.1
  have h₂ : qs.flatMap Event.outData = [] := quiet_flatMap hq fun _ he => he.2.1
  have h₃ : qs.flatMap Event.suppliedData = [] := quiet_flatMap hq fun _ he => he.2.2.1
  have h₄ : qs.flatMap Event.deliveredData = [] := quiet_flatMap hq fun _ he => he.2.2.2.1
  unfold FifoPrefix inBytes outBytes suppliedBytes deliveredBytes at h ⊢
  simpa only [List.flatMap_append, h₁, h₂, h₃, h₄, List.append_nil] using h

theorem Ending.sending {d : BulkOnly} {c : CommandLog} (h : Ending d c) {st : CommandStatus}
    (hcs : d.cs = some st) {stalls : List Event} (hq : ∀ e ∈ stalls, e.Quiet)
    (hstall : 0 < d.cbw.dataTransferLen → .stall c.cbw.direction.endpoint ∈ stalls)
    {b : Buffer} (hb : b.content = cswBytes d.cbw.tag d.cbw.dataTransferLen st) :
    Sending { d with buf := b, state := .statusTransfer }
      { c with events :=
          c.events ++ stalls ++ [.queue (cswBytes d.cbw.tag d.cbw.dataTransferLen st)] } := by
  have hres := residue_append_quiet c.cbw c.events hq
  have hin : ∀ q, .inPacket q ∉ stalls := fun q hq' => (hq _ hq').ne_inPacket q rfl
  refine ⟨c.events ++ stalls, cswBytes d.cbw.tag d.cbw.dataTransferLen st, [], by simp,
    fun e he => ?_, ⟨st, by simp [quiet_latches hq, h.latched, hcs], by rw [hres, ← h.counted, h.tag],
      fun hr => ?_⟩, by simp, rfl, by simpa using hb, h.fifo.append_quiet hq, h.short.append hin⟩
  · rcases List.mem_append.mp he with he | he
    exacts [h.noQueue e he, (hq e he).isQueue]
  · rw [hres, ← h.counted] at hr
    exact List.mem_append_right _ (hstall hr)

theorem stallOnResidue_current (hi : w.dev.Inv) (hd : w.dev.state.isDataTransfer) {c : CommandLog}
    (hc : w.trace.current = some c) (hend : Ending w.dev c) :
    ∃ stalls, (∀ e ∈ stalls, e.Quiet) ∧
      (0 < w.dev.cbw.dataTransferLen → .stall c.cbw.direction.endpoint ∈ stalls) ∧
      (stallOnResidue w).trace.current = some { c with events := c.events ++ stalls } ∧
      (stallOnResidue w).trace.done = w.trace.done := by
  rw [stallOnResidue_trace]
  by_cases hlen : 0 < w.dev.cbw.dataTransferLen
  · simp only [hlen, if_true]
    cases hs : w.dev.state <;> simp only [hs, State.isDataTransfer, Bool.false_eq_true] at hd
    · refine ⟨[.stall .inEp], by simp [Event.quiet_stall], fun _ => ?_, ?_, by simp⟩
      · rw [hend.toHost hs]
        simp [DataDirection.endpoint]
      · simp [Trace.emit_of_current _ _ hc]
    · refine ⟨[.stall .outEp], by simp [Event.quiet_stall], fun _ => ?_, ?_, by simp⟩
      · rw [hend.fromHost hs]
        simp [DataDirection.endpoint]
      · simp [Trace.emit_of_current _ _ hc]
    · exact absurd (hi.noData hs) (by omega)
  · simp only [hlen, if_false]
    exact ⟨[], by simp, by simp, by simp [hc], trivial⟩

theorem queueCsw_sending (hi : w.dev.Inv) (hd : w.dev.state.isDataTransfer) {st : CommandStatus}
    (hcs : w.dev.cs = some st) {c : CommandLog} (hc : w.trace.current = some c)
    (hend : Ending w.dev c) :
    ∃ stalls, (∀ e ∈ stalls, e.Quiet) ∧
      (stallOnResidue w).trace.current = some { c with events := c.events ++ stalls } ∧
      (queueCsw (stallOnResidue w) (cswBytes w.dev.cbw.tag w.dev.cbw.dataTransferLen st)).trace.current =
        some { c with events :=
          c.events ++ stalls ++ [.queue (cswBytes w.dev.cbw.tag w.dev.cbw.dataTransferLen st)] } ∧
      (queueCsw (stallOnResidue w) (cswBytes w.dev.cbw.tag w.dev.cbw.dataTransferLen st)).trace.done =
        w.trace.done ∧
      Sending (queueCsw (stallOnResidue w) (cswBytes w.dev.cbw.tag w.dev.cbw.dataTransferLen st)).dev
        { c with events :=
          c.events ++ stalls ++ [.queue (cswBytes w.dev.cbw.tag w.dev.cbw.dataTransferLen st)] } := by
  have hfit : (cswBytes w.dev.cbw.tag w.dev.cbw.dataTransferLen st).length ≤
      (stallOnResidue w).dev.buf.inner.length := by
    rw [length_cswBytes, stallOnResidue_dev]
    exact le_trans (by decide) hi.cbw_fits
  obtain ⟨-, hdev, -, -, hcont, -, htr⟩ := queueCsw_spec (stallOnResidue w)
    (cswBytes w.dev.cbw.tag w.dev.cbw.dataTransferLen st) hfit
  rw [stallOnResidue_dev] at hdev
  obtain ⟨stalls, hq, hstall, hcur, hdn⟩ := stallOnResidue_current hi hd hc hend
  refine ⟨stalls, hq, hcur, by rw [htr, Trace.emit_of_current _ _ hcur],
    by rw [htr, Trace.emit_done, hdn], ?_⟩
  rw [hdev]
  exact hend.sending hcs hq hstall hcont

theorem tracks_endDataTransfer (hi : w.dev.Inv) (hd : w.dev.state.isDataTransfer)
    {st : CommandStatus} (hcs : w.dev.cs = some st)
    (hdone : ∀ c ∈ w.trace.done, c.Correct w.dev.packetSize) {c : CommandLog}
    (hc : w.trace.current = some c) (hend : Ending w.dev c) :
    Tracks (endDataTransfer w).world.dev (endDataTransfer w).world.trace := by
  rw [endDataTransfer_eq hcs]
  refine tracks_handleWriteCsw (queueCsw_inv hi hd hcs) rfl ?_
  obtain ⟨_, -, -, hcur, hdn, hsend⟩ := queueCsw_sending hi hd hcs hc hend
  exact ⟨by rw [hdn]; simpa [queueCsw, BulkOnly.enterState] using hdone, ⟨_, hcur, hsend⟩⟩

theorem tracks_checkEndDataTransfer (hi : w.dev.Inv) (hd : w.dev.state.isDataTransfer)
    (hdone : ∀ c ∈ w.trace.done, c.Correct w.dev.packetSize) {c : CommandLog}
    (hc : w.trace.current = some c) (hend : Ending w.dev c)
    (hserve : ¬ w.dev.dataPhaseOver → Serving w.dev c) :
    Tracks (checkEndDataTransfer w).world.dev (checkEndDataTransfer w).world.trace := by
  rw [checkEndDataTransfer_eq]
  split
  · rename_i hover
    obtain ⟨st, hcs⟩ := Option.isSome_iff_exists.mp hover.1
    exact tracks_endDataTransfer hi hd hcs hdone hc hend
  · exact Tracks.of_serving hdone hc (hserve ‹_›)

/-! ## One event of a data phase -/

section DataPhase

variable {d : BulkOnly} {c : CommandLog}

theorem noQueue_snoc {es : List Event} {e : Event} (h : ∀ x ∈ es, x.isQueue = false)
    (he : e.isQueue = false) : ∀ x ∈ es ++ [e], x.isQueue = false := by
  intro x hx
  rcases List.mem_append.mp hx with hx | hx
  · exact h x hx
  · rw [List.mem_singleton.mp hx]
    exact he

theorem Serving.congr {d' : BulkOnly} (h : Serving d c) (hst : d'.state = d.state)
    (hps : d'.packetSize = d.packetSize) (hcs : d'.cs = d.cs) (hcbw : d'.cbw = d.cbw)
    (hb : d'.buf.content = d.buf.content) : Serving d' c := by
  have hbytes := h.bytes
  refine ⟨hcbw ▸ h.tag, h.noQueue, hcs ▸ h.latched, hcbw ▸ h.counted, hps ▸ h.short, ?_⟩
  rw [hst]
  cases hs : d.state <;> simp only [hs, BulkOnly.DataBytes, hb] at hbytes ⊢ <;> exact hbytes

theorem Serving.outPacket (h : Serving d c) (hs : d.state = .dataTransferFromHost)
    (d' : BulkOnly) (hst : d'.state = d.state) (hps : d'.packetSize = d.packetSize) (hcs : d'.cs = d.cs)
    (htag : d'.cbw.tag = d.cbw.tag) {p : List UInt8}
    (hlen : d'.cbw.dataTransferLen = d.cbw.dataTransferLen - p.length)
    (hb : d'.buf.content = d.buf.content ++ p) :
    Serving d' { c with events := c.events ++ [.outPacket p] } := by
  have hbytes := h.bytes
  rw [hs] at hbytes
  obtain ⟨hdir, hin, heq⟩ := hbytes
  refine ⟨htag.trans h.tag, noQueue_snoc h.noQueue rfl, by simpa [Event.latchedStatus, hcs]
    using h.latched, ?_, hps ▸ h.short.snoc (by simp), ?_⟩
  · rw [hlen, h.counted]
    simp [residue, transferred, hdir, Event.outData, Nat.sub_sub]
  · rw [hst, hs]
    refine ⟨hdir, by simpa using hin, ?_⟩
    simp only [deliveredBytes_append, outBytes_append, deliveredBytes_cons, outBytes_cons,
      Event.deliveredData, Event.outData, deliveredBytes_nil, outBytes_nil, List.append_nil, hb]
    rw [← List.append_assoc, heq, List.append_assoc]
    rfl

theorem Serving.delivered (h : Serving d c) (hs : d.state = .dataTransferFromHost)
    (d' : BulkOnly) (hst : d'.state = d.state) (hps : d'.packetSize = d.packetSize) (hcs : d'.cs = d.cs)
    (hcbw : d'.cbw = d.cbw) (hb : d'.buf.content = []) :
    Serving d' { c with events := c.events ++ [.delivered d.buf.content] } := by
  have hbytes := h.bytes
  rw [hs] at hbytes
  obtain ⟨hdir, hin, heq⟩ := hbytes
  refine ⟨hcbw ▸ h.tag, noQueue_snoc h.noQueue rfl, by simpa [Event.latchedStatus, hcs]
    using h.latched, ?_, hps ▸ h.short.snoc (by simp), ?_⟩
  · rw [hcbw, h.counted]
    simp [residue, transferred, hdir, Event.outData]
  · rw [hst, hs]
    refine ⟨hdir, by simpa using hin, ?_⟩
    simpa [Event.deliveredData, Event.outData, hb] using heq

theorem Serving.supplied (h : Serving d c) (hs : d.state = .dataTransferToHost)
    (d' : BulkOnly) (hst : d'.state = d.state) (hps : d'.packetSize = d.packetSize) (hcs : d'.cs = d.cs)
    (hcbw : d'.cbw = d.cbw) {src : List UInt8} (hb : d'.buf.content = d.buf.content ++ src) :
    Serving d' { c with events := c.events ++ [.supplied src] } := by
  have hbytes := h.bytes
  rw [hs] at hbytes
  obtain ⟨hdir, hdel, heq⟩ := hbytes
  refine ⟨hcbw ▸ h.tag, noQueue_snoc h.noQueue rfl, by simpa [Event.latchedStatus, hcs]
    using h.latched, ?_, hps ▸ h.short.snoc (by simp), ?_⟩
  · rw [hcbw, h.counted]
    simp [residue, transferred, hdir, Event.inData]
  · rw [hst, hs]
    refine ⟨hdir, by simpa [Event.deliveredData] using hdel, ?_⟩
    simp only [inBytes_append, suppliedBytes_append, inBytes_cons, suppliedBytes_cons,
      Event.inData, Event.suppliedData, inBytes_nil, suppliedBytes_nil, List.append_nil, hb]
    rw [← List.append_assoc, heq, List.append_assoc]
    rfl

theorem Serving.latch (h : Serving d c) (hnone : d.cs = none) {st : CommandStatus}
    (d' : BulkOnly) (hst : d'.state = d.state) (hps : d'.packetSize = d.packetSize) (hcs : d'.cs = some st)
    (hcbw : d'.cbw = d.cbw) (hb : d'.buf.content = d.buf.content) :
    Serving d' { c with events := c.events ++ [.latch st] } := by
  have hbytes := h.bytes
  have hl : latches c.events = [] := by rw [h.latched, hnone]; rfl
  refine ⟨hcbw ▸ h.tag, noQueue_snoc h.noQueue rfl, by simp [hl, hcs, Event.latchedStatus],
    ?_, hps ▸ h.short.snoc (by simp), ?_⟩
  · rw [hcbw, h.counted]
    simp [residue, transferred, Event.inData, Event.outData]
  · rw [hst]
    cases hs : d.state <;> simp only [hs, BulkOnly.DataBytes] at hbytes ⊢ <;>
      simpa [Event.inData, Event.outData, Event.suppliedData, Event.deliveredData, hb]
        using hbytes

theorem Serving.cs_none (h : Serving d c) (hl : latches c.events = []) : d.cs = none := by
  have hlat := h.latched
  rw [hl] at hlat
  cases hcs : d.cs with
  | none => rfl
  | some st => simp [hcs] at hlat

theorem ShortPacketsUnlatched.snoc_inPacket {ps : Nat} {cbw : CommandBlockWrapper}
    {es : List Event} {q : List UInt8} (h : ShortPacketsUnlatched ps cbw es)
    (hq : q.length < ps → latches es = [] ∧ residue cbw es < ps) :
    ShortPacketsUnlatched ps cbw (es ++ [.inPacket q]) := by
  intro pre p post hsplit hshort
  rcases eq_append_cons_of_snoc hsplit with ⟨rfl, heq, -⟩ | ⟨post', hes, rfl⟩
  · cases heq
    exact hq hshort
  · exact h pre p post' hes hshort

theorem ShortPacketsUnlatched.snoc_inPacket_ok {ps : Nat} {cbw : CommandBlockWrapper}
    {es : List Event} {q : List UInt8} (h : ShortPacketsUnlatched ps cbw es)
    (hq : q.length < ps → latches es = [] → residue cbw es < ps) :
    ShortPacketsOk ps cbw (es ++ [.inPacket q]) := by
  intro pre p post hsplit hshort
  rcases eq_append_cons_of_snoc hsplit with ⟨rfl, heq, rfl⟩ | ⟨post', hes, rfl⟩
  · cases heq
    exact ⟨hq hshort, fun _ q' hq' => by simp at hq'⟩
  · obtain ⟨hl, hr⟩ := h pre p post' hes hshort
    exact ⟨fun _ => hr, fun hne => absurd hl hne⟩

theorem Serving.dataBytes_inPacket (h : Serving d c) (hs : d.state = .dataTransferToHost) {n : Nat}
    (d' : BulkOnly) (hst : d'.state = d.state) (hb : d'.buf.content = d.buf.content.drop n) :
    d'.DataBytes { c with events := c.events ++ [.inPacket (d.buf.content.take n)] } d'.state := by
  have hbytes := h.bytes
  rw [hs] at hbytes
  obtain ⟨hdir, hdel, heq⟩ := hbytes
  rw [hst, hs]
  exact ⟨hdir, by simpa [Event.deliveredData] using hdel,
    by simpa [Event.inData, Event.suppliedData, hb] using heq⟩

theorem Serving.inPacket (h : Serving d c) (hs : d.state = .dataTransferToHost)
    (hv : d.buf.Valid) {n : Nat} (hn : n ≤ d.buf.availableRead)
    (hshort : n < d.packetSize → d.cs = none → d.cbw.dataTransferLen < d.packetSize)
    (d' : BulkOnly) (hst : d'.state = d.state) (hps : d'.packetSize = d.packetSize) (hcs : d'.cs = d.cs)
    (htag : d'.cbw.tag = d.cbw.tag) (hlen : d'.cbw.dataTransferLen = d.cbw.dataTransferLen - n)
    (hb : d'.buf.content = d.buf.content.drop n) :
    Ending d' { c with events := c.events ++ [.inPacket (d.buf.content.take n)] } ∧
      ((n < d.packetSize → d.cs = none) →
        Serving d' { c with events := c.events ++ [.inPacket (d.buf.content.take n)] }) := by
  have hdir : c.cbw.direction = .in := by
    have hbytes := h.bytes
    rw [hs] at hbytes
    exact hbytes.1
  have hq : (d.buf.content.take n).length = n := by simp [hv.length_content, hn]
  have hl : latches (c.events ++ [.inPacket (d.buf.content.take n)]) = d'.cs.toList := by
    simpa [Event.latchedStatus, hcs] using h.latched
  have hcnt : d'.cbw.dataTransferLen =
      residue c.cbw (c.events ++ [.inPacket (d.buf.content.take n)]) := by
    rw [hlen, h.counted]
    simp [residue, transferred, hdir, Event.inData, hq, Nat.sub_sub]
  have hdb := h.dataBytes_inPacket hs d' hst hb
  have hshort' : n < d.packetSize → latches c.events = [] → residue c.cbw c.events < d.packetSize :=
    fun hlt hl0 => h.counted ▸ hshort hlt (h.cs_none hl0)
  refine ⟨.of_dataBytes (htag.trans h.tag) (noQueue_snoc h.noQueue rfl) hl hcnt
    (hps ▸ h.short.snoc_inPacket_ok fun hlt => hshort' (hq ▸ hlt)) hdb, fun hnone => ⟨htag.trans h.tag,
      noQueue_snoc h.noQueue rfl, hl, hcnt, hps ▸ h.short.snoc_inPacket fun hlt => ?_, hdb⟩⟩
  rw [hq] at hlt
  have hl0 : latches c.events = [] := by rw [h.latched, hnone hlt]; rfl
  exact ⟨hl0, hshort' hlt hl0⟩

end DataPhase

/-! ## Data transfer -/

theorem tracks_handleReadFromHost (hi : w.dev.Inv) (hs : w.dev.state = .dataTransferFromHost)
    (ht : Tracks w.dev w.trace) :
    Tracks (handleReadFromHost w).world.dev (handleReadFromHost w).world.trace := by
  have hd : w.dev.state.isDataTransfer := by rw [hs]; rfl
  obtain ⟨c, hc, hserve⟩ := ht.serving hd
  unfold handleReadFromHost
  split
  · obtain ⟨hdev, hv, hl, -, -, hcase⟩ := readPacket_spec hi.valid
    generalize readPacket w = r at hdev hv hl hcase ⊢
    obtain ⟨w', o⟩ := r
    dsimp only at hdev hv hl hcase
    have hs' : w'.dev.state = .dataTransferFromHost := by rw [hdev]; exact hs
    have hi' : w'.dev.Inv := by
      rw [hdev]
      exact hi.of_dataTransfer rfl hd rfl hl hv (hi.wellFormed hd) (by simp [hs])
    have hps : w'.dev.packetSize = w.dev.packetSize := by rw [hdev]
    have hcs : w'.dev.cs = w.dev.cs := by rw [hdev]
    have hcbw : w'.dev.cbw = w.dev.cbw := by rw [hdev]
    have hdone : ∀ c ∈ w.trace.done, c.Correct w'.dev.packetSize := hps ▸ ht.done
    rcases hcase with ⟨p, rfl, -, -, hcont, htr⟩ | ⟨e, rfl, hcont, htr⟩
    · have hserve' := hserve.outPacket hs
        (w'.setResidue (w'.dev.cbw.dataTransferLen - p.length)).dev (hs'.trans hs.symm) hps hcs (by simp [hcbw]) (by simp [hcbw]) hcont
      refine tracks_checkEndDataTransfer (hi'.setResidue (.inl hs') _)
        (by simp only [World.setResidue_dev, hs']; rfl) (by simpa [htr] using hdone)
        (by simp [htr, Trace.emit_of_current _ _ hc]) hserve'.ending fun _ => hserve'
    · simp only [Call.andThen_err]
      have hserve' : Serving w'.dev c := hserve.congr (hs'.trans hs.symm) hps hcs hcbw hcont
      rcases htr with htr | htr
      · exact htr ▸ Tracks.of_serving hdone hc hserve'
      · rw [htr]
        exact Tracks.of_serving (by simpa using hdone) (Trace.emit_of_current _ _ hc ▸ rfl)
          (hserve'.quiet (show ∀ e ∈ [Event.outPacket []], e.Quiet by
            simp [Event.quiet_outPacket_nil]))
  · exact tracks_checkEndDataTransfer hi hd ht.done hc hserve.ending fun _ => hserve

theorem BulkOnly.short_of_guard {d : BulkOnly}
    (hguard : (decide (d.packetSize ≤ d.buf.availableRead) ||
      !(decide (d.packetSize ≤ d.cbw.dataTransferLen) && !d.statusPresent)) = true)
    {n : Nat} (hnm : n = min d.packetSize d.buf.availableRead) :
    n < d.packetSize → d.cs = none → d.cbw.dataTransferLen < d.packetSize := by
  intro hlt hnone
  simp only [BulkOnly.statusPresent, hnone, Option.isSome_none, Bool.not_false,
    Bool.and_true, Bool.or_eq_true, decide_eq_true_eq, Bool.not_eq_true',
    decide_eq_false_iff_not, not_le] at hguard
  omega

theorem tracks_handleWriteToHost (hi : w.dev.Inv) (hs : w.dev.state = .dataTransferToHost)
    (ht : Tracks w.dev w.trace) :
    Tracks (handleWriteToHost w).world.dev (handleWriteToHost w).world.trace := by
  have hd : w.dev.state.isDataTransfer := by rw [hs]; rfl
  obtain ⟨c, hc, hserve⟩ := ht.serving hd
  unfold handleWriteToHost
  dsimp only
  split
  · rename_i hguard
    split
    · obtain ⟨-, -, -, hcase⟩ := writePacket_spec hi.valid hi.packetSize_pos
      generalize writePacket w = r at hcase ⊢
      obtain ⟨w', o⟩ := r
      dsimp only at hcase
      rcases hcase with ⟨n, rfl, -, hnm, hdev, htr⟩ | ⟨e, rfl, hdev, htr⟩
      · have hle : n ≤ w.dev.buf.availableRead := hnm ▸ min_le_right _ _
        have hi' : w'.dev.Inv := hdev ▸ hi.of_dataTransfer rfl hd rfl rfl
          (hi.valid.consume hle).1 (hi.wellFormed hd) (by simp [hs])
        obtain ⟨hend, hserve'⟩ := hserve.inPacket hs hi.valid hle
          (BulkOnly.short_of_guard hguard hnm)
          (w'.setResidue (w'.dev.cbw.dataTransferLen - n)).dev
          (by simp [hdev]) (by simp [hdev]) (by simp [hdev]) (by simp [hdev]) (by simp [hdev])
          (by simp [hdev, (hi.valid.consume hle).2])
        refine tracks_checkEndDataTransfer (hi'.setResidue (.inr (by rw [hdev]; exact hs)) _)
          (by simp [hdev, hs]; rfl) (by simpa [htr, hdev] using ht.done)
          (by simp [htr, Trace.emit_of_current _ _ hc]) hend fun hnot => hserve' fun hlt => ?_
        cases hcs : w.dev.cs with
        | none => rfl
        | some st =>
          have hn : n = w.dev.buf.availableRead := by omega
          refine absurd ⟨by simp [BulkOnly.statusPresent, hdev, hcs],
            .inr ⟨.inr (by simp [hdev, hs]), ?_⟩⟩ hnot
          simp only [World.setResidue_dev, hdev, Buffer.availableRead] at hn ⊢
          omega
      · simp only [Call.andThen_err]
        rw [hdev, htr]
        exact ht
    · exact tracks_checkEndDataTransfer hi hd ht.done hc hserve.ending fun _ => hserve
  · exact ht

/-! ## Reset and the command wrapper -/

theorem tracks_reset (ht : Tracks w.dev w.trace) : Tracks (reset w).dev (reset w).trace := by
  simp only [reset, enterState_dev, enterState_trace, unstallOutEp_dev, unstallInEp_dev,
    unstallOutEp_trace, unstallInEp_trace, if_pos]
  refine tracks_idle (by simpa using ht.done) fun c hc => ?_
  simp only [Trace.emit_current, Option.map_map, Option.map_eq_some'] at hc
  obtain ⟨c₀, hc₀, rfl⟩ := hc
  simpa using ht.current_quiet hc₀
    (show ∀ e ∈ [Event.unstall .inEp, .unstall .outEp], e.Quiet by simp [Event.quiet_unstall])

theorem serving_startDataTransfer {cbw : CommandBlockWrapper} (hcs : w.dev.cs = none)
    (hdir : cbw.direction = .notExpected ↔ cbw.dataTransferLen = 0) (before : List Event)
    (hb : w.dev.buf.content = (outBytes before).drop cbwLen) :
    Serving (startDataTransfer w cbw).dev ⟨cbw, before, []⟩ := by
  have hshort : ShortPacketsUnlatched w.dev.packetSize cbw [] := fun pre p post h => by simp at h
  rw [startDataTransfer_dev]
  cases hd : cbw.direction <;> simp only [hd, true_iff] at hdir <;>
    exact ⟨rfl, by simp, by simp [hcs], by simp [residue, transferred, hd, hdir], hshort,
      by simp [BulkOnly.DataBytes, hd, hb, CommandLog.leftover]⟩

theorem tracks_handleReadCbw (hi : w.dev.Inv)
    (hs : w.dev.state = .idle ∨ w.dev.state = .commandTransfer) (ht : Tracks w.dev w.trace) :
    Tracks (handleReadCbw w).world.dev (handleReadCbw w).world.trace := by
  obtain ⟨hcur, hcont⟩ := ht.pending hs
  obtain ⟨hdev, hv, -, -, -, hcase⟩ := readPacket_spec hi.valid
  unfold handleReadCbw
  generalize readPacket w = r at hdev hv hcase ⊢
  obtain ⟨w', o⟩ := r
  dsimp only at hdev hv hcase
  have hst : w'.dev.state = w.dev.state := by rw [hdev]
  have hps : w'.dev.packetSize = w.dev.packetSize := by rw [hdev]
  have hcs' : w'.dev.cs = none := by rw [hdev]; exact hi.cs_none hs
  rcases hcase with ⟨p, rfl, -, -, hc, htr⟩ | ⟨e, rfl, hc, htr⟩
  · simp only [Call.andThen_ok]
    have hdone : ∀ c ∈ w'.trace.done, c.Correct w'.dev.packetSize := by
      simpa [htr, hps] using ht.done
    have hcur' : w'.trace.current = none := by simp [htr, hcur]
    have hpend : w'.dev.buf.content = outBytes w'.trace.pending := by
      rw [hc, htr, Trace.emit_of_none _ _ hcur, hcont]
      simp [Event.outData]
    split
    · rename_i hcbw
      rw [tryParseCbw_eq hcbw]
      cases hr : parseCbw (w'.dev.buf.content.take cbwLen) with
      | error e =>
        simp only [reset, stallEps, enterState_dev, enterState_trace, unstallOutEp_dev,
          unstallInEp_dev, stallOutEp_dev, stallInEp_dev, unstallOutEp_trace, unstallInEp_trace,
          stallOutEp_trace, stallInEp_trace, World.setBuf_dev, World.setBuf_trace, if_pos]
        exact tracks_idle (by simpa using hdone) fun c hc => by simp [hcur'] at hc
      | ok cbw =>
        have hraw : (w'.dev.buf.content.take cbwLen).length = cbwLen := by
          rw [List.length_take, hv.length_content, min_eq_left hcbw]
        have hserve := serving_startDataTransfer
          (w := w'.setBuf { w'.dev.buf with rpos := w'.dev.buf.rpos + cbwLen }) hcs'
          (parseCbw_ok hraw hr).2 w'.trace.pending
          (by rw [World.setBuf_dev, (hv.consume hcbw).2, hpend])
        refine Tracks.of_serving (by simpa [Trace.accept, hcur'] using hdone)
          (by simp [Trace.accept]) hserve
    · exact Tracks.of_pending (by simp [BulkOnly.enterState_of_ne _ (by decide :
        State.commandTransfer ≠ .idle)]) (by simpa using hdone) (by simpa using hcur')
        (by simpa [BulkOnly.enterState_of_ne _ (by decide : State.commandTransfer ≠ .idle)]
          using hpend)
  · simp only [Call.andThen_err]
    have hdone : w'.trace.done = w.trace.done := by rcases htr with htr | htr <;> simp [htr]
    refine Tracks.of_pending (hst ▸ hs) (by rw [hdone, hps]; exact ht.done) ?_ ?_ <;>
      rcases htr with htr | htr
    · rw [htr]; exact hcur
    · simp [htr, hcur]
    · rw [htr, hc, hcont]
    · rw [htr, hc, hcont, Trace.emit_of_none _ _ hcur]
      simp [Event.outData]

/-! ## The methods -/

theorem tracks_read (hi : w.dev.Inv) (ht : Tracks w.dev w.trace) :
    Tracks (read w).world.dev (read w).world.trace := by
  unfold read
  split
  · exact tracks_handleReadCbw hi (.inl ‹_›) ht
  · exact tracks_handleReadCbw hi (.inr ‹_›) ht
  · exact tracks_handleReadFromHost hi ‹_› ht
  · exact ht

theorem tracks_write (hi : w.dev.Inv) (ht : Tracks w.dev w.trace) :
    Tracks (write w).world.dev (write w).world.trace := by
  unfold write
  split
  · exact tracks_handleWriteCsw hi ‹_› ht
  · exact tracks_handleWriteToHost hi ‹_› ht
  · have hd : w.dev.state.isDataTransfer := by rw [‹w.dev.state = _›]; rfl
    obtain ⟨c, hc, hserve⟩ := ht.serving hd
    exact tracks_checkEndDataTransfer hi hd ht.done hc hserve.ending fun _ => hserve
  · exact ht

theorem tracks_setStatus (hi : w.dev.Inv) (hd : w.dev.state.isDataTransfer)
    (hnone : w.dev.cs = none) (ht : Tracks w.dev w.trace) (status : CommandStatus) :
    Tracks (setStatus w status).world.dev (setStatus w status).world.trace := by
  obtain ⟨c, hc, hserve⟩ := ht.serving hd
  have hi₁ : (({ w with dev := { w.dev with cs := some status } } : World).emit
      (.latch status)).dev.Inv :=
    hi.of_dataTransfer rfl hd rfl rfl hi.valid (hi.wellFormed hd) hi.noData
  have hserve₁ := hserve.latch hnone { w.dev with cs := some status } rfl rfl rfl rfl rfl
  have hc₁ : (({ w with dev := { w.dev with cs := some status } } : World).emit
      (.latch status)).trace.current = some { c with events := c.events ++ [.latch status] } := by
    simp [hc]
  rw [setStatus_world]
  split
  · exact tracks_endDataTransfer hi₁ hd rfl (by simpa using ht.done) hc₁ hserve₁.ending
  · exact Tracks.of_serving (by simpa using ht.done) hc₁ hserve₁

theorem tracks_readData (hi : w.dev.Inv) (ht : Tracks w.dev w.trace) (dst : List UInt8) :
    Tracks (readData w dst).world.dev (readData w dst).world.trace := by
  by_cases hs : w.dev.state = .dataTransferFromHost
  · obtain ⟨c, hc, hserve⟩ := ht.serving (by rw [hs]; rfl)
    obtain ⟨hle, hlt⟩ := readData_spec hi.valid hs dst
    rcases Nat.lt_or_ge dst.length w.dev.buf.availableRead with hl | hl
    · rw [hlt hl]
      exact ht
    · rw [hle hl]
      refine Tracks.of_serving (by simpa using ht.done) (by simp [hc])
        (hserve.delivered hs _ rfl rfl rfl rfl ?_)
      rw [World.emit_dev, World.setBuf_dev, (hi.valid.consume le_rfl).2]
      exact List.drop_eq_nil_of_le hi.valid.length_content.le
  · simpa [readData, hs] using ht

theorem tracks_writeData (hi : w.dev.Inv) (ht : Tracks w.dev w.trace) (src : List UInt8) :
    Tracks (writeData w src).world.dev (writeData w src).world.trace := by
  by_cases hs : w.dev.state = .dataTransferToHost
  · cases hcs : w.dev.cs with
    | some st => simpa [writeData, hs, BulkOnly.statusPresent, hcs] using ht
    | none =>
      obtain ⟨c, hc, hserve⟩ := ht.serving (by rw [hs]; rfl)
      rw [writeData_eq hs hcs]
      generalize src.take (min src.length w.dev.cbw.dataTransferLen) = data
      exact Tracks.of_serving (by simpa using ht.done) (by simp [hc])
        (hserve.supplied hs { w.dev with buf := (w.dev.buf.write data).1 } rfl rfl rfl rfl
          (hi.valid.write data).2.2.2)
  · simpa [writeData, hs] using ht

theorem tracks_tryWriteDataAll (hi : w.dev.Inv) (ht : Tracks w.dev w.trace) (src : List UInt8) :
    Tracks (tryWriteDataAll w src).world.dev (tryWriteDataAll w src).world.trace := by
  by_cases hs : w.dev.state = .dataTransferToHost
  · cases hcs : w.dev.cs with
    | some st => simpa [tryWriteDataAll, hs, BulkOnly.statusPresent, hcs] using ht
    | none =>
      obtain ⟨c, hc, hserve⟩ := ht.serving (by rw [hs]; rfl)
      obtain ⟨hover, hroom⟩ := tryWriteDataAll_spec hi.valid hs hcs src
      rcases Nat.lt_or_ge (w.dev.buf.inner.length - w.dev.buf.availableRead) src.length with
        hlt | hge
      · rw [hover hlt]
        exact Tracks.of_serving ht.done hc
          (hserve.congr rfl rfl rfl rfl (hi.valid.makeRoom src.length).2.2.1)
      · obtain ⟨b, heq, -, -, hb⟩ := hroom hge
        rw [heq]
        exact Tracks.of_serving (by simpa using ht.done) (by simp [hc])
          (hserve.supplied hs { w.dev with buf := b } rfl rfl rfl rfl hb)
  · simpa [tryWriteDataAll, hs] using ht

/-! ## Runs -/

theorem Action.call_tracks (hi : w.dev.Inv) (ht : Tracks w.dev w.trace) (a : Action)
    (ha : a.allowed w.dev) : Tracks (a.call w).world.dev (a.call w).world.trace := by
  cases a with
  | read => exact tracks_read hi ht
  | write => exact tracks_write hi ht
  | readData dst => exact tracks_readData hi ht dst
  | writeData src => exact tracks_writeData hi ht src
  | tryWriteDataAll src => exact tracks_tryWriteDataAll hi ht src
  | setStatus status =>
    simp only [Action.allowed, Bool.and_eq_true, Option.isNone_iff_eq_none] at ha
    exact tracks_setStatus hi ha.1 ha.2 ht status
  | reset => exact tracks_reset ht

theorem tracks_of_reachable (h : Reachable w) : Tracks w.dev w.trace := by
  induction h with
  | init bus hp hnew =>
    obtain ⟨rfl, -⟩ := BulkOnly.new_ok hnew
    exact Tracks.of_pending (.inl rfl) (by simp [Trace.empty]) rfl rfl
  | step a hr ha _ ih => exact Action.call_tracks (inv_of_reachable hr) ih a ha

theorem commands_correct (h : Reachable w) : ∀ c ∈ w.trace.commands, c.Correct w.dev.packetSize := by
  have ht := tracks_of_reachable h
  intro c hc
  rcases List.mem_append.mp hc with hc | hc
  · exact ht.done c hc
  · have hcur := ht.current
    have hsome : w.trace.current = some c := Option.mem_toList.mp hc
    cases hs : w.dev.state <;> simp only [hs, BulkOnly.TraceAt] at hcur
    case idle | commandTransfer => simp [hcur.1] at hsome
    all_goals
      obtain ⟨c', hc', hnow⟩ := hcur
      rw [hsome] at hc'
      cases hc'
      exact hnow.correct

/-! ## The data bytes of a command -/

theorem data_bytes_in_order (h : Reachable w) {c : CommandLog} (hc : c ∈ w.trace.commands)
    (hcbw : (outBytes c.before).length = cbwLen) :
    inBytes (dataPhase c.events) <+: suppliedBytes (dataPhase c.events) ∧
      deliveredBytes (dataPhase c.events) <+: outBytes (dataPhase c.events) := by
  have hleft : c.leftover = [] := List.drop_eq_nil_of_le hcbw.le
  have hfifo := (commands_correct h c hc).2.1
  rw [CommandLog.FifoCorrect, FifoPrefix, hleft] at hfifo
  simpa using hfifo

def readFourStart : World :=
  ⟨⟨32, Buffer.new (List.replicate 32 0), .idle, .default, none, 0⟩,
    ⟨[.accept], [.packet (hostCbwBytes 8 4 0x80 0 [0x28, 0, 0, 0, 0, 0, 0, 0, 1, 0])], false,
      false⟩, .empty⟩

def readFourWorld : World :=
  (Action.call .write
    (Action.call (.writeData [1, 2, 3, 4]) (Action.call .read readFourStart).world).world).world

theorem readFourWorld_bytes_in_order :
    ∃ c ∈ readFourWorld.trace.commands, (outBytes c.before).length = cbwLen ∧
      inBytes (dataPhase c.events) = [1, 2, 3, 4] ∧
      (inBytes (dataPhase c.events) <+: suppliedBytes (dataPhase c.events) ∧
        deliveredBytes (dataPhase c.events) <+: outBytes (dataPhase c.events)) :=
  have h : Reachable readFourWorld :=
    (((Reachable.init _ (by decide : 0 < 32)
      (rfl : BulkOnly.new 32 0 (List.replicate 32 0) = .ok readFourStart.dev) rfl rfl).step
        .read rfl (by decide)).step (.writeData [1, 2, 3, 4]) rfl (by decide)).step .write rfl
          (by decide)
  ⟨_, List.get_mem _ 0 (by decide), by decide, by decide,
    data_bytes_in_order h (List.get_mem _ 0 (by decide)) (by decide)⟩

end UsbdStorage
