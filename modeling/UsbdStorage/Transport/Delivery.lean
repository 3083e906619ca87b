import UsbdStorage.Transport.Tracking

/-!
# What a command delivers

`set_status(Failed)` and `set_status(PhaseError)` end the data phase at once and drop what the
IO buffer still holds (`setStatus_drops_queued_data`).  With `Passed` nothing is lost:
`end_data_transfer` then runs from `check_end_data_transfer` alone, once the IO buffer is
empty or in a command with no data.  So every command whose CSW was queued with `Passed` moved
all its data: for data-in, the host received the bytes that followed the wrapper and then
every byte the application supplied; for data-out, the application read the bytes that
followed the wrapper and then every byte the host sent (`passed_command_moves_all_data`).

A command ends in two ways only: `handle_write_csw` returns to `Idle` once the IN endpoint
took the last byte of the CSW, and `reset` unstalls both endpoints and returns to `Idle`
wherever the transport stands.  So every command the trace closed either had its whole CSW
sent after its data phase, or ends with the two unstalls of a reset
(`closed_command_csw_sent`).

Both facts are fields of one invariant of every reachable state, `Trace.Delivers`.  The queue
of the CSW is the only event that can break the first, and `end_data_transfer` alone emits
it; the return to `Idle` is the only change that can break the second.  Every other change of
the trace keeps both by one lemma of the section on traces.
-/

namespace UsbdStorage

/-! ## Complete data phases -/

/-- The data phase `es` of a command in direction `dir` moved every byte: for data-in, the IN
endpoint took the bytes after the wrapper, then every byte the application supplied; for
data-out, the application got the bytes after the wrapper, then every byte the OUT endpoint
delivered. -/
def DataComplete (dir : DataDirection) (leftover : List UInt8) (es : List Event) : Prop :=
  match dir with
  | .«in» => inBytes es = leftover ++ suppliedBytes es
  | .out => deliveredBytes es = leftover ++ outBytes es
  | .notExpected => True

/-- Once the CSW of `c` is queued with `Passed`, its data phase moved every byte. -/
def CommandLog.PassedComplete (c : CommandLog) : Prop :=
  (∃ e ∈ c.events, e.isQueue = true) → latches (dataPhase c.events) = [.passed] →
    DataComplete c.cbw.direction c.leftover (dataPhase c.events)

/-- The whole CSW of `c` went out: the IN packets after its queue make it up. -/
def CommandLog.CswSent (c : CommandLog) : Prop :=
  ∃ csw post, c.events = dataPhase c.events ++ .queue csw :: post ∧ inBytes post = csw

/-- A closed command ended as the transport ends one: with its whole CSW sent, or by the two
unstalls of a reset. -/
def CommandLog.ClosedWell (c : CommandLog) : Prop :=
  c.CswSent ∨ ∃ es, c.events = es ++ [.unstall .inEp, .unstall .outEp]

/-- What the transport delivers, in every reachable state. -/
structure Trace.Delivers (t : Trace) : Prop where
  complete : ∀ c ∈ t.commands, c.PassedComplete
  closed : ∀ c ∈ t.done, c.ClosedWell

theorem Sending.cswSent {d : BulkOnly} {c : CommandLog} (h : Sending d c)
    (he : d.buf.content = []) : c.CswSent := by
  obtain ⟨pre, csw, post, hev, hpre, -, -, -, hbytes, -⟩ := h
  exact ⟨csw, post, by rw [hev, dataPhase_queue hpre], by simpa [he] using hbytes⟩

theorem DataComplete.append_quiet {dir : DataDirection} {leftover : List UInt8}
    {es qs : List Event} (h : DataComplete dir leftover es) (hq : ∀ e ∈ qs, e.Quiet) :
    DataComplete dir leftover (es ++ qs) := by
  have h₁ : qs.flatMap Event.inData = [] := quiet_flatMap hq fun _ he => he.1
  have h₂ : qs.flatMap Event.outData = [] := quiet_flatMap hq fun _ he => he.2.1
  have h₃ : qs.flatMap Event.suppliedData = [] := quiet_flatMap hq fun _ he => he.2.2.1
  have h₄ : qs.flatMap Event.deliveredData = [] := quiet_flatMap hq fun _ he => he.2.2.2.1
  cases dir
  case notExpected => trivial
  all_goals simpa only [DataComplete, inBytes, outBytes, suppliedBytes, deliveredBytes,
    List.flatMap_append, h₁, h₂, h₃, h₄, List.append_nil] using h

theorem dataPhase_append_of_queued {es : List Event} (h : ∃ e ∈ es, e.isQueue = true)
    (es' : List Event) : dataPhase (es ++ es') = dataPhase es := by
  obtain ⟨e, he, hq⟩ := h
  unfold dataPhase
  rw [List.takeWhile_append, if_neg]
  intro hlen
  have hall := List.takeWhile_eq_self_iff.mp ((List.takeWhile_prefix _).eq_of_length hlen)
  simpa [hq] using hall e he

namespace CommandLog

variable {c : CommandLog}

theorem PassedComplete.of_noQueue (h : ∀ e ∈ c.events, e.isQueue = false) : c.PassedComplete :=
  fun ⟨e, he, hq⟩ => absurd (h e he) (by rw [hq]; decide)

theorem PassedComplete.append (h : c.PassedComplete) {es : List Event}
    (hq : ∀ e ∈ es, e.isQueue = false) : { c with events := c.events ++ es }.PassedComplete := by
  rintro ⟨e, he, heq⟩ hl
  dsimp only at he hl ⊢
  rcases List.mem_append.mp he with he | he
  · rw [dataPhase_append_of_queued ⟨e, he, heq⟩] at hl ⊢
    exact h ⟨e, he, heq⟩ hl
  · exact absurd (hq e he) (by rw [heq]; decide)

end CommandLog

/-! ## The changes of a trace -/

namespace Trace

variable {t : Trace}

theorem Delivers.emit (h : t.Delivers) {e : Event} (he : e.isQueue = false) :
    (t.emit e).Delivers := by
  refine ⟨fun c hc => ?_, by simpa using h.closed⟩
  cases hcur : t.current with
  | none =>
    simp only [Trace.emit, hcur, commands] at hc
    exact h.complete c (by simpa [commands, hcur] using hc)
  | some c₀ =>
    simp only [Trace.emit, hcur, commands, Option.toList_some, List.mem_append,
      List.mem_singleton] at hc
    rcases hc with hc | rfl
    · exact h.complete c (by simp [commands, hc])
    · exact (h.complete c₀ (by simp [commands, hcur])).append (by simpa using he)

theorem Delivers.idle (h : t.Delivers) (hc : ∀ c ∈ t.current, c.ClosedWell) : t.idle.Delivers := by
  refine ⟨fun c hc' => h.complete c (by simpa [Trace.idle, commands] using hc'), fun c hc' => ?_⟩
  rcases List.mem_append.mp hc' with hc' | hc'
  · exact h.closed c hc'
  · exact hc c (Option.mem_toList.mp hc')

theorem Delivers.accept (h : t.Delivers) (hnone : t.current = none) (cbw : CommandBlockWrapper) :
    (t.accept cbw).Delivers := by
  refine ⟨fun c hc => ?_, fun c hc => h.closed c (by simpa [Trace.accept, hnone] using hc)⟩
  simp only [Trace.accept, commands, Option.toList_some, List.mem_append,
    List.mem_singleton] at hc
  rcases hc with hc | rfl
  · exact h.complete c (List.mem_append.mpr hc)
  · exact .of_noQueue (by simp)

theorem Delivers.emit_queue (h : t.Delivers) {c : CommandLog} (hc : t.current = some c)
    (hno : ∀ e ∈ c.events, e.isQueue = false)
    (hready : latches c.events = [.passed] → DataComplete c.cbw.direction c.leftover c.events)
    (csw : List UInt8) : (t.emit (.queue csw)).Delivers := by
  refine ⟨fun c' hc' => ?_, by simpa using h.closed⟩
  simp only [Trace.emit, hc, commands, Option.toList_some, List.mem_append,
    List.mem_singleton] at hc'
  rcases hc' with hc' | rfl
  · exact h.complete c' (by simp [commands, hc'])
  · intro _ hl
    dsimp only at hl ⊢
    rw [dataPhase_queue hno] at hl ⊢
    exact hready hl

end Trace

/-! ## What the IO buffer holds when the data phase ends -/

theorem BulkOnly.DataBytes.complete {d : BulkOnly} {c : CommandLog}
    (hb : d.DataBytes c d.state) (hv : d.buf.Valid) (hover : d.dataPhaseOver) :
    DataComplete c.cbw.direction c.leftover c.events := by
  have h0 : d.state ≠ .dataTransferNoData → d.buf.content = [] := fun hn => by
    rcases hover.2 with hs | ⟨-, h0⟩
    · exact absurd hs hn
    · rw [← List.length_eq_zero, hv.length_content, h0]
  cases hs : d.state <;> simp only [hs, BulkOnly.DataBytes] at hb
  case dataTransferToHost =>
    rw [hb.1, DataComplete, ← hb.2.2, h0 (by simp [hs]), List.append_nil]
  case dataTransferFromHost =>
    rw [hb.1, DataComplete, ← hb.2.2, h0 (by simp [hs]), List.append_nil]
  case dataTransferNoData =>
    rw [hb.1]
    trivial

/-! ## One call -/

variable {w : World}

theorem delivers_readPacket (hv : w.dev.buf.Valid) (h : w.trace.Delivers) :
    (readPacket w).world.trace.Delivers := by
  rcases (readPacket_spec hv).2.2.2.2.2 with ⟨p, -, -, -, -, htr⟩ | ⟨e, -, -, htr | htr⟩ <;>
    rw [htr]
  exacts [h.emit rfl, h, h.emit rfl]

theorem delivers_writePacket (hv : w.dev.buf.Valid) (hps : 0 < w.dev.packetSize)
    (h : w.trace.Delivers) : (writePacket w).world.trace.Delivers := by
  rcases (writePacket_spec hv hps).2.2.2 with ⟨n, -, -, -, -, htr⟩ | ⟨e, -, -, htr⟩ <;> rw [htr]
  exacts [h.emit rfl, h]

theorem delivers_handleWriteCsw (hv : w.dev.buf.Valid) (hps : 0 < w.dev.packetSize)
    {c : CommandLog} (hc : w.trace.current = some c) (hsend : Sending w.dev c)
    (h : w.trace.Delivers) : (handleWriteCsw w).world.trace.Delivers := by
  obtain ⟨-, -, ⟨e, -, -, htr⟩ | ⟨n, -, -, hnm, hlt, heq⟩⟩ := handleWriteCsw_spec hv hps
  · rw [htr]
    exact h
  have hle : n ≤ w.dev.buf.availableRead := hnm ▸ min_le_right _ _
  rcases Nat.lt_or_eq_of_le hle with hn | hn
  · rw [(hlt hn).2]
    exact h.emit rfl
  · rw [(heq hn).2]
    refine Trace.Delivers.idle (h.emit rfl) fun c' hc' => .inl ?_
    rw [Trace.emit_of_current _ _ hc, Option.mem_def, Option.some.injEq] at hc'
    rw [← hc']
    refine (hsend.sent hv hle).cswSent ?_
    rw [(hv.consume hle).2, hn, ← hv.length_content, List.drop_length]

theorem delivers_endDataTransfer (hi : w.dev.Inv) (hd : w.dev.state.isDataTransfer)
    {st : CommandStatus} (hcs : w.dev.cs = some st) {c : CommandLog}
    (hc : w.trace.current = some c) (hend : Ending w.dev c)
    (hready : st = .passed → DataComplete c.cbw.direction c.leftover c.events)
    (h : w.trace.Delivers) : (endDataTransfer w).world.trace.Delivers := by
  have hq := queueCsw_inv hi hd hcs
  obtain ⟨stalls, hquiet, hcur, hcur', -, hsend⟩ := queueCsw_sending hi hd hcs hc hend
  rw [endDataTransfer_eq hcs]
  refine delivers_handleWriteCsw hq.valid hq.packetSize_pos hcur' hsend ?_
  have hs : (stallOnResidue w).trace.Delivers := by
    rw [stallOnResidue_trace]
    split
    · split
      exacts [h.emit rfl, h.emit rfl, h]
    · exact h
  have hl : latches (c.events ++ stalls) = [st] := by
    rw [latches_append, quiet_latches hquiet, List.append_nil, hend.latched, hcs]
    rfl
  have hq' : (queueCsw (stallOnResidue w)
      (cswBytes w.dev.cbw.tag w.dev.cbw.dataTransferLen st)).trace =
      (stallOnResidue w).trace.emit (.queue (cswBytes w.dev.cbw.tag w.dev.cbw.dataTransferLen st)) := by
    simp [queueCsw]
  rw [hq']
  refine hs.emit_queue hcur (fun e he => ?_) (fun hp => ?_) _
  · rcases List.mem_append.mp he with he | he
    exacts [hend.noQueue e he, (hquiet e he).isQueue]
  · rw [hl, List.singleton_inj] at hp
    exact (hready hp).append_quiet hquiet

theorem delivers_checkEndDataTransfer (hi : w.dev.Inv) (hd : w.dev.state.isDataTransfer)
    {c : CommandLog} (hc : w.trace.current = some c) (hend : Ending w.dev c)
    (hb : w.dev.DataBytes c w.dev.state) (h : w.trace.Delivers) :
    (checkEndDataTransfer w).world.trace.Delivers := by
  rw [checkEndDataTransfer_eq]
  split
  · rename_i hover
    obtain ⟨st, hcs⟩ := Option.isSome_iff_exists.mp hover.1
    exact delivers_endDataTransfer hi hd hcs hc hend (fun _ => hb.complete hi.valid hover) h
  · exact h

/-! ## The transport's steps -/

theorem delivers_handleReadFromHost (hi : w.dev.Inv) (hs : w.dev.state = .dataTransferFromHost)
    (ht : Tracks w.dev w.trace) (h : w.trace.Delivers) :
    (handleReadFromHost w).world.trace.Delivers := by
  have hd : w.dev.state.isDataTransfer := by rw [hs]; rfl
  obtain ⟨c, hc, hserve⟩ := ht.serving hd
  unfold handleReadFromHost
  split
  · obtain ⟨hdev, hv, hl, -, -, hcase⟩ := readPacket_spec hi.valid
    have hr := delivers_readPacket hi.valid h
    generalize readPacket w = r at hdev hv hl hcase hr ⊢
    obtain ⟨w', o⟩ := r
    dsimp only at hdev hv hl hcase hr
    rcases hcase with ⟨p, rfl, -, -, hcont, htr⟩ | ⟨e, rfl, -⟩
    · have hs' : w'.dev.state = .dataTransferFromHost := by rw [hdev]; exact hs
      have hi' : w'.dev.Inv := by
        rw [hdev]
        exact hi.of_dataTransfer rfl hd rfl hl hv (hi.wellFormed hd) (by simp [hs])
      have hps : w'.dev.packetSize = w.dev.packetSize := by rw [hdev]
      have hcs : w'.dev.cs = w.dev.cs := by rw [hdev]
      have hcbw : w'.dev.cbw = w.dev.cbw := by rw [hdev]
      have hserve' := hserve.outPacket hs
        (w'.setResidue (w'.dev.cbw.dataTransferLen - p.length)).dev (hs'.trans hs.symm) hps hcs
        (by simp [hcbw]) (by simp [hcbw]) hcont
      exact delivers_checkEndDataTransfer (hi'.setResidue (.inl hs') _)
        (by simp only [World.setResidue_dev, hs']; rfl) (by simp [htr, Trace.emit_of_current _ _ hc])
        hserve'.ending hserve'.bytes hr
    · exact hr
  · exact delivers_checkEndDataTransfer hi hd hc hserve.ending hserve.bytes h

theorem delivers_handleWriteToHost (hi : w.dev.Inv) (hs : w.dev.state = .dataTransferToHost)
    (ht : Tracks w.dev w.trace) (h : w.trace.Delivers) :
    (handleWriteToHost w).world.trace.Delivers := by
  have hd : w.dev.state.isDataTransfer := by rw [hs]; rfl
  obtain ⟨c, hc, hserve⟩ := ht.serving hd
  unfold handleWriteToHost
  dsimp only
  split
  · rename_i hguard
    split
    · obtain ⟨-, -, -, hcase⟩ := writePacket_spec hi.valid hi.packetSize_pos
      have hw := delivers_writePacket hi.valid hi.packetSize_pos h
      generalize writePacket w = r at hcase hw ⊢
      obtain ⟨w', o⟩ := r
      dsimp only at hcase hw
      rcases hcase with ⟨n, rfl, -, hnm, hdev, htr⟩ | ⟨e, rfl, -⟩
      · have hle : n ≤ w.dev.buf.availableRead := hnm ▸ min_le_right _ _
        have hi' : w'.dev.Inv := hdev ▸ hi.of_dataTransfer rfl hd rfl rfl
          (hi.valid.consume hle).1 (hi.wellFormed hd) (by simp [hs])
        have hb : (w'.setResidue (w'.dev.cbw.dataTransferLen - n)).dev.buf.content =
            w.dev.buf.content.drop n := by simp [hdev, (hi.valid.consume hle).2]
        obtain ⟨hend, -⟩ := hserve.inPacket hs hi.valid hle (BulkOnly.short_of_guard hguard hnm)
          (w'.setResidue (w'.dev.cbw.dataTransferLen - n)).dev
          (by simp [hdev]) (by simp [hdev]) (by simp [hdev]) (by simp [hdev]) (by simp [hdev]) hb
        exact delivers_checkEndDataTransfer (hi'.setResidue (.inr (by rw [hdev]; exact hs)) _)
          (by simp [hdev, hs]; rfl) (by simp [htr, Trace.emit_of_current _ _ hc]) hend
          (hserve.dataBytes_inPacket hs _ (by simp [hdev]) hb) hw
      · exact hw
    · exact delivers_checkEndDataTransfer hi hd hc hserve.ending hserve.bytes h
  · exact h

theorem delivers_reset (h : w.trace.Delivers) : (reset w).trace.Delivers := by
  simp only [reset, enterState_trace, unstallOutEp_trace, unstallInEp_trace, if_pos]
  refine ((h.emit (by rfl)).emit (by rfl)).idle fun c hc => .inr ?_
  simp only [Trace.emit_current, Option.map_map, Option.mem_def, Option.map_eq_some'] at hc
  obtain ⟨c₀, -, rfl⟩ := hc
  exact ⟨c₀.events, by simp⟩

theorem delivers_handleReadCbw (hi : w.dev.Inv) (hnone : w.trace.current = none)
    (h : w.trace.Delivers) : (handleReadCbw w).world.trace.Delivers := by
  have hr := delivers_readPacket hi.valid h
  have hnone' : (readPacket w).world.trace.current = none := by
    rcases (readPacket_spec hi.valid).2.2.2.2.2 with ⟨p, -, -, -, -, htr⟩ | ⟨e, -, -, htr | htr⟩ <;>
      simp [htr, hnone]
  unfold handleReadCbw
  generalize readPacket w = r at hr hnone' ⊢
  obtain ⟨w', _ | _ | _⟩ := r
  · simp only [Call.andThen_ok]
    have hp : (tryParseCbw w').1.trace.Delivers ∧ (tryParseCbw w').1.trace.current = none := by
      unfold tryParseCbw
      split
      exact ⟨hr, hnone'⟩
    split
    · generalize tryParseCbw w' = p at hp
      obtain ⟨w'', _ | cbw⟩ := p
      · refine delivers_reset ?_
        simp only [stallEps, stallOutEp_trace, stallInEp_trace]
        exact (hp.1.emit (by rfl)).emit (by rfl)
      · simpa using hp.1.accept hp.2 cbw
    · simpa using hr
  all_goals exact hr

theorem delivers_read (hi : w.dev.Inv) (ht : Tracks w.dev w.trace) (h : w.trace.Delivers) :
    (read w).world.trace.Delivers := by
  unfold read
  split
  · exact delivers_handleReadCbw hi (ht.pending (.inl ‹_›)).1 h
  · exact delivers_handleReadCbw hi (ht.pending (.inr ‹_›)).1 h
  · exact delivers_handleReadFromHost hi ‹_› ht h
  · exact h

theorem delivers_write (hi : w.dev.Inv) (ht : Tracks w.dev w.trace) (h : w.trace.Delivers) :
    (write w).world.trace.Delivers := by
  unfold write
  split
  · obtain ⟨c, hc, hsend⟩ : ∃ c, w.trace.current = some c ∧ Sending w.dev c := by
      have hcur := ht.current
      rwa [‹w.dev.state = _›] at hcur
    exact delivers_handleWriteCsw hi.valid hi.packetSize_pos hc hsend h
  · exact delivers_handleWriteToHost hi ‹_› ht h
  · have hd : w.dev.state.isDataTransfer := by rw [‹w.dev.state = _›]; rfl
    obtain ⟨c, hc, hserve⟩ := ht.serving hd
    exact delivers_checkEndDataTransfer hi hd hc hserve.ending hserve.bytes h
  · exact h

theorem delivers_setStatus (hi : w.dev.Inv) (hd : w.dev.state.isDataTransfer)
    (hnone : w.dev.cs = none) (ht : Tracks w.dev w.trace) (h : w.trace.Delivers)
    (status : CommandStatus) : (setStatus w status).world.trace.Delivers := by
  obtain ⟨c, hc, hserve⟩ := ht.serving hd
  have hi₁ : (({ w with dev := { w.dev with cs := some status } } : World).emit
      (.latch status)).dev.Inv :=
    hi.of_dataTransfer rfl hd rfl rfl hi.valid (hi.wellFormed hd) hi.noData
  have hc₁ : (({ w with dev := { w.dev with cs := some status } } : World).emit
      (.latch status)).trace.current = some { c with events := c.events ++ [.latch status] } := by
    simp [hc]
  have hend₁ := (hserve.latch hnone { w.dev with cs := some status } rfl rfl rfl rfl rfl).ending
  rw [setStatus_world]
  split
  · rename_i hfail
    exact delivers_endDataTransfer hi₁ hd rfl hc₁ hend₁
      (fun hp => by rcases hfail with hf | hf <;> rw [hp] at hf <;> cases hf) (h.emit rfl)
  · exact h.emit rfl

theorem delivers_readData (hi : w.dev.Inv) (h : w.trace.Delivers) (dst : List UInt8) :
    (readData w dst).world.trace.Delivers := by
  by_cases hs : w.dev.state = .dataTransferFromHost
  · obtain ⟨hle, hlt⟩ := readData_spec hi.valid hs dst
    rcases Nat.lt_or_ge dst.length w.dev.buf.availableRead with hl | hl
    · rw [hlt hl]
      exact h
    · rw [hle hl]
      exact h.emit rfl
  · simpa [readData, hs] using h

theorem delivers_writeData (h : w.trace.Delivers) (src : List UInt8) :
    (writeData w src).world.trace.Delivers := by
  by_cases hs : w.dev.state = .dataTransferToHost
  · cases hcs : w.dev.cs with
    | some st => simpa [writeData, hs, BulkOnly.statusPresent, hcs] using h
    | none =>
      rw [writeData_eq hs hcs]
      exact h.emit rfl
  · simpa [writeData, hs] using h

theorem delivers_tryWriteDataAll (hi : w.dev.Inv) (h : w.trace.Delivers) (src : List UInt8) :
    (tryWriteDataAll w src).world.trace.Delivers := by
  by_cases hs : w.dev.state = .dataTransferToHost
  · cases hcs : w.dev.cs with
    | some st => simpa [tryWriteDataAll, hs, BulkOnly.statusPresent, hcs] using h
    | none =>
      obtain ⟨hover, hroom⟩ := tryWriteDataAll_spec hi.valid hs hcs src
      rcases Nat.lt_or_ge (w.dev.buf.inner.length - w.dev.buf.availableRead) src.length with
        hlt | hge
      · rw [hover hlt]
        exact h
      · obtain ⟨b, heq, -⟩ := hroom hge
        rw [heq]
        exact h.emit rfl
  · simpa [tryWriteDataAll, hs] using h

/-! ## Runs -/

theorem Action.call_delivers (hi : w.dev.Inv) (ht : Tracks w.dev w.trace)
    (h : w.trace.Delivers) (a : Action) (ha : a.allowed w.dev) :
    (a.call w).world.trace.Delivers := by
  cases a with
  | read => exact delivers_read hi ht h
  | write => exact delivers_write hi ht h
  | readData dst => exact delivers_readData hi h dst
  | writeData src => exact delivers_writeData h src
  | tryWriteDataAll src => exact delivers_tryWriteDataAll hi h src
  | setStatus status =>
    simp only [Action.allowed, Bool.and_eq_true, Option.isNone_iff_eq_none] at ha
    exact delivers_setStatus hi ha.1 ha.2 ht h status
  | reset => exact delivers_reset h

theorem delivers_of_reachable (h : Reachable w) : w.trace.Delivers := by
  induction h with
  | init bus hp hnew => exact ⟨fun c hc => by simp [Trace.empty, Trace.commands] at hc,
      fun c hc => by simp [Trace.empty] at hc⟩
  | step a hr ha _ ih =>
    exact Action.call_delivers (inv_of_reachable hr) (tracks_of_reachable hr) ih a ha

theorem passed_command_moves_all_data (h : Reachable w) {c : CommandLog}
    (hc : c ∈ w.trace.commands) {csw : List UInt8} {post : List Event}
    (hq : c.events = dataPhase c.events ++ .queue csw :: post)
    (hp : latches (dataPhase c.events) = [.passed]) :
    DataComplete c.cbw.direction c.leftover (dataPhase c.events) :=
  (delivers_of_reachable h).complete c hc ⟨.queue csw, by rw [hq]; simp, rfl⟩ hp

def readFourPassedWorld : World :=
  (Action.call .write (Action.call (.setStatus .passed) readFourWorld).world).world

theorem readFourPassedWorld_moves_all_data :
    Reachable readFourPassedWorld ∧
      readFourPassedWorld.trace.commands =
        [⟨⟨8, 4, .«in», 0, 10, [0x28, 0, 0, 0, 0, 0, 0, 0, 1, 0, 0, 0, 0, 0, 0, 0]⟩,
          [.outPacket (hostCbwBytes 8 4 0x80 0 [0x28, 0, 0, 0, 0, 0, 0, 0, 1, 0])],
          [.supplied [1, 2, 3, 4], .inPacket [1, 2, 3, 4], .latch .passed,
            .queue (cswBytes 8 0 .passed)]⟩] ∧
      DataComplete .«in» [] [.supplied [1, 2, 3, 4], .inPacket [1, 2, 3, 4], .latch .passed] :=
  have h : Reachable readFourPassedWorld :=
    (((((Reachable.init _ (by decide : 0 < 32)
      (rfl : BulkOnly.new 32 0 (List.replicate 32 0) = .ok readFourStart.dev) rfl rfl).step
        .read rfl (by decide)).step (.writeData [1, 2, 3, 4]) rfl (by decide)).step .write rfl
          (by decide)).step (.setStatus .passed) (by decide) (by decide)).step .write rfl
            (by decide)
  have hc : readFourPassedWorld.trace.commands =
      [⟨⟨8, 4, .«in», 0, 10, [0x28, 0, 0, 0, 0, 0, 0, 0, 1, 0, 0, 0, 0, 0, 0, 0]⟩,
        [.outPacket (hostCbwBytes 8 4 0x80 0 [0x28, 0, 0, 0, 0, 0, 0, 0, 1, 0])],
        [.supplied [1, 2, 3, 4], .inPacket [1, 2, 3, 4], .latch .passed,
          .queue (cswBytes 8 0 .passed)]⟩] := by decide
  ⟨h, hc, passed_command_moves_all_data h (hc ▸ List.mem_singleton_self _)
    (show _ = _ ++ Event.queue (cswBytes 8 0 .passed) :: [] by decide) (by decide)⟩

theorem closed_command_sent_csw_or_reset (h : Reachable w) :
    ∀ c ∈ w.trace.done, c.CswSent ∨ ∃ es, c.events = es ++ [.unstall .inEp, .unstall .outEp] :=
  (delivers_of_reachable h).closed

def testUnitReadyClosedWorld : World :=
  (Action.call .write (Action.call (.setStatus .passed) (Action.call .read
    ⟨⟨32, Buffer.new (List.replicate 32 0), .idle, .default, none, 0⟩,
      ⟨[.accept], [.packet (hostCbwBytes 7 0 0 0 [0, 0, 0, 0, 0, 0])], false, false⟩,
      .empty⟩).world).world).world

theorem testUnitReadyClosedWorld_sent_csw :
    Reachable testUnitReadyClosedWorld ∧
      testUnitReadyClosedWorld.trace.done.map CommandLog.events =
        [[.latch .passed, .queue (cswBytes 7 0 .passed), .inPacket (cswBytes 7 0 .passed)]] ∧
      ∀ c ∈ testUnitReadyClosedWorld.trace.done,
        c.CswSent ∨ ∃ es, c.events = es ++ [.unstall .inEp, .unstall .outEp] :=
  have h : Reachable testUnitReadyClosedWorld :=
    (((Reachable.init _ (by decide : 0 < 32)
      (rfl : BulkOnly.new 32 0 (List.replicate 32 0) = .ok ⟨32, Buffer.new (List.replicate 32 0),
        .idle, .default, none, 0⟩) rfl rfl).step .read rfl (by decide)).step (.setStatus .passed)
          (by decide) (by decide)).step .write rfl (by decide)
  ⟨h, by decide, closed_command_sent_csw_or_reset h⟩

end UsbdStorage
