import UsbdStorage.Transport.Tracking
import UsbdStorage.Subclass.Ufi

/-!
# The poll loop

`Scsi::poll` and `Ufi::poll` drive the transport: `read` and `write`, then, when the
transport serves a command whose status is not latched, the application's callback, called
again after each `write` that answers `FullPacketExpected`, and last `write` and `read`
once more.  The two differ only in `parse_cb`, so both are `pollStep` over a parser.  The
callback is the application's: in a run it makes any calls of the `Command` it is given and
may end with `pass`, `fail` or `fail_phase`.

A run of either loop is a run of the transport (`PollReachable.reachable`), so what
`Tracking` proves of transport runs holds of it, and the callback runs only in a
data-transfer state with no status latched.
-/

namespace UsbdStorage

variable {w : World}

/-! ## What `poll` reads of the transport's answers -/

theorem handleWriteCsw_ne_error (hi : w.dev.Inv) (e : BulkOnlyError) :
    (handleWriteCsw w).outcome ≠ .err (.error e) := by
  obtain ⟨-, -, ⟨u, h, -⟩ | ⟨n, h, -⟩⟩ := handleWriteCsw_spec hi.valid hi.packetSize_pos <;>
    simp [h]

theorem endDataTransfer_ne_error (hi : w.dev.Inv) (hd : w.dev.state.isDataTransfer)
    (e : BulkOnlyError) : (endDataTransfer w).outcome ≠ .err (.error e) := by
  cases hcs : w.dev.cs with
  | none => simp [endDataTransfer, BulkOnly.buildCsw, hcs]
  | some st =>
    rw [endDataTransfer_eq hcs]
    exact handleWriteCsw_ne_error (queueCsw_inv hi hd hcs) e

theorem checkEndDataTransfer_ne_error (hi : w.dev.Inv) (hd : w.dev.state.isDataTransfer)
    (e : BulkOnlyError) : (checkEndDataTransfer w).outcome ≠ .err (.error e) := by
  rw [checkEndDataTransfer_eq]
  split
  · exact endDataTransfer_ne_error hi hd e
  · simp

theorem handleWriteToHost_fullPacketExpected (hi : w.dev.Inv)
    (hs : w.dev.state = .dataTransferToHost)
    (h : (handleWriteToHost w).outcome = .err (.error .fullPacketExpected)) :
    handleWriteToHost w = ⟨w, .err (.error .fullPacketExpected)⟩ ∧
      w.dev.buf.availableRead < w.dev.packetSize ∧ w.dev.cs = none := by
  have hd : w.dev.state.isDataTransfer := by rw [hs]; rfl
  unfold handleWriteToHost at h ⊢
  dsimp only at h ⊢
  split at h
  · exfalso
    split at h
    · obtain ⟨-, -, -, hcase⟩ := writePacket_spec hi.valid hi.packetSize_pos
      generalize writePacket w = c at hcase h
      obtain ⟨w', o⟩ := c
      dsimp only at hcase
      rcases hcase with ⟨n, rfl, -, hnm, hdev, -⟩ | ⟨u, rfl, -, -⟩
      · have hle : n ≤ w.dev.buf.availableRead := hnm ▸ min_le_right _ _
        have hi' : w'.dev.Inv := hdev ▸ hi.of_dataTransfer rfl hd rfl rfl
          (hi.valid.consume hle).1 (hi.wellFormed hd) (by simp [hs])
        exact checkEndDataTransfer_ne_error (hi'.setResidue (.inr (by rw [hdev]; exact hs)) _)
          (by simp [hdev, hs]; rfl) _ h
      · simp at h
    · exact checkEndDataTransfer_ne_error hi hd _ h
  · rename_i hguard
    rw [if_neg hguard]
    cases hcs : w.dev.cs with
    | none =>
      refine ⟨rfl, ?_, rfl⟩
      simp only [Bool.or_eq_true, decide_eq_true_eq, Bool.not_eq_true', not_or] at hguard
      omega
    | some st => simp [BulkOnly.statusPresent, hcs] at hguard

theorem write_fullPacketExpected (hi : w.dev.Inv)
    (h : (write w).outcome = .err (.error .fullPacketExpected)) :
    (write w).world = w ∧ w.dev.state = .dataTransferToHost ∧ w.dev.cs = none := by
  unfold write at h ⊢
  split at h
  · exact absurd h (handleWriteCsw_ne_error hi _)
  · rename_i hs
    obtain ⟨heq, -, hcs⟩ := handleWriteToHost_fullPacketExpected hi hs h
    rw [heq]
    exact ⟨rfl, hs, hcs⟩
  · exact absurd h (checkEndDataTransfer_ne_error hi (by rw [‹w.dev.state = _›]; rfl) _)
  · simp at h

theorem BulkOnly.Inv.getCommand_callback {d : BulkOnly} (hi : d.Inv) {rawCb : CommandBlock}
    (hc : d.getCommand = .ok (some rawCb)) (hs : d.hasStatus = false) :
    d.state.isDataTransfer ∧ d.cs = none := by
  have hcs : d.cs = none := by
    simpa [BulkOnly.hasStatus, BulkOnly.statusPresent] using hs
  refine ⟨?_, hcs⟩
  have hst := hi.state
  unfold BulkOnly.getCommand at hc
  cases hstate : d.state <;> simp only [hstate] at hc hst <;>
    first | rfl | simp at hc | (obtain ⟨-, st, hst', -⟩ := hst; simp [hcs] at hst')

theorem readData_state (dst : List UInt8) :
    (readData w dst).world.dev.state = w.dev.state ∧ (readData w dst).world.dev.cs = w.dev.cs := by
  unfold readData
  split
  · exact ⟨rfl, rfl⟩
  · split <;> exact ⟨rfl, rfl⟩

theorem writeData_state (src : List UInt8) :
    (writeData w src).world.dev.state = w.dev.state ∧
      (writeData w src).world.dev.cs = w.dev.cs := by
  unfold writeData
  split
  · exact ⟨rfl, rfl⟩
  · split <;> exact ⟨rfl, rfl⟩

theorem tryWriteDataAll_state (src : List UInt8) :
    (tryWriteDataAll w src).world.dev.state = w.dev.state ∧
      (tryWriteDataAll w src).world.dev.cs = w.dev.cs := by
  unfold tryWriteDataAll
  split
  · exact ⟨rfl, rfl⟩
  · split
    · split <;> exact ⟨rfl, rfl⟩
    · exact ⟨rfl, rfl⟩

/-! ## The loop -/

/-- Where a run of the poll loop stands: outside `poll`, inside an invocation of the
callback for a command of kind `kind` to LUN `lun`, or stopped by a panic. -/
inductive Phase (κ : Type) where
  | outside
  | callback (kind : κ) (lun : Nat)
  | panicked
  deriving DecidableEq, Repr

structure PollState (κ : Type) where
  world : World
  phase : Phase κ
  deriving DecidableEq, Repr

/-- What happens next in a run: the application calls `poll`; inside the callback it calls a
method of its `Command`, or returns, after `pass`, `fail` or `fail_phase` (`set_status` with
`Passed`, `Failed`, `PhaseError`) or none of them; between polls the USB stack resets the
class (`UsbClass::reset`). -/
inductive PollAction where
  | poll
  | readData (dst : List UInt8)
  | writeData (src : List UInt8)
  | tryWriteDataAll (src : List UInt8)
  | finish (status : Option CommandStatus)
  | reset
  deriving DecidableEq, Repr

variable {κ : Type}

/-- `map_ignore(call)?`: a panic stops the run, a USB error other than `WouldBlock` returns
from `poll`, anything else goes on. -/
def mapIgnore {α : Type} (c : Call α) (k : World → PollState κ) : PollState κ :=
  match c.outcome with
  | .panic => ⟨c.world, .panicked⟩
  | .err (.usb e) => if e = .wouldBlock then k c.world else ⟨c.world, .outside⟩
  | _ => k c.world

theorem mapIgnore_ok {α : Type} (w : World) (a : α) (k : World → PollState κ) :
    mapIgnore ⟨w, .ok a⟩ k = k w := rfl

/-- The top of `poll`: `read`, `write`, and the callback when `get_command` has a command and
no status is latched; `parse_cb` panics on a block too short for its operation code. -/
def pollEntry (parseCb : List UInt8 → Option κ) (w : World) : PollState κ :=
  mapIgnore (read w) fun w => mapIgnore (write w) fun w =>
    match w.dev.getCommand with
    | .ok (some rawCb) =>
        if !w.dev.hasStatus then
          match parseCb rawCb.bytes with
          | some kind => ⟨w, .callback kind rawCb.lun⟩
          | none => ⟨w, .panicked⟩
        else ⟨w, .outside⟩
    | .panic => ⟨w, .panicked⟩
    | _ => ⟨w, .outside⟩

/-- The loop body after the callback returns: `write`, the callback again on
`FullPacketExpected`, else `read`, and `poll` returns. -/
def afterCallback (kind : κ) (lun : Nat) (w : World) : PollState κ :=
  match write w with
  | ⟨w, .err (.error .fullPacketExpected)⟩ => ⟨w, .callback kind lun⟩
  | c => mapIgnore c fun w => mapIgnore (read w) fun w => ⟨w, .outside⟩

def inCallback {α : Type} (kind : κ) (lun : Nat) (c : Call α) : PollState κ :=
  match c.outcome with
  | .panic => ⟨c.world, .panicked⟩
  | _ => ⟨c.world, .callback kind lun⟩

/-- The callback returns after `pass`, `fail` or `fail_phase`, whose `set_status` panics
when the flush of the CSW fails. -/
def finishWith (kind : κ) (lun : Nat) (c : Call Unit) : PollState κ :=
  match c.outcome with
  | .panic => ⟨c.world, .panicked⟩
  | _ => afterCallback kind lun c.world

def pollStep (parseCb : List UInt8 → Option κ) : PollAction → PollState κ → PollState κ
  | .poll, ⟨w, .outside⟩ => pollEntry parseCb w
  | .reset, ⟨w, .outside⟩ => ⟨reset w, .outside⟩
  | .readData dst, ⟨w, .callback kind lun⟩ => inCallback kind lun (readData w dst)
  | .writeData src, ⟨w, .callback kind lun⟩ => inCallback kind lun (writeData w src)
  | .tryWriteDataAll src, ⟨w, .callback kind lun⟩ => inCallback kind lun (tryWriteDataAll w src)
  | .finish none, ⟨w, .callback kind lun⟩ => afterCallback kind lun w
  | .finish (some status), ⟨w, .callback kind lun⟩ => finishWith kind lun (setStatus w status)
  | _, s => s

theorem pollStep_panicked (parseCb : List UInt8 → Option κ) (a : PollAction) (w : World) :
    pollStep parseCb a ⟨w, .panicked⟩ = ⟨w, .panicked⟩ := by
  rcases a with _ | _ | _ | _ | (_ | _) | _ <;> rfl

/-- `Scsi::poll`. -/
def Scsi.poll : PollAction → PollState ScsiCommand → PollState ScsiCommand :=
  pollStep Scsi.parseCb

/-- `Ufi::poll`. -/
def Ufi.poll : PollAction → PollState UfiCommand → PollState UfiCommand :=
  pollStep Ufi.parseCb

/-- The states a run of the poll loop reaches, from a transport `new` accepted
(`Scsi::new` passes the application's `max_lun`, `Ufi::new` passes 0). -/
inductive PollReachable (parseCb : List UInt8 → Option κ) : PollState κ → Prop where
  | init {packetSize maxLun : Nat} {buf : List UInt8} {d : BulkOnly} (bus : Bus) :
      0 < packetSize → BulkOnly.new packetSize maxLun buf = .ok d →
      bus.inStalled = false → bus.outStalled = false →
      PollReachable parseCb ⟨⟨d, bus, .empty⟩, .outside⟩
  | step {s : PollState κ} (a : PollAction) :
      PollReachable parseCb s → PollReachable parseCb (pollStep parseCb a s)

/-! ## Runs of the loop are runs of the transport -/

def CallbackReady (w : World) : Prop := w.dev.state.isDataTransfer ∧ w.dev.cs = none

def PollState.Sound (s : PollState κ) : Prop :=
  s.phase ≠ .panicked →
    Reachable s.world ∧ ∀ kind lun, s.phase = .callback kind lun → CallbackReady s.world

theorem sound_panicked (w : World) : PollState.Sound (⟨w, .panicked⟩ : PollState κ) :=
  fun h => absurd rfl h

theorem sound_outside (h : Reachable w) : PollState.Sound (⟨w, .outside⟩ : PollState κ) :=
  fun _ => ⟨h, fun _ _ h => by cases h⟩

theorem sound_callback (h : Reachable w) (hr : CallbackReady w) (kind : κ) (lun : Nat) :
    PollState.Sound (⟨w, .callback kind lun⟩ : PollState κ) :=
  fun _ => ⟨h, fun _ _ _ => hr⟩

theorem mapIgnore_sound {α : Type} {c : Call α} (hc : c.outcome ≠ .panic → Reachable c.world)
    {k : World → PollState κ} (hk : Reachable c.world → (k c.world).Sound) :
    (mapIgnore c k).Sound := by
  unfold mapIgnore
  split
  · exact sound_panicked _
  · rename_i heq
    split
    · exact hk (hc (by simp [heq]))
    · exact sound_outside (hc (by simp [heq]))
  · exact hk (hc ‹_›)

theorem pollEntry_sound (parseCb : List UInt8 → Option κ) (h : Reachable w) :
    (pollEntry parseCb w).Sound := by
  refine mapIgnore_sound (fun hp => h.step .read rfl hp) fun h₁ =>
    mapIgnore_sound (fun hp => h₁.step .write rfl hp) fun h₂ => ?_
  generalize (write (read w).world).world = w₂ at h₂ ⊢
  split
  · rename_i rawCb hc
    split
    · rename_i hs
      split
      · exact sound_callback h₂ ((inv_of_reachable h₂).getCommand_callback hc
          (by simpa using hs)) _ _
      · exact sound_panicked _
    · exact sound_outside h₂
  · exact sound_panicked _
  · exact sound_outside h₂

theorem afterCallback_sound (h : Reachable w) (kind : κ) (lun : Nat) :
    (afterCallback kind lun w).Sound := by
  unfold afterCallback
  split
  · rename_i w' heq
    have hfull := write_fullPacketExpected (inv_of_reachable h) (by rw [heq])
    rw [heq] at hfull
    obtain ⟨rfl, hs, hcs⟩ := hfull
    exact sound_callback h ⟨by rw [hs]; rfl, hcs⟩ _ _
  · exact mapIgnore_sound (fun hp => h.step .write rfl hp) fun h₁ =>
      mapIgnore_sound (fun hp => h₁.step .read rfl hp) fun h₂ => sound_outside h₂

theorem inCallback_sound {α : Type} {c : Call α} (hc : c.outcome ≠ .panic → Reachable c.world)
    (hr : CallbackReady c.world) (kind : κ) (lun : Nat) : (inCallback kind lun c).Sound := by
  unfold inCallback
  split
  · exact sound_panicked _
  · exact sound_callback (hc ‹_›) hr _ _

theorem finishWith_sound {c : Call Unit} (hc : c.outcome ≠ .panic → Reachable c.world)
    (kind : κ) (lun : Nat) : (finishWith kind lun c).Sound := by
  unfold finishWith
  split
  · exact sound_panicked _
  · exact afterCallback_sound (hc ‹_›) kind lun

theorem erase_ne_panic {α : Type} {o : Outcome α} (h : o ≠ .panic) : o.erase ≠ .panic := by
  cases o <;> simp_all [Outcome.erase]

theorem pollStep_sound (parseCb : List UInt8 → Option κ) {s : PollState κ} (h : s.Sound)
    (a : PollAction) : (pollStep parseCb a s).Sound := by
  obtain ⟨w, phase⟩ := s
  cases phase with
  | panicked => rw [pollStep_panicked]; exact h
  | outside =>
    have hr := (h (by simp)).1
    rcases a with _ | _ | _ | _ | (_ | _) | _
    case poll => exact pollEntry_sound parseCb hr
    case reset => exact sound_outside (hr.step .reset rfl (by simp [Action.call]))
    all_goals exact h
  | callback kind lun =>
    obtain ⟨hr, hready⟩ := h (by simp)
    have hready : CallbackReady w := hready kind lun rfl
    cases a with
    | readData dst =>
      obtain ⟨hs, hcs⟩ := readData_state (w := w) dst
      exact inCallback_sound (c := readData w dst)
        (fun hp => hr.step (.readData dst) rfl (erase_ne_panic hp))
        ⟨hs ▸ hready.1, hcs ▸ hready.2⟩ _ _
    | writeData src =>
      obtain ⟨hs, hcs⟩ := writeData_state (w := w) src
      exact inCallback_sound (c := writeData w src)
        (fun hp => hr.step (.writeData src) rfl (erase_ne_panic hp))
        ⟨hs ▸ hready.1, hcs ▸ hready.2⟩ _ _
    | tryWriteDataAll src =>
      obtain ⟨hs, hcs⟩ := tryWriteDataAll_state (w := w) src
      exact inCallback_sound (c := tryWriteDataAll w src)
        (fun hp => hr.step (.tryWriteDataAll src) rfl hp) ⟨hs ▸ hready.1, hcs ▸ hready.2⟩ _ _
    | finish status =>
      cases status with
      | none => exact afterCallback_sound hr kind lun
      | some status =>
        exact finishWith_sound (c := setStatus w status) (fun hp => hr.step (.setStatus status)
          (by simp [Action.allowed, hready.1, hready.2]) hp) kind lun
    | poll => exact h
    | reset => exact h

theorem PollReachable.sound {parseCb : List UInt8 → Option κ} {s : PollState κ}
    (h : PollReachable parseCb s) : s.Sound := by
  induction h with
  | init bus hp hnew hin hout => exact sound_outside (.init bus hp hnew hin hout)
  | step a _ ih => exact pollStep_sound parseCb ih a

theorem PollReachable.reachable {parseCb : List UInt8 → Option κ} {s : PollState κ}
    (h : PollReachable parseCb s) (hp : s.phase ≠ .panicked) : Reachable s.world :=
  (h.sound hp).1

/-! ## Replaying a run -/

def pollRun (parseCb : List UInt8 → Option κ) (acts : List PollAction) (s : PollState κ) :
    PollState κ :=
  acts.foldl (fun s a => pollStep parseCb a s) s

theorem PollReachable.run {parseCb : List UInt8 → Option κ} {s : PollState κ}
    (h : PollReachable parseCb s) (acts : List PollAction) :
    PollReachable parseCb (pollRun parseCb acts s) := by
  induction acts generalizing s with
  | nil => exact h
  | cons a acts ih => exact ih (h.step a)

theorem pollRun_panicked (parseCb : List UInt8 → Option κ) (acts : List PollAction) (w : World) :
    pollRun parseCb acts ⟨w, .panicked⟩ = ⟨w, .panicked⟩ := by
  induction acts with
  | nil => rfl
  | cons a acts ih => rw [pollRun, List.foldl_cons, pollStep_panicked]; exact ih

/-- A transport `new` built with `max_lun = 0` over a zeroed IO buffer, before the first
`poll`: the IN endpoint answers `ins` and the host sends `outs`. -/
def startState (packetSize bufLen : Nat) (ins : List InAnswer) (outs : List OutAnswer) :
    PollState κ :=
  ⟨⟨⟨packetSize, Buffer.new (List.replicate bufLen 0), .idle, .default, none, 0⟩,
    ⟨ins, outs, false, false⟩, .empty⟩, .outside⟩

theorem startState_reachable (parseCb : List UInt8 → Option κ) {packetSize bufLen : Nat}
    (hp : 0 < packetSize) (hc : cbwLen ≤ bufLen) (hb : packetSize ≤ bufLen)
    (ins : List InAnswer) (outs : List OutAnswer) :
    PollReachable parseCb (startState packetSize bufLen ins outs) := by
  refine @PollReachable.init κ parseCb packetSize 0 (List.replicate bufLen 0) _ _ hp ?_ rfl rfl
  rw [BulkOnly.new, if_neg (by decide), if_neg (by simp only [List.length_replicate]; omega)]

def read10Block : List UInt8 := [0x28, 0, 0, 0, 0, 0, 0, 0, 1, 0]

def write10Block : List UInt8 := [0x2A, 0, 0, 0, 0, 0, 0, 0, 1, 0]

def testUnitReadyBlock : List UInt8 := [0, 0, 0, 0, 0, 0]

/-! ## The callback -/

theorem callback_in_data_phase {parseCb : List UInt8 → Option κ} {s : PollState κ}
    (h : PollReachable parseCb s) :
    (∀ kind lun, s.phase = .callback kind lun →
      s.world.dev.state.isDataTransfer = true ∧ s.world.dev.cs = none) ∧
    (s.phase ≠ .panicked → ∀ c ∈ s.world.trace.commands, (latches c.events).length ≤ 1) :=
  ⟨fun kind lun hc => (h.sound (by simp [hc])).2 kind lun hc,
    fun hp c hc => (commands_correct (h.reachable hp) c hc).2.2.2⟩

def testUnitReadyRun : PollState ScsiCommand :=
  pollRun Scsi.parseCb [.poll]
    (startState 32 64 [] [.packet (hostCbwBytes 1 0 0x00 0 testUnitReadyBlock)])

theorem testUnitReadyRun_callback_ready :
    PollReachable Scsi.parseCb testUnitReadyRun ∧
      testUnitReadyRun.phase = .callback .testUnitReady 0 ∧
      ((∀ kind lun, testUnitReadyRun.phase = .callback kind lun →
        testUnitReadyRun.world.dev.state.isDataTransfer = true ∧
          testUnitReadyRun.world.dev.cs = none) ∧
      (testUnitReadyRun.phase ≠ .panicked →
        ∀ c ∈ testUnitReadyRun.world.trace.commands, (latches c.events).length ≤ 1)) :=
  have h : PollReachable Scsi.parseCb testUnitReadyRun :=
    (startState_reachable _ (by decide) (by decide) (by decide) _ _).run _
  ⟨h, by decide, callback_in_data_phase h⟩

end UsbdStorage
