import UsbdStorage.Subclass.Poll

/-!
# The inner loop of `poll` ends

Inside `poll`, the application's callback is called again each time `write` answers
`FullPacketExpected`.  That answer comes only in `DataTransferToHost`, with no status
latched and less than a packet buffered, and it leaves the transport as it was.  So if
every invocation latches a status or buffers at least one more byte, the bytes buffered
grow at each re-entry and stay below a packet: after at most `packet_size` invocations the
loop is left (`inner_loop_bounded`).  Left, not returned from: a status the callback
latches with `fail` can panic `set_status`, and then `poll` does not return
(`busyFailRun_panics`).

An invocation is the calls the callback makes on its `Command`, then the way it returns;
`innerLoop` invokes a given sequence of them as long as the loop asks for more.
-/

namespace UsbdStorage

variable {κ : Type} {w : World}

/-! ## What the callback can do -/

inductive CommandCall where
  | readData (dst : List UInt8)
  | writeData (src : List UInt8)
  | tryWriteDataAll (src : List UInt8)
  deriving DecidableEq, Repr

def CommandCall.action : CommandCall → PollAction
  | .readData dst => .readData dst
  | .writeData src => .writeData src
  | .tryWriteDataAll src => .tryWriteDataAll src

/-- One invocation of the callback: its calls, then `pass`, `fail`, `fail_phase` or none. -/
structure Invocation where
  calls : List CommandCall
  status : Option CommandStatus
  deriving DecidableEq, Repr

def invoke (parseCb : List UInt8 → Option κ) (i : Invocation) (s : PollState κ) : PollState κ :=
  pollRun parseCb (i.calls.map CommandCall.action ++ [.finish i.status]) s

/-- The loop from `s`, for at most `n` invocations: `invs k` is the `k`-th. -/
def innerLoop (parseCb : List UInt8 → Option κ) (invs : Nat → Invocation) :
    Nat → PollState κ → PollState κ
  | 0, s => s
  | n + 1, s =>
      let t := innerLoop parseCb invs n s
      match t.phase with
      | .callback _ _ => invoke parseCb (invs n) t
      | _ => t

/-- The progress condition on an invocation from `s`: it latches a status, or its calls
leave more bytes in the IO buffer (only `write_data` and `try_write_data_all` add any). -/
def MakesProgress (parseCb : List UInt8 → Option κ) (s : PollState κ) (i : Invocation) : Prop :=
  i.status.isSome ∨
    s.world.dev.buf.availableRead <
      (pollRun parseCb (i.calls.map CommandCall.action) s).world.dev.buf.availableRead

instance (parseCb : List UInt8 → Option κ) (s : PollState κ) (i : Invocation) :
    Decidable (MakesProgress parseCb s i) :=
  inferInstanceAs (Decidable (_ ∨ _))

/-! ## One invocation -/

theorem readData_dev (dst : List UInt8) :
    (readData w dst).world.dev = { w.dev with buf := (readData w dst).world.dev.buf } := by
  unfold readData
  split
  · rfl
  · split <;> rfl

theorem writeData_dev (src : List UInt8) :
    (writeData w src).world.dev = { w.dev with buf := (writeData w src).world.dev.buf } := by
  unfold writeData
  split
  · rfl
  · split <;> rfl

theorem tryWriteDataAll_dev (src : List UInt8) :
    (tryWriteDataAll w src).world.dev =
      { w.dev with buf := (tryWriteDataAll w src).world.dev.buf } := by
  unfold tryWriteDataAll
  split
  · rfl
  · split
    · split <;> rfl
    · rfl

theorem pollRun_append (parseCb : List UInt8 → Option κ) (as bs : List PollAction)
    (s : PollState κ) : pollRun parseCb (as ++ bs) s = pollRun parseCb bs (pollRun parseCb as s) :=
  List.foldl_append _ _ _ _

theorem pollRun_replicate_succ (parseCb : List UInt8 → Option κ) (n : Nat) (s : PollState κ) :
    pollRun parseCb (List.replicate (n + 1) .poll) s =
      pollRun parseCb (List.replicate n .poll) (pollStep parseCb .poll s) := rfl

theorem pollRun_finish_none (parseCb : List UInt8 → Option κ) (kind : κ) (lun : Nat) :
    pollRun parseCb [.finish none] ⟨w, .callback kind lun⟩ = afterCallback kind lun w :=
  rfl

theorem pollRun_finish_some (parseCb : List UInt8 → Option κ) (kind : κ) (lun : Nat)
    (st : CommandStatus) :
    pollRun parseCb [.finish (some st)] ⟨w, .callback kind lun⟩ =
      finishWith kind lun (setStatus w st) :=
  rfl

def CallsFrame (w : World) (kind : κ) (lun : Nat) (s : PollState κ) : Prop :=
  s.phase = .panicked ∨
    (s.phase = .callback kind lun ∧ s.world.dev = { w.dev with buf := s.world.dev.buf })

theorem CallsFrame.step {parseCb : List UInt8 → Option κ} {kind : κ} {lun : Nat}
    {s : PollState κ} (h : CallsFrame w kind lun s) (c : CommandCall) :
    CallsFrame w kind lun (pollStep parseCb c.action s) := by
  obtain ⟨w', phase⟩ := s
  rcases h with h | ⟨h, hd⟩ <;> dsimp only at h <;> subst h
  · rw [pollStep_panicked]
    exact .inl rfl
  dsimp only at hd
  have hin : ∀ {α : Type} (call : Call α),
      call.world.dev = { w'.dev with buf := call.world.dev.buf } →
      CallsFrame w kind lun (inCallback kind lun call) := by
    intro α call hc
    unfold inCallback
    split
    · exact .inl rfl
    · exact .inr ⟨rfl, by rw [hc, hd]⟩
  cases c with
  | readData dst => exact hin _ (readData_dev dst)
  | writeData src => exact hin _ (writeData_dev src)
  | tryWriteDataAll src => exact hin _ (tryWriteDataAll_dev src)

theorem CallsFrame.run {parseCb : List UInt8 → Option κ} {kind : κ} {lun : Nat}
    {s : PollState κ} (h : CallsFrame w kind lun s) (calls : List CommandCall) :
    CallsFrame w kind lun (pollRun parseCb (calls.map CommandCall.action) s) := by
  induction calls generalizing s with
  | nil => exact h
  | cons c calls ih => exact ih (h.step c)

theorem handleWriteCsw_state (hi : w.dev.Inv) (hs : w.dev.state = .statusTransfer) :
    (handleWriteCsw w).world.dev.state = .statusTransfer ∨
      (handleWriteCsw w).world.dev.state = .idle := by
  obtain ⟨-, -, ⟨e, -, hdev, -⟩ | ⟨n, -, -, hn, hlt, heq⟩⟩ :=
    handleWriteCsw_spec hi.valid hi.packetSize_pos
  · exact .inl (by rw [hdev, hs])
  · rcases Nat.lt_or_ge n w.dev.buf.availableRead with h | h
    · exact .inl (by rw [(hlt h).1]; exact hs)
    · exact .inr (by rw [(heq (by omega)).1]; rfl)

theorem endDataTransfer_state (hi : w.dev.Inv) (hd : w.dev.state.isDataTransfer)
    {st : CommandStatus} (hcs : w.dev.cs = some st) :
    (endDataTransfer w).world.dev.state = .statusTransfer ∨
      (endDataTransfer w).world.dev.state = .idle := by
  rw [endDataTransfer_eq hcs]
  exact handleWriteCsw_state (queueCsw_inv hi hd hcs) rfl

theorem setStatus_not_toHost_unlatched (hi : w.dev.Inv) (hd : w.dev.state.isDataTransfer)
    (status : CommandStatus) :
    ¬ ((setStatus w status).world.dev.state = .dataTransferToHost ∧
      (setStatus w status).world.dev.cs = none) := by
  have hi' : (({ w with dev := { w.dev with cs := some status } } : World).emit
      (.latch status)).dev.Inv :=
    hi.of_dataTransfer rfl hd rfl rfl hi.valid (hi.wellFormed hd) hi.noData
  rw [setStatus_world]
  split
  · rcases endDataTransfer_state hi' hd rfl with he | he <;> simp [he]
  · simp

theorem write_fullPacketExpected_short (hi : w.dev.Inv)
    (h : (write w).outcome = .err (.error .fullPacketExpected)) :
    w.dev.buf.availableRead < w.dev.packetSize := by
  obtain ⟨-, hs, -⟩ := write_fullPacketExpected hi h
  have hw : write w = handleWriteToHost w := by simp [write, hs]
  rw [hw] at h
  exact (handleWriteToHost_fullPacketExpected hi hs h).2.1

theorem afterCallback_reenters {kind kind' : κ} {lun lun' : Nat}
    (h : (afterCallback kind lun w).phase = .callback kind' lun') :
    (write w).outcome = .err (.error .fullPacketExpected) ∧
      (afterCallback kind lun w).world = (write w).world := by
  unfold afterCallback at h ⊢
  split at h
  · rename_i w' heq
    rw [heq]
    exact ⟨rfl, rfl⟩
  · exfalso
    unfold mapIgnore at h
    repeat (first | split at h | simp at h)

theorem invoke_reenters {parseCb : List UInt8 → Option κ} {t : PollState κ}
    (ht : PollReachable parseCb t) {kind : κ} {lun : Nat} (hc : t.phase = .callback kind lun)
    {i : Invocation} (hp : MakesProgress parseCb t i) {kind' : κ} {lun' : Nat}
    (hc' : (invoke parseCb i t).phase = .callback kind' lun') :
    t.world.dev.buf.availableRead < (invoke parseCb i t).world.dev.buf.availableRead ∧
      (invoke parseCb i t).world.dev.buf.availableRead < t.world.dev.packetSize ∧
      (invoke parseCb i t).world.dev.packetSize = t.world.dev.packetSize := by
  obtain ⟨w, phase⟩ := t
  dsimp only at hc
  subst hc
  have hframe : CallsFrame w kind lun
      (pollRun parseCb (i.calls.map CommandCall.action) ⟨w, .callback kind lun⟩) :=
    CallsFrame.run (.inr ⟨rfl, rfl⟩) i.calls
  have hr := ht.run (i.calls.map CommandCall.action)
  unfold MakesProgress at hp
  unfold invoke at hc' ⊢
  rw [pollRun_append] at hc' ⊢
  generalize pollRun parseCb (i.calls.map CommandCall.action) ⟨w, .callback kind lun⟩ = u
    at hframe hr hp hc' ⊢
  obtain ⟨wu, pu⟩ := u
  rcases hframe with hpu | ⟨hpu, hdev⟩ <;> dsimp only at hpu <;> subst hpu
  · rw [pollRun_panicked] at hc'
    cases hc'
  obtain ⟨hreach, hready⟩ := hr.sound (by simp)
  have hi := inv_of_reachable hreach
  obtain ⟨hd, -⟩ := hready kind lun rfl
  dsimp only at hdev hp
  cases hst : i.status with
  | some st =>
    rw [hst, pollRun_finish_some] at hc'
    unfold finishWith at hc'
    split at hc'
    · cases hc'
    · obtain ⟨hw, -⟩ := afterCallback_reenters hc'
      obtain ⟨-, hs', hcs'⟩ := write_fullPacketExpected (setStatus_inv hi hd st) hw
      exact absurd ⟨hs', hcs'⟩ (setStatus_not_toHost_unlatched hi hd st)
  | none =>
    rw [hst] at hp
    rw [hst, pollRun_finish_none] at hc'
    rw [pollRun_finish_none]
    obtain ⟨hw, hworld⟩ := afterCallback_reenters hc'
    have hps : wu.dev.packetSize = w.dev.packetSize := by rw [hdev]
    rw [hworld, (write_fullPacketExpected hi hw).1, ← hps]
    exact ⟨by simpa using hp, write_fullPacketExpected_short hi hw, rfl⟩

/-! ## The loop -/

theorem innerLoop_succ (parseCb : List UInt8 → Option κ) (invs : Nat → Invocation) (n : Nat)
    (s : PollState κ) :
    innerLoop parseCb invs (n + 1) s =
      match (innerLoop parseCb invs n s).phase with
      | .callback _ _ => invoke parseCb (invs n) (innerLoop parseCb invs n s)
      | _ => innerLoop parseCb invs n s :=
  rfl

theorem PollReachable.innerLoop {parseCb : List UInt8 → Option κ} {s : PollState κ}
    (h : PollReachable parseCb s) (invs : Nat → Invocation) (n : Nat) :
    PollReachable parseCb (innerLoop parseCb invs n s) := by
  induction n with
  | zero => exact h
  | succ n ih =>
    simp only [UsbdStorage.innerLoop]
    split
    · exact ih.run _
    · exact ih

theorem innerLoop_measure {parseCb : List UInt8 → Option κ} {s : PollState κ}
    (h : PollReachable parseCb s) (invs : Nat → Invocation)
    (hp : ∀ n kind lun, (innerLoop parseCb invs n s).phase = .callback kind lun →
      MakesProgress parseCb (innerLoop parseCb invs n s) (invs n))
    (n : Nat) {kind : κ} {lun : Nat} (hc : (innerLoop parseCb invs n s).phase = .callback kind lun) :
    n ≤ (innerLoop parseCb invs n s).world.dev.buf.availableRead ∧
      (0 < n → (innerLoop parseCb invs n s).world.dev.buf.availableRead < s.world.dev.packetSize) ∧
      (innerLoop parseCb invs n s).world.dev.packetSize = s.world.dev.packetSize := by
  induction n generalizing kind lun with
  | zero => exact ⟨Nat.zero_le _, fun h => absurd h (Nat.lt_irrefl 0), rfl⟩
  | succ n ih =>
    rw [innerLoop_succ] at hc ⊢
    cases hn : (innerLoop parseCb invs n s).phase with
    | callback kind₀ lun₀ =>
      simp only [hn] at hc
      dsimp only
      obtain ⟨hlt, hps, hsame⟩ :=
        invoke_reenters (h.innerLoop invs n) hn (hp n kind₀ lun₀ hn) hc
      obtain ⟨hge, -, hps₀⟩ := ih hn
      exact ⟨by omega, fun _ => hps₀ ▸ hps, hsame.trans hps₀⟩
    | outside => simp [hn] at hc
    | panicked => simp [hn] at hc

/-- Left, not returned from: the `unwrap` in `set_status` can panic inside the callback. -/
theorem inner_loop_bounded {parseCb : List UInt8 → Option κ} {s : PollState κ}
    (h : PollReachable parseCb s) (invs : Nat → Invocation)
    (hp : ∀ n kind lun, (innerLoop parseCb invs n s).phase = .callback kind lun →
      MakesProgress parseCb (innerLoop parseCb invs n s) (invs n)) :
    (innerLoop parseCb invs s.world.dev.packetSize s).phase = .outside ∨
      (innerLoop parseCb invs s.world.dev.packetSize s).phase = .panicked := by
  cases hc : (innerLoop parseCb invs s.world.dev.packetSize s).phase with
  | outside => exact .inl rfl
  | panicked => exact .inr rfl
  | callback kind lun =>
    exfalso
    obtain ⟨hge, hlt, hps⟩ := innerLoop_measure h invs hp _ hc
    have hpos := (inv_of_reachable ((h.innerLoop invs s.world.dev.packetSize).reachable
      (by simp [hc]))).packetSize_pos
    rw [hps] at hpos
    exact absurd (hlt hpos) (by omega)

def readEightCbw : List UInt8 := hostCbwBytes 3 512 0x80 0 read10Block

def readEightRun : PollState ScsiCommand :=
  pollRun Scsi.parseCb [.poll, .poll, .poll, .poll]
    (startState 8 64 (List.replicate 4 .accept)
      ((List.range 4).map fun i => .packet ((readEightCbw.drop (8 * i)).take 8)))

example :
    (innerLoop Scsi.parseCb (fun _ => ⟨[.writeData [0]], none⟩) 7 readEightRun).phase =
        .callback (.read 0 1) 0 ∧
      (innerLoop Scsi.parseCb (fun _ => ⟨[.writeData [0]], none⟩) 8 readEightRun).phase =
        .outside := by
  decide

def busyFailRun : PollState ScsiCommand :=
  pollRun Scsi.parseCb [.poll]
    (startState 32 64 [] [.packet (hostCbwBytes 8 4 0x80 0 read10Block)])

theorem busyFailRun_panics :
    PollReachable Scsi.parseCb busyFailRun ∧ busyFailRun.phase = .callback (.read 0 1) 0 ∧
      ((innerLoop Scsi.parseCb (fun _ => ⟨[], some .failed⟩) busyFailRun.world.dev.packetSize
          busyFailRun).phase = .outside ∨
        (innerLoop Scsi.parseCb (fun _ => ⟨[], some .failed⟩) busyFailRun.world.dev.packetSize
          busyFailRun).phase = .panicked) ∧
      (innerLoop Scsi.parseCb (fun _ => ⟨[], some .failed⟩) busyFailRun.world.dev.packetSize
        busyFailRun).phase = .panicked :=
  have h : PollReachable Scsi.parseCb busyFailRun :=
    (startState_reachable _ (by decide) (by decide) (by decide) _ _).run _
  ⟨h, by decide, inner_loop_bounded h _ fun _ _ _ _ => .inl rfl, by decide⟩

end UsbdStorage
