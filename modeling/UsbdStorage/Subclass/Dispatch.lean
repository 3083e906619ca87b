import UsbdStorage.Subclass.Callback
import UsbdStorage.Transport.Decode

/-!
# The command the callback is handed

`poll` hands its callback `parse_cb` of the block `get_command` returns and the wrapper's
LUN, and invokes it again with the same command after each `FullPacketExpected`.  Nothing
the callback can call changes the wrapper, and `write` answers `FullPacketExpected` only
without changing anything, so in every state of a run inside the callback the command is
`parse_cb` of the served wrapper's block (`PollReachable.command`).  With the decoder of
`Decode`, the command of every invocation is `parse_cb` of the `bCBWCBLength` bytes from
offset 15 of the 31 bytes the host sent for it, and the LUN the low nibble of byte 13
(`callback_runs_host_command`).
-/

namespace UsbdStorage

variable {κ : Type} {w : World}

theorem BulkOnly.getCommand_eq_some {d : BulkOnly} {cb : CommandBlock}
    (h : d.getCommand = .ok (some cb)) : cb = ⟨d.cbw.block.take d.cbw.blockLen, d.cbw.lun⟩ := by
  unfold BulkOnly.getCommand at h
  split at h
  · cases h
  · cases h
  · split_ifs at h
    cases h
    rfl

/-- In the callback, the command is `parse_cb` of the served wrapper's block and the LUN is
the wrapper's. -/
def CallbackCommand (parseCb : List UInt8 → Option κ) (s : PollState κ) : Prop :=
  ∀ kind lun, s.phase = .callback kind lun →
    parseCb (s.world.dev.cbw.block.take s.world.dev.cbw.blockLen) = some kind ∧
      lun = s.world.dev.cbw.lun

/-! ## One step of the loop -/

theorem mapIgnore_callback {α : Type} {c : Call α} {k : World → PollState κ} {kind : κ}
    {lun : Nat} (h : (mapIgnore c k).phase = .callback kind lun) : mapIgnore c k = k c.world := by
  unfold mapIgnore at h ⊢
  revert h
  split
  · nofun
  · split
    · exact fun _ => rfl
    · nofun
  · exact fun _ => rfl

theorem pollEntry_command (parseCb : List UInt8 → Option κ) (w : World) :
    CallbackCommand parseCb (pollEntry parseCb w) := by
  intro kind lun hc
  unfold pollEntry at hc ⊢
  have h₁ := mapIgnore_callback hc
  rw [h₁] at hc ⊢
  have h₂ := mapIgnore_callback hc
  rw [h₂] at hc ⊢
  revert hc
  split
  · rename_i rawCb hcb
    split
    · split
      · rename_i kind' hk
        rintro ⟨⟩
        obtain rfl := BulkOnly.getCommand_eq_some hcb
        exact ⟨hk, rfl⟩
      · nofun
    · nofun
  · nofun
  · nofun

theorem inCallback_command {parseCb : List UInt8 → Option κ} {α : Type} {c : Call α}
    {kind : κ} {lun : Nat} (hcbw : c.world.dev.cbw = w.dev.cbw)
    (h : parseCb (w.dev.cbw.block.take w.dev.cbw.blockLen) = some kind ∧ lun = w.dev.cbw.lun) :
    CallbackCommand parseCb (inCallback kind lun c) := by
  intro kind' lun' hc
  unfold inCallback at hc ⊢
  revert hc
  split
  · nofun
  · rintro ⟨⟩
    rw [hcbw]
    exact h

theorem afterCallback_eq_of_callback (hi : w.dev.Inv) {kind kind' : κ} {lun lun' : Nat}
    (h : (afterCallback kind lun w).phase = .callback kind' lun') :
    afterCallback kind lun w = ⟨w, .callback kind lun⟩ := by
  obtain ⟨hw, hworld⟩ := afterCallback_reenters h
  rw [(write_fullPacketExpected hi hw).1] at hworld
  unfold afterCallback at h hworld ⊢
  revert h hworld
  split
  · intro _ hworld
    rw [← hworld]
  · intro h
    exfalso
    unfold mapIgnore at h
    repeat (first | split at h | simp at h)

theorem afterCallback_command {parseCb : List UInt8 → Option κ} (hi : w.dev.Inv) {kind : κ}
    {lun : Nat}
    (h : parseCb (w.dev.cbw.block.take w.dev.cbw.blockLen) = some kind ∧ lun = w.dev.cbw.lun) :
    CallbackCommand parseCb (afterCallback kind lun w) := by
  intro kind' lun' hc
  have e := afterCallback_eq_of_callback hi hc
  rw [e] at hc ⊢
  cases hc
  exact h

theorem finishWith_setStatus_ne_callback (hi : w.dev.Inv) (hd : w.dev.state.isDataTransfer)
    (st : CommandStatus) {kind kind' : κ} {lun lun' : Nat} :
    (finishWith kind lun (setStatus w st)).phase ≠ .callback kind' lun' := by
  intro hc
  unfold finishWith at hc
  split at hc
  · cases hc
  · obtain ⟨hw, -⟩ := afterCallback_reenters hc
    obtain ⟨-, hs', hcs'⟩ := write_fullPacketExpected (setStatus_inv hi hd st) hw
    exact setStatus_not_toHost_unlatched hi hd st ⟨hs', hcs'⟩

theorem pollStep_command (parseCb : List UInt8 → Option κ) {s : PollState κ} (hs : s.Sound)
    (h : CallbackCommand parseCb s) (a : PollAction) :
    CallbackCommand parseCb (pollStep parseCb a s) := by
  obtain ⟨w, phase⟩ := s
  cases phase with
  | panicked => rw [pollStep_panicked]; exact h
  | outside =>
    rcases a with _ | _ | _ | _ | (_ | _) | _
    case poll => exact pollEntry_command parseCb w
    all_goals nofun
  | callback kind lun =>
    obtain ⟨hr, hready⟩ := hs (by simp)
    have hi := inv_of_reachable hr
    have hk := h kind lun rfl
    cases a with
    | readData dst => exact inCallback_command (by rw [readData_dev]) hk
    | writeData src => exact inCallback_command (by rw [writeData_dev]) hk
    | tryWriteDataAll src => exact inCallback_command (by rw [tryWriteDataAll_dev]) hk
    | finish status =>
      cases status with
      | none => exact afterCallback_command hi hk
      | some st =>
        exact fun _ _ hc =>
          absurd hc (finishWith_setStatus_ne_callback hi (hready kind lun rfl).1 st)
    | poll => exact h
    | reset => exact h

theorem PollReachable.command {parseCb : List UInt8 → Option κ} {s : PollState κ}
    (h : PollReachable parseCb s) : CallbackCommand parseCb s := by
  induction h with
  | init => nofun
  | step a hr ih => exact pollStep_command _ hr.sound ih a

/-! ## From the host's bytes to the callback -/

theorem callback_runs_host_command {parseCb : List UInt8 → Option κ} {s : PollState κ}
    (h : PollReachable parseCb s) {kind : κ} {lun : Nat} (hc : s.phase = .callback kind lun) :
    ∃ c b, s.world.trace.current = some c ∧ (outBytes c.before).take cbwLen = b ∧
      b.take 4 = [0x55, 0x53, 0x42, 0x43] ∧
      parseCb ((b.drop 15).take (b.getD 14 0).toNat) = some kind ∧
      lun = (b.getD 13 0).toNat % 16 := by
  obtain ⟨hr, hready⟩ := h.sound (by simp [hc])
  obtain ⟨c, hcur, -⟩ := (tracks_of_reachable hr).serving (hready kind lun hc).1
  obtain ⟨hw, hcb⟩ := served_wire hr hcur
  obtain ⟨hk, hl⟩ := h.command kind lun hc
  obtain ⟨⟨hsig, -⟩, hcbw⟩ := Option.ite_none_right_eq_some.mp hw
  injection hcb with hbytes hlun
  refine ⟨c, _, hcur, rfl, hsig, ?_, ?_⟩
  · rw [hbytes, ← Option.some.inj hcbw] at hk
    exact hk
  · rw [hl, hlun, ← Option.some.inj hcbw]

theorem readEightRun_runs_host_command :
    PollReachable Scsi.parseCb readEightRun ∧ readEightRun.phase = .callback (.read 0 1) 0 ∧
      ∃ c b, readEightRun.world.trace.current = some c ∧ (outBytes c.before).take cbwLen = b ∧
        b.take 4 = [0x55, 0x53, 0x42, 0x43] ∧
        Scsi.parseCb ((b.drop 15).take (b.getD 14 0).toNat) = some (.read 0 1) ∧
        0 = (b.getD 13 0).toNat % 16 :=
  have h : PollReachable Scsi.parseCb readEightRun :=
    (startState_reachable _ (by decide) (by decide) (by decide) _ _).run _
  ⟨h, by decide, callback_runs_host_command h (by decide)⟩

end UsbdStorage
