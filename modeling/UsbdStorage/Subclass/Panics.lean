import UsbdStorage.Subclass.Callback

/-!
# Where a run panics

The transport and the subclasses can panic in five places: the slice `block[..block_len]`
of `get_command`, `build_csw().unwrap()` in `end_data_transfer`, the `unwrap` of the flush
in `set_status`, `copy_from_slice` in `read_data`, and the indexing of `parse_cb`.  The first
two never fire: `end_data_transfer` runs only with a status latched
(`endDataTransfer_ne_panic`), so `read` and `write` never panic from any state, and the
invariant keeps the block length in bounds.  So every panic of a run of `poll` comes from
one of the other three (`poll_panic_sources`).
-/

namespace UsbdStorage

variable {κ : Type} {w : World}

/-! ## Calls that never panic -/

theorem Call.andThen_ne_panic {α β : Type} {c : Call α} {k : α → World → Call β}
    (hc : c.outcome ≠ .panic) (hk : ∀ a w, (k a w).outcome ≠ .panic) :
    (c.andThen k).outcome ≠ .panic := by
  unfold Call.andThen
  split
  · exact hk _ _
  · nofun
  · contradiction

theorem readPacket_ne_panic : (readPacket w).outcome ≠ .panic := by
  unfold readPacket
  split
  · split <;> nofun
  · nofun

theorem writePacket_ne_panic : (writePacket w).outcome ≠ .panic := by
  unfold writePacket
  dsimp only
  split
  · split <;> nofun
  · nofun

theorem handleWriteCsw_ne_panic : (handleWriteCsw w).outcome ≠ .panic :=
  Call.andThen_ne_panic writePacket_ne_panic fun _ _ => by split <;> nofun

theorem endDataTransfer_ne_panic (hs : w.dev.statusPresent) :
    (endDataTransfer w).outcome ≠ .panic := by
  obtain ⟨st, hcs⟩ := Option.isSome_iff_exists.mp hs
  rw [endDataTransfer_eq hcs]
  exact handleWriteCsw_ne_panic

theorem checkEndDataTransfer_ne_panic : (checkEndDataTransfer w).outcome ≠ .panic := by
  rw [checkEndDataTransfer_eq]
  split
  · exact endDataTransfer_ne_panic ‹w.dev.dataPhaseOver›.1
  · nofun

theorem read_ne_panic : (read w).outcome ≠ .panic := by
  have hcbw : ∀ w : World, (handleReadCbw w).outcome ≠ .panic := fun _ =>
    Call.andThen_ne_panic readPacket_ne_panic fun _ _ => by
      split
      · split <;> nofun
      · nofun
  unfold read
  split
  · exact hcbw w
  · exact hcbw w
  · unfold handleReadFromHost
    split
    · exact Call.andThen_ne_panic readPacket_ne_panic fun _ _ => checkEndDataTransfer_ne_panic
    · exact checkEndDataTransfer_ne_panic
  · nofun

theorem write_ne_panic : (write w).outcome ≠ .panic := by
  unfold write
  split
  · exact handleWriteCsw_ne_panic
  · unfold handleWriteToHost
    dsimp only
    split
    · split
      · exact Call.andThen_ne_panic writePacket_ne_panic fun _ _ => checkEndDataTransfer_ne_panic
      · exact checkEndDataTransfer_ne_panic
    · nofun
  · exact checkEndDataTransfer_ne_panic
  · nofun

theorem writeData_ne_panic (src : List UInt8) : (writeData w src).outcome ≠ .panic := by
  unfold writeData
  split_ifs <;> nofun

theorem tryWriteDataAll_ne_panic (src : List UInt8) : (tryWriteDataAll w src).outcome ≠ .panic := by
  unfold tryWriteDataAll
  split_ifs <;> (try split) <;> simp

/-! ## The calls that can -/

theorem readData_panic (hv : w.dev.buf.Valid) {dst : List UInt8}
    (h : (readData w dst).outcome = .panic) :
    w.dev.state = .dataTransferFromHost ∧ dst.length < w.dev.buf.availableRead := by
  by_cases hs : w.dev.state = .dataTransferFromHost
  · refine ⟨hs, Nat.lt_of_not_le fun hle => ?_⟩
    rw [(readData_spec hv hs dst).1 hle] at h
    cases h
  · simp [readData, hs] at h

theorem setStatus_panic (hi : w.dev.Inv) {st : CommandStatus}
    (h : (setStatus w st).outcome = .panic) :
    (st = .failed ∨ st = .phaseError) ∧ w.bus.inAnswers.head? ≠ some .accept := by
  rw [setStatus_eq] at h
  split_ifs at h with hst
  · refine ⟨hst.symm, fun hacc => ?_⟩
    have hok := (endDataTransfer_ok_iff (w := ({ w with dev := { w.dev with cs := some st } } :
      World).emit (.latch st)) hi.packetSize_pos hi.cbw_fits rfl).mpr hacc
    revert h
    split <;> simp_all

/-! ## The loop -/

theorem mapIgnore_of_panicked {α : Type} {c : Call α} {k : World → PollState κ}
    (hc : c.outcome ≠ .panic) (h : (mapIgnore c k).phase = .panicked) : mapIgnore c k = k c.world := by
  unfold mapIgnore at h ⊢
  revert h
  split
  · contradiction
  · split
    · exact fun _ => rfl
    · nofun
  · exact fun _ => rfl

theorem afterCallback_ne_panicked (kind : κ) (lun : Nat) (w : World) :
    (afterCallback kind lun w).phase ≠ .panicked := by
  intro h
  unfold afterCallback at h
  split at h
  · cases h
  · rw [mapIgnore_of_panicked write_ne_panic h] at h
    rw [mapIgnore_of_panicked read_ne_panic h] at h
    cases h

theorem inCallback_panicked {α : Type} {kind : κ} {lun : Nat} {c : Call α}
    (h : (inCallback kind lun c).phase = .panicked) : c.outcome = .panic := by
  unfold inCallback at h
  revert h
  split
  · exact fun _ => ‹_›
  · nofun

theorem finishWith_panicked {kind : κ} {lun : Nat} {c : Call Unit}
    (h : (finishWith kind lun c).phase = .panicked) : c.outcome = .panic := by
  unfold finishWith at h
  revert h
  split
  · exact fun _ => ‹_›
  · exact fun h => absurd h (afterCallback_ne_panicked kind lun _)

theorem pollEntry_panicked {parseCb : List UInt8 → Option κ} (hi : w.dev.Inv)
    (h : (pollEntry parseCb w).phase = .panicked) :
    ∃ rawCb, (pollEntry parseCb w).world.dev.getCommand = .ok (some rawCb) ∧
      (pollEntry parseCb w).world.dev.cs = none ∧ parseCb rawCb.bytes = none := by
  have hi' := write_inv (read_inv hi)
  unfold pollEntry at h ⊢
  have e₁ := mapIgnore_of_panicked read_ne_panic h
  rw [e₁] at h ⊢
  have e₂ := mapIgnore_of_panicked write_ne_panic h
  rw [e₂] at h ⊢
  generalize (write (read w).world).world = w' at h hi' ⊢
  revert h
  split
  · rename_i rawCb hcb
    split_ifs with hst
    · split
      · nofun
      · rename_i hk
        intro _
        refine ⟨rawCb, hcb, ?_, hk⟩
        simpa [BulkOnly.hasStatus, BulkOnly.statusPresent] using hst
    · nofun
  · exact absurd ‹_› hi'.getCommand_ne_panic
  · nofun

theorem poll_panic_sources {parseCb : List UInt8 → Option κ} {s : PollState κ}
    (h : PollReachable parseCb s) (hs : s.phase ≠ .panicked) {a : PollAction}
    (hp : (pollStep parseCb a s).phase = .panicked) :
    (s.phase = .outside ∧ a = .poll ∧ ∃ rawCb,
        (pollStep parseCb a s).world.dev.getCommand = .ok (some rawCb) ∧
        (pollStep parseCb a s).world.dev.cs = none ∧ parseCb rawCb.bytes = none) ∨
    (∃ kind lun st, s.phase = .callback kind lun ∧ a = .finish (some st) ∧
        (st = .failed ∨ st = .phaseError) ∧ s.world.bus.inAnswers.head? ≠ some .accept) ∨
    (∃ kind lun dst, s.phase = .callback kind lun ∧ a = .readData dst ∧
        s.world.dev.state = .dataTransferFromHost ∧ dst.length < s.world.dev.buf.availableRead) := by
  have hi := inv_of_reachable (h.reachable hs)
  obtain ⟨w, phase⟩ := s
  cases phase with
  | panicked => exact absurd rfl hs
  | outside =>
    rcases a with _ | _ | _ | _ | (_ | _) | _
    case poll => exact .inl ⟨rfl, rfl, pollEntry_panicked hi hp⟩
    all_goals cases hp
  | callback kind lun =>
    cases a with
    | readData dst =>
      change (inCallback kind lun (readData w dst)).phase = .panicked at hp
      exact .inr (.inr ⟨kind, lun, dst, rfl, rfl, readData_panic hi.valid (inCallback_panicked hp)⟩)
    | writeData src =>
      change (inCallback kind lun (writeData w src)).phase = .panicked at hp
      exact absurd (inCallback_panicked hp) (writeData_ne_panic src)
    | tryWriteDataAll src =>
      change (inCallback kind lun (tryWriteDataAll w src)).phase = .panicked at hp
      exact absurd (inCallback_panicked hp) (tryWriteDataAll_ne_panic src)
    | finish status =>
      cases status with
      | none => exact absurd hp (afterCallback_ne_panicked kind lun w)
      | some st =>
        change (finishWith kind lun (setStatus w st)).phase = .panicked at hp
        exact .inr (.inl ⟨kind, lun, st, rfl, rfl, setStatus_panic hi (finishWith_panicked hp)⟩)
    | poll => cases hp
    | reset => cases hp

theorem busyFailRun_panic_source :
    PollReachable Scsi.parseCb busyFailRun ∧ busyFailRun.phase ≠ .panicked ∧
      (pollStep Scsi.parseCb (.finish (some .failed)) busyFailRun).phase = .panicked ∧
      ((busyFailRun.phase = .outside ∧ PollAction.finish (some .failed) = .poll ∧ ∃ rawCb,
          (pollStep Scsi.parseCb (.finish (some .failed)) busyFailRun).world.dev.getCommand =
            .ok (some rawCb) ∧
          (pollStep Scsi.parseCb (.finish (some .failed)) busyFailRun).world.dev.cs = none ∧
          Scsi.parseCb rawCb.bytes = none) ∨
        (∃ kind lun st, busyFailRun.phase = .callback kind lun ∧
          PollAction.finish (some .failed) = .finish (some st) ∧
          (st = .failed ∨ st = .phaseError) ∧ busyFailRun.world.bus.inAnswers.head? ≠ some .accept) ∨
        (∃ kind lun dst, busyFailRun.phase = .callback kind lun ∧
          PollAction.finish (some .failed) = .readData dst ∧
          busyFailRun.world.dev.state = .dataTransferFromHost ∧
          dst.length < busyFailRun.world.dev.buf.availableRead)) :=
  have h : PollReachable Scsi.parseCb busyFailRun :=
    (startState_reachable _ (by decide) (by decide) (by decide) _ _).run _
  have hp : (pollStep Scsi.parseCb (.finish (some .failed)) busyFailRun).phase = .panicked := by
    decide
  ⟨h, by decide, hp, poll_panic_sources h (by decide) hp⟩

end UsbdStorage
