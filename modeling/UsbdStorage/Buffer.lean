import Mathlib.Data.List.Basic

/-!
# The IO buffer

`Buffer` is `buffer.rs`: a byte region whose length never changes, a read cursor
`rpos` and a write cursor `wpos`.  The bytes between the cursors are the content.
`shift` moves the content to the front with an overlapping copy (`ptr::copy`) when a
write needs more room.  The callbacks of `write_all` and `read` get the caller's state
`σ` explicitly, since the transport's callbacks talk to the USB endpoints.
-/

namespace UsbdStorage

structure Buffer where
  inner : List UInt8
  rpos : Nat
  wpos : Nat
  deriving DecidableEq, Repr

namespace Buffer

def new (inner : List UInt8) : Buffer := ⟨inner, 0, 0⟩

def availableRead (b : Buffer) : Nat := b.wpos - b.rpos

def availableWrite (b : Buffer) : Nat := b.inner.length - b.wpos

/-- `inner[pos..pos + bytes.len()].copy_from_slice(bytes)`. -/
def store (inner : List UInt8) (pos : Nat) (bytes : List UInt8) : List UInt8 :=
  inner.take pos ++ bytes ++ inner.drop (pos + bytes.length)

/-- The cells `inner[pos..pos + len]` handed to a callback. -/
def window (inner : List UInt8) (pos len : Nat) : List UInt8 :=
  (inner.drop pos).take len

def clean (b : Buffer) : Buffer := { b with rpos := 0, wpos := 0 }

def shift (b : Buffer) : Buffer :=
  if b.rpos ≠ b.wpos then
    { inner := store b.inner 0 (window b.inner b.rpos b.availableRead)
      rpos := 0
      wpos := b.wpos - b.rpos }
  else b.clean

/-- `if self.available_write() < n { self.shift() }`, the start of `write` and `write_all`. -/
def makeRoom (b : Buffer) (n : Nat) : Buffer :=
  if b.availableWrite < n then b.shift else b

def write (b : Buffer) (data : List UInt8) : Buffer × Nat :=
  let b := b.makeRoom data.length
  let count := min b.availableWrite data.length
  ({ b with inner := store b.inner b.wpos (data.take count), wpos := b.wpos + count }, count)

def writeAll {ε σ : Type} (b : Buffer) (maxCount : Nat) (overflowErr : ε)
    (f : List UInt8 → σ → List UInt8 × Except ε Nat × σ) (s : σ) :
    Buffer × Except ε Nat × σ :=
  let b := b.makeRoom maxCount
  if b.availableWrite < maxCount then (b, .error overflowErr, s)
  else
    match f (window b.inner b.wpos maxCount) s with
    | (slice, .ok count, s) =>
        let inner := store b.inner b.wpos slice
        let advanceBy := min count (inner.length - b.wpos)
        ({ b with inner, wpos := b.wpos + advanceBy }, .ok advanceBy, s)
    | (slice, .error e, s) => ({ b with inner := store b.inner b.wpos slice }, .error e, s)

def read {ε σ : Type} (b : Buffer) (f : List UInt8 → σ → Except ε Nat × σ) (s : σ) :
    Buffer × Except ε Nat × σ :=
  match f (window b.inner b.rpos b.availableRead) s with
  | (.ok count, s) =>
      let advanceBy := min count b.availableRead
      ({ b with rpos := b.rpos + advanceBy }, .ok advanceBy, s)
  | (.error e, s) => (b, .error e, s)

/-! ## The content and the cursor invariant -/

/-- The bytes written and not yet read, `inner[rpos..wpos]`. -/
def content (b : Buffer) : List UInt8 := (b.inner.take b.wpos).drop b.rpos

def Valid (b : Buffer) : Prop := b.rpos ≤ b.wpos ∧ b.wpos ≤ b.inner.length

instance (b : Buffer) : Decidable b.Valid := inferInstanceAs (Decidable (_ ∧ _))

variable {b : Buffer}

theorem window_rpos (b : Buffer) : window b.inner b.rpos b.availableRead = b.content := by
  simp [window, content, availableRead, List.drop_take]

theorem Valid.length_content (hv : b.Valid) : b.content.length = b.availableRead := by
  obtain ⟨-, h⟩ := hv
  simp [content, availableRead]
  omega

theorem length_store {inner bytes : List UInt8} {pos : Nat}
    (h : pos + bytes.length ≤ inner.length) :
    (store inner pos bytes).length = inner.length := by
  simp [store]
  omega

theorem take_store {inner bytes : List UInt8} {pos n : Nat} (hpos : pos ≤ inner.length)
    (hn : n ≤ bytes.length) :
    (store inner pos bytes).take (pos + n) = inner.take pos ++ bytes.take n := by
  have hlen : (inner.take pos).length = pos := by simp; omega
  rw [store, List.append_assoc, List.take_append_eq_append_take, List.take_of_length_le (by omega),
    hlen, Nat.add_sub_cancel_left, List.take_append_of_le_length hn]

theorem content_store (hv : b.Valid) {bytes : List UInt8} {n : Nat} (hn : n ≤ bytes.length) :
    ({ b with inner := store b.inner b.wpos bytes, wpos := b.wpos + n } : Buffer).content =
      b.content ++ bytes.take n := by
  obtain ⟨h₁, h₂⟩ := hv
  simp only [content]
  rw [take_store h₂ hn, List.drop_append_of_le_length (by simp; omega)]

@[simp] theorem content_clean (b : Buffer) : b.clean.content = [] := by
  simp [clean, content]

theorem valid_clean (b : Buffer) : b.clean.Valid := by
  simp [clean, Valid]

@[simp] theorem clean_inner (b : Buffer) : b.clean.inner = b.inner := rfl

theorem Valid.shift (hv : b.Valid) :
    b.shift.Valid ∧ b.shift.inner.length = b.inner.length ∧ b.shift.content = b.content ∧
      b.shift.availableWrite = b.inner.length - b.availableRead := by
  have hlen := hv.length_content
  obtain ⟨h₁, h₂⟩ := hv
  unfold Buffer.shift
  split
  · rw [window_rpos]
    have hst : (store b.inner 0 b.content).length = b.inner.length :=
      length_store (by simp [hlen, availableRead]; omega)
    have hc : (store b.inner 0 b.content).take (b.wpos - b.rpos) = b.content := by
      have h := @take_store b.inner b.content 0 _ (Nat.zero_le _) le_rfl
      rwa [Nat.zero_add, List.take_length, List.take_zero, List.nil_append, hlen] at h
    refine ⟨⟨Nat.zero_le _, by dsimp only; omega⟩, hst, ?_, by simp [availableWrite, availableRead, hst]⟩
    change ((store b.inner 0 b.content).take (b.wpos - b.rpos)).drop 0 = b.content
    rw [hc, List.drop_zero]
  · have hrw : b.rpos = b.wpos := by omega
    refine ⟨valid_clean b, rfl, ?_, by simp [clean, availableWrite, availableRead, hrw]⟩
    simp [content, clean, hrw, min_le_left]

theorem Valid.makeRoom (hv : b.Valid) (n : Nat) :
    (b.makeRoom n).Valid ∧ (b.makeRoom n).inner.length = b.inner.length ∧
      (b.makeRoom n).content = b.content ∧
      min (b.makeRoom n).availableWrite n = min (b.inner.length - b.availableRead) n := by
  obtain ⟨hs, hl, hc, ha⟩ := hv.shift
  unfold Buffer.makeRoom
  split
  · exact ⟨hs, hl, hc, by rw [ha]⟩
  · refine ⟨hv, rfl, rfl, ?_⟩
    obtain ⟨h₁, h₂⟩ := hv
    simp only [availableWrite, availableRead] at *
    omega

theorem store_window_front (inner : List UInt8) (k : Nat) :
    store inner 0 (window inner 0 k) = inner := by
  simp only [store, window, List.drop_zero, List.take_zero, List.nil_append, Nat.zero_add,
    List.length_take]
  rcases le_total k inner.length with h | h
  · rw [min_eq_left h, List.take_append_drop]
  · rw [min_eq_right h, List.take_of_length_le h, List.drop_length, List.append_nil]

@[simp] theorem shift_shift (b : Buffer) : b.shift.shift = b.shift := by
  unfold shift
  by_cases h : b.rpos = b.wpos
  · simp [h, clean]
  · rw [if_pos h]
    split
    · simp only [availableRead, Nat.sub_zero, store_window_front]
    · rename_i h'
      simp only [ne_eq, not_not] at h'
      simp [clean, ← h']

@[simp] theorem makeRoom_makeRoom (b : Buffer) (n : Nat) :
    (b.makeRoom n).makeRoom n = b.makeRoom n := by
  unfold makeRoom
  split_ifs <;> simp_all

theorem Valid.push (hv : b.Valid) {bytes : List UInt8} {n : Nat} (hn : n ≤ bytes.length)
    (hroom : b.wpos + bytes.length ≤ b.inner.length) :
    ({ b with inner := store b.inner b.wpos bytes, wpos := b.wpos + n } : Buffer).Valid ∧
      (store b.inner b.wpos bytes).length = b.inner.length := by
  have hl := length_store hroom
  obtain ⟨h₁, h₂⟩ := hv
  exact ⟨⟨by dsimp only; omega, by dsimp only; omega⟩, hl⟩

theorem Valid.write (hv : b.Valid) (data : List UInt8) :
    (b.write data).2 = min (b.inner.length - b.availableRead) data.length ∧
      (b.write data).1.Valid ∧ (b.write data).1.inner.length = b.inner.length ∧
      (b.write data).1.content = b.content ++ data.take (b.write data).2 := by
  obtain ⟨hv', hl, hc, hm⟩ := hv.makeRoom data.length
  have hroom : (b.makeRoom data.length).wpos + min (b.makeRoom data.length).availableWrite
      data.length ≤ (b.makeRoom data.length).inner.length := by
    have := hv'.2
    simp only [availableWrite]
    omega
  have hn : min (b.makeRoom data.length).availableWrite data.length ≤
      (data.take (min (b.makeRoom data.length).availableWrite data.length)).length := by
    simp
  obtain ⟨hvs, hls⟩ := hv'.push hn (by simpa using hroom)
  refine ⟨hm, hvs, hls.trans hl, ?_⟩
  simp only [Buffer.write]
  rw [content_store hv' hn, hc, List.take_take, min_self]

theorem content_store_unread (hv : b.Valid) (bytes : List UInt8) :
    ({ b with inner := store b.inner b.wpos bytes } : Buffer).content = b.content := by
  have h := content_store hv (Nat.zero_le bytes.length)
  simpa using h

theorem length_window {inner : List UInt8} {pos n : Nat} (h : pos + n ≤ inner.length) :
    (window inner pos n).length = n := by
  simp [window]
  omega

theorem Valid.fill (hv : b.Valid) (bytes : List UInt8) (count : Nat)
    (hb : b.wpos + bytes.length ≤ b.inner.length) (hc : count ≤ bytes.length) :
    min count ((Buffer.store b.inner b.wpos bytes).length - b.wpos) = count ∧
      ({ b with inner := Buffer.store b.inner b.wpos bytes,
                wpos := b.wpos + min count ((Buffer.store b.inner b.wpos bytes).length - b.wpos) } :
        Buffer).Valid ∧
      (Buffer.store b.inner b.wpos bytes).length = b.inner.length ∧
      ({ b with inner := Buffer.store b.inner b.wpos bytes,
                wpos := b.wpos + min count ((Buffer.store b.inner b.wpos bytes).length - b.wpos) } :
        Buffer).content = b.content ++ bytes.take count := by
  have hl := length_store hb
  have hmin : min count ((Buffer.store b.inner b.wpos bytes).length - b.wpos) = count := by
    rw [hl]
    omega
  rw [hmin]
  exact ⟨rfl, (hv.push hc hb).1, hl, content_store hv hc⟩

theorem Valid.fill_error (hv : b.Valid) (bytes : List UInt8)
    (hb : b.wpos + bytes.length ≤ b.inner.length) :
    ({ b with inner := Buffer.store b.inner b.wpos bytes } : Buffer).Valid ∧
      (Buffer.store b.inner b.wpos bytes).length = b.inner.length ∧
      ({ b with inner := Buffer.store b.inner b.wpos bytes } : Buffer).content = b.content := by
  have h := hv.push (Nat.zero_le _) hb
  exact ⟨h.1, h.2, content_store_unread hv bytes⟩

theorem writeAll_overflow {ε σ : Type} (hv : b.Valid) {maxCount : Nat} (e : ε)
    (f : List UInt8 → σ → List UInt8 × Except ε Nat × σ) (s : σ)
    (h : b.inner.length - b.availableRead < maxCount) :
    b.writeAll maxCount e f s = (b.makeRoom maxCount, .error e, s) := by
  obtain ⟨-, -, -, hm⟩ := hv.makeRoom maxCount
  have : (b.makeRoom maxCount).availableWrite < maxCount := by omega
  simp [writeAll, this]

theorem writeAll_room {ε σ : Type} (hv : b.Valid) {maxCount : Nat} (e : ε)
    (f : List UInt8 → σ → List UInt8 × Except ε Nat × σ) (s : σ)
    (h : maxCount ≤ b.inner.length - b.availableRead) :
    b.writeAll maxCount e f s =
      match f (window (b.makeRoom maxCount).inner (b.makeRoom maxCount).wpos maxCount) s with
      | (slice, .ok count, s) =>
          let b := b.makeRoom maxCount
          let inner := store b.inner b.wpos slice
          let advanceBy := min count (inner.length - b.wpos)
          ({ b with inner, wpos := b.wpos + advanceBy }, .ok advanceBy, s)
      | (slice, .error e, s) =>
          let b := b.makeRoom maxCount
          ({ b with inner := store b.inner b.wpos slice }, .error e, s) := by
  obtain ⟨-, -, -, hm⟩ := hv.makeRoom maxCount
  have : ¬ (b.makeRoom maxCount).availableWrite < maxCount := by omega
  simp only [writeAll, this, if_false]

theorem Valid.slot_fits (hv : b.Valid) {maxCount : Nat}
    (h : maxCount ≤ b.inner.length - b.availableRead) :
    (b.makeRoom maxCount).wpos + maxCount ≤ (b.makeRoom maxCount).inner.length := by
  obtain ⟨⟨-, hw⟩, -, -, hm⟩ := hv.makeRoom maxCount
  simp only [availableWrite] at hm
  omega

theorem read_eq {ε σ : Type} (b : Buffer) (f : List UInt8 → σ → Except ε Nat × σ) (s : σ) :
    b.read f s =
      match f b.content s with
      | (.ok count, s) =>
          ({ b with rpos := b.rpos + min count b.availableRead }, .ok (min count b.availableRead), s)
      | (.error e, s) => (b, .error e, s) := by
  rw [Buffer.read, window_rpos]

theorem writeAll_preserves {ε σ : Type} {P : σ → Prop} {maxCount : Nat} {e : ε}
    {f : List UInt8 → σ → List UInt8 × Except ε Nat × σ} {s : σ} {r : Buffer × Except ε Nat × σ}
    (h : b.writeAll maxCount e f s = r) (hf : ∀ slice s, P s → P (f slice s).2.2) (hs : P s) :
    P r.2.2 := by
  subst h
  unfold writeAll
  dsimp only
  split
  · exact hs
  · have h := hf (window (b.makeRoom maxCount).inner (b.makeRoom maxCount).wpos maxCount) s hs
    split <;> rename_i heq <;> rw [heq] at h <;> exact h

theorem read_preserves {ε σ : Type} {P : σ → Prop} {f : List UInt8 → σ → Except ε Nat × σ}
    {s : σ} {r : Buffer × Except ε Nat × σ}
    (h : b.read f s = r) (hf : ∀ slice s, P s → P (f slice s).2) (hs : P s) : P r.2.2 := by
  subst h
  have h := hf (window b.inner b.rpos b.availableRead) s hs
  unfold read
  split <;> rename_i heq <;> rw [heq] at h <;> exact h

theorem Valid.consume (hv : b.Valid) {k : Nat} (hk : k ≤ b.availableRead) :
    ({ b with rpos := b.rpos + k } : Buffer).Valid ∧
      ({ b with rpos := b.rpos + k } : Buffer).content = b.content.drop k := by
  obtain ⟨h₁, h₂⟩ := hv
  refine ⟨⟨by dsimp only [availableRead] at hk ⊢; omega, h₂⟩, ?_⟩
  simp [content, List.drop_drop, Nat.add_comm]

end Buffer

end UsbdStorage
