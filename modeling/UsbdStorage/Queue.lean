import UsbdStorage.Buffer

/-!
# The IO buffer is a bounded byte queue

What `Buffer` is for: a first-in first-out queue of bytes whose capacity is the length of
the region it was built over.  `ByteQueue` is that queue, with its bound as a field, and
`Buffer.toQueue` reads the queue a buffer stands for off its cursors.

Every buffer that `new`, `write`, `write_all`, `read` and `clean` build keeps its cursors in
order (`Buffer.Valid`), and on every such buffer each operation acts on the queue as the
queue's own operation (`Buffer.Refines`): `write` pushes what fits, `write_all` either
refuses at once or pushes what its callback wrote, `read` hands the callback the whole
content and pops what it consumed, `clean` empties the queue, and the compaction in
`shift` leaves it alone.  The callbacks of `write_all` are those of the transport: they
leave the slot its length, as a Rust slice must, and report at most what the slot holds.
-/

namespace UsbdStorage

@[ext] structure ByteQueue where
  cap : Nat
  bytes : List UInt8
  bounded : bytes.length ≤ cap

namespace ByteQueue

def room (q : ByteQueue) : Nat := q.cap - q.bytes.length

def push (q : ByteQueue) (d : List UInt8) : ByteQueue :=
  ⟨q.cap, q.bytes ++ d.take q.room, by
    have := q.bounded
    simp only [List.length_append, List.length_take, room]
    omega⟩

def pop (q : ByteQueue) (k : Nat) : ByteQueue :=
  ⟨q.cap, q.bytes.drop k, le_trans (by simp) q.bounded⟩

def clear (q : ByteQueue) : ByteQueue := ⟨q.cap, [], Nat.zero_le _⟩

end ByteQueue

namespace Buffer

variable {b : Buffer}

/-- The queue a buffer stands for: its content, bounded by the length of the region. -/
def toQueue (b : Buffer) : ByteQueue :=
  ⟨b.inner.length, b.content, by
    simp only [content, List.length_drop, List.length_take]
    omega⟩

@[simp] theorem toQueue_cap (b : Buffer) : b.toQueue.cap = b.inner.length := rfl

@[simp] theorem toQueue_bytes (b : Buffer) : b.toQueue.bytes = b.content := rfl

theorem Valid.room (hv : b.Valid) : b.toQueue.room = b.inner.length - b.availableRead := by
  rw [ByteQueue.room, toQueue_cap, toQueue_bytes, hv.length_content]

theorem toQueue_new (inner : List UInt8) : (Buffer.new inner).toQueue = ⟨inner.length, [], Nat.zero_le _⟩ := by
  ext <;> simp [Buffer.new, content]

/-! ## Each operation is the queue's -/

/-- A callback of `write_all` as the transport's are: the slot keeps its length, and the
count it reports is at most the slot's. -/
def SliceCallback {ε σ : Type} (f : List UInt8 → σ → List UInt8 × Except ε Nat × σ) : Prop :=
  ∀ slice s, (f slice s).1.length = slice.length ∧ ∀ k, (f slice s).2.1 = .ok k → k ≤ slice.length

theorem take_min_length (l : List UInt8) (k : Nat) : l.take (min k l.length) = l.take k := by
  rcases le_total k l.length with h | h
  · rw [min_eq_left h]
  · rw [min_eq_right h, List.take_length, List.take_of_length_le h]

theorem drop_min_length (l : List UInt8) (k : Nat) : l.drop (min k l.length) = l.drop k := by
  rcases le_total k l.length with h | h
  · rw [min_eq_left h]
  · rw [min_eq_right h, List.drop_length, List.drop_eq_nil_of_le h]

theorem Valid.toQueue_write (hv : b.Valid) (d : List UInt8) :
    (b.write d).1.toQueue = b.toQueue.push d ∧ (b.write d).2 = min d.length b.toQueue.room := by
  obtain ⟨hk, -, hl, hc⟩ := hv.write d
  rw [hv.room, min_comm]
  refine ⟨ByteQueue.ext hl ?_, hk⟩
  show (b.write d).1.content = b.content ++ d.take b.toQueue.room
  rw [hc, hk, hv.room, take_min_length]

theorem Valid.toQueue_makeRoom (hv : b.Valid) (n : Nat) : (b.makeRoom n).toQueue = b.toQueue := by
  obtain ⟨-, hl, hc, -⟩ := hv.makeRoom n
  exact ByteQueue.ext hl hc

theorem Valid.toQueue_shift (hv : b.Valid) : b.shift.toQueue = b.toQueue := by
  obtain ⟨-, hl, hc, -⟩ := hv.shift
  exact ByteQueue.ext hl hc

theorem toQueue_clean (b : Buffer) : b.clean.toQueue = b.toQueue.clear :=
  ByteQueue.ext rfl (content_clean b)

theorem Valid.toQueue_writeAll_full {ε σ : Type} (hv : b.Valid) {m : Nat} (e : ε)
    (f : List UInt8 → σ → List UInt8 × Except ε Nat × σ) (s : σ) (h : b.toQueue.room < m) :
    (b.writeAll m e f s).1.toQueue = b.toQueue ∧ (b.writeAll m e f s).2 = (.error e, s) := by
  rw [hv.room] at h
  rw [writeAll_overflow hv e f s h]
  exact ⟨hv.toQueue_makeRoom m, rfl⟩

theorem Valid.toQueue_writeAll {ε σ : Type} (hv : b.Valid) {m : Nat} (e : ε)
    (f : List UInt8 → σ → List UInt8 × Except ε Nat × σ) (s : σ) (h : m ≤ b.toQueue.room) :
    ∃ slot : List UInt8, slot.length = m ∧
      ∀ slice r s', f slot s = (slice, r, s') → slice.length = m →
        (∀ k, r = .ok k → k ≤ m →
          (b.writeAll m e f s).1.toQueue = b.toQueue.push (slice.take k) ∧
            (b.writeAll m e f s).2 = (.ok k, s')) ∧
        (∀ e', r = .error e' →
          (b.writeAll m e f s).1.toQueue = b.toQueue ∧ (b.writeAll m e f s).2 = (.error e', s')) := by
  rw [hv.room] at h
  obtain ⟨hv₀, hl₀, hc₀, -⟩ := hv.makeRoom m
  have hfit := hv.slot_fits h
  refine ⟨_, length_window hfit, fun slice r s' hf hsl => ?_⟩
  rw [writeAll_room hv e f s h, hf]
  refine ⟨fun k hr hk => ?_, fun e' hr => ?_⟩
  · subst hr
    dsimp only
    obtain ⟨hmin, -, hl, hc⟩ := hv₀.fill slice k (by omega) (by omega)
    rw [hmin] at hc ⊢
    refine ⟨ByteQueue.ext (hl.trans hl₀) ?_, rfl⟩
    show _ = b.content ++ (slice.take k).take b.toQueue.room
    rw [toQueue_bytes, hc, hc₀, hv.room, List.take_take, min_eq_right (by omega)]
  · subst hr
    obtain ⟨-, hl, hc⟩ := hv₀.fill_error slice (by omega)
    exact ⟨ByteQueue.ext (hl.trans hl₀) (hc.trans hc₀), rfl⟩

theorem Valid.toQueue_read {ε σ : Type} (hv : b.Valid) (f : List UInt8 → σ → Except ε Nat × σ)
    (s : σ) (r : Except ε Nat) (s' : σ) (hf : f b.toQueue.bytes s = (r, s')) :
    (∀ k, r = .ok k →
      (b.read f s).1.toQueue = b.toQueue.pop k ∧
        (b.read f s).2 = (.ok (min k b.toQueue.bytes.length), s')) ∧
    (∀ e, r = .error e → (b.read f s).1.toQueue = b.toQueue ∧ (b.read f s).2 = (.error e, s')) := by
  rw [read_eq, ← toQueue_bytes, hf, toQueue_bytes, hv.length_content]
  refine ⟨fun k hr => ?_, fun e hr => ?_⟩
  · subst hr
    refine ⟨ByteQueue.ext rfl ?_, rfl⟩
    rw [toQueue_bytes, (hv.consume (min_le_right _ _)).2, ← hv.length_content, drop_min_length]
    rfl
  · subst hr
    exact ⟨rfl, rfl⟩

/-- What each operation does to the queue `b` stands for. -/
structure Refines (b : Buffer) : Prop where
  write : ∀ d, (b.write d).1.toQueue = b.toQueue.push d ∧ (b.write d).2 = min d.length b.toQueue.room
  writeAll_full : ∀ {ε σ : Type} (m : Nat) (e : ε)
    (f : List UInt8 → σ → List UInt8 × Except ε Nat × σ) (s : σ), b.toQueue.room < m →
      (b.writeAll m e f s).1.toQueue = b.toQueue ∧ (b.writeAll m e f s).2 = (.error e, s)
  writeAll : ∀ {ε σ : Type} (m : Nat) (e : ε)
    (f : List UInt8 → σ → List UInt8 × Except ε Nat × σ) (s : σ), m ≤ b.toQueue.room →
      ∃ slot : List UInt8, slot.length = m ∧
        ∀ slice r s', f slot s = (slice, r, s') → slice.length = m →
          (∀ k, r = .ok k → k ≤ m →
            (b.writeAll m e f s).1.toQueue = b.toQueue.push (slice.take k) ∧
              (b.writeAll m e f s).2 = (.ok k, s')) ∧
          (∀ e', r = .error e' →
            (b.writeAll m e f s).1.toQueue = b.toQueue ∧ (b.writeAll m e f s).2 = (.error e', s'))
  read : ∀ {ε σ : Type} (f : List UInt8 → σ → Except ε Nat × σ) (s : σ) r s',
    f b.toQueue.bytes s = (r, s') →
      (∀ k, r = .ok k →
        (b.read f s).1.toQueue = b.toQueue.pop k ∧
          (b.read f s).2 = (.ok (min k b.toQueue.bytes.length), s')) ∧
      (∀ e, r = .error e → (b.read f s).1.toQueue = b.toQueue ∧ (b.read f s).2 = (.error e, s'))
  clean : b.clean.toQueue = b.toQueue.clear
  shift : b.shift.toQueue = b.toQueue

theorem Valid.refines (hv : b.Valid) : b.Refines :=
  ⟨hv.toQueue_write, fun _ e f s => hv.toQueue_writeAll_full e f s,
    fun _ e f s => hv.toQueue_writeAll e f s, fun f s => hv.toQueue_read f s, toQueue_clean b,
    hv.toQueue_shift⟩

/-! ## Every buffer the operations build -/

/-- The buffers a sequence of `new`, `write`, `write_all`, `read` and `clean` builds. -/
inductive Reachable : Buffer → Prop where
  | new (inner : List UInt8) : Reachable (Buffer.new inner)
  | write {b : Buffer} (d : List UInt8) : Reachable b → Reachable (b.write d).1
  | writeAll {b : Buffer} {ε σ : Type} (m : Nat) (e : ε)
      (f : List UInt8 → σ → List UInt8 × Except ε Nat × σ) (s : σ) :
      SliceCallback f → Reachable b → Reachable (b.writeAll m e f s).1
  | read {b : Buffer} {ε σ : Type} (f : List UInt8 → σ → Except ε Nat × σ) (s : σ) :
      Reachable b → Reachable (b.read f s).1
  | clean {b : Buffer} : Reachable b → Reachable b.clean

theorem Valid.writeAll {ε σ : Type} (hv : b.Valid) (m : Nat) (e : ε)
    {f : List UInt8 → σ → List UInt8 × Except ε Nat × σ} (hf : SliceCallback f) (s : σ) :
    (b.writeAll m e f s).1.Valid := by
  by_cases h : b.inner.length - b.availableRead < m
  · rw [writeAll_overflow hv e f s h]
    exact (hv.makeRoom m).1
  have hroom : m ≤ b.inner.length - b.availableRead := by omega
  have hv₀ := (hv.makeRoom m).1
  have hfit := hv.slot_fits hroom
  rw [writeAll_room hv e f s hroom]
  have hsl := (hf (window (b.makeRoom m).inner (b.makeRoom m).wpos m) s).1
  rw [length_window hfit] at hsl
  generalize f _ s = r at hsl
  obtain ⟨slice, _ | count, s'⟩ := r
  · exact (hv₀.fill_error slice (by simp only at hsl; omega)).1
  · simp only at hsl
    have hl := length_store (by omega : (b.makeRoom m).wpos + slice.length ≤ (b.makeRoom m).inner.length)
    refine ⟨?_, ?_⟩ <;> simp only [hl] <;> have := hv₀.1 <;> omega

theorem Valid.read {ε σ : Type} (hv : b.Valid) (f : List UInt8 → σ → Except ε Nat × σ) (s : σ) :
    (b.read f s).1.Valid := by
  rw [read_eq]
  split
  · exact (hv.consume (min_le_right _ _)).1
  · exact hv

theorem Reachable.valid (h : Reachable b) : b.Valid := by
  induction h with
  | new inner => exact ⟨Nat.zero_le _, Nat.zero_le _⟩
  | write d _ ih => exact (ih.write d).2.1
  | writeAll m e f s hf _ ih => exact ih.writeAll m e hf s
  | read f s _ ih => exact ih.read f s
  | clean _ => exact valid_clean _

theorem buffer_refines_queue (h : Reachable b) : b.Valid ∧ b.Refines :=
  ⟨h.valid, h.valid.refines⟩

def fiveInTwoOut : Buffer :=
  ((Buffer.new (List.replicate 8 0)).write [1, 2, 3, 4, 5]).1.read
    (fun _ (_ : Unit) => ((.ok 2 : Except Unit Nat), ())) () |>.1

theorem fiveInTwoOut_refines :
    Reachable fiveInTwoOut ∧ fiveInTwoOut.toQueue.bytes = [3, 4, 5] ∧
      fiveInTwoOut.Valid ∧ fiveInTwoOut.Refines :=
  have h : Reachable fiveInTwoOut := ((Reachable.new _).write _).read _ ()
  ⟨h, by decide, buffer_refines_queue h⟩

end Buffer

end UsbdStorage
