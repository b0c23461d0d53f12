import ForeignCall.Proofs.OwnBuffers

/-!
# Buffers without a terminator

Native code may write what it likes into the buffer of a text, its terminator included. Reading the
text has to stop all the same. It looks for the first NUL, and where there is none it gives up the
last byte for one. So reading never leaves the buffer, and after it the buffer holds a NUL, for
good: whatever is read later is the same text.

## Indices

The text and the terminator of a buffer are defined on its list of bytes, where nothing can go
wrong. A machine reads with indices: the one of the first NUL, the one of the last byte, and the end
of the bytes that are decoded. `Buffer.readIndexed?` does this with every index checked. It fails on
a buffer without any bytes, which has no last one, and on no other (`Buffer.readIndexed?_eq`). A
buffer that was made for a text has a byte for the terminator at least, and keeps its length through
all that is done to it.

## Main definitions

* `Buffer.Access`, `Buffer.accessAll` — bytes that are written, and texts that are read in between
* `Buffer.readIndexed?` — reading with indices that are checked
* `Buffer.ReadsWithin` — a buffer that can be read, again and again

## Main results

* `Buffer.readIndexed?_eq` — reading with indices is reading
* `Buffer.length_accessAll` — a buffer keeps its length
* `Buffer.readsWithin_of_ne_nil` — all that matters is that there is a byte
* `Buffer.accessAll_readsWithin` — the buffer of a text can be read after any number of writes
-/

namespace ForeignCall

namespace Bytes

/-- The first NUL stands behind the text. -/
theorem findIdx?_zero (bs : List UInt8) :
    bs.findIdx? (· == 0) = if 0 ∈ bs then some (textBefore bs).length else none := by
  induction bs with
  | nil => rfl
  | cons b bs ih =>
    rw [List.findIdx?_cons, ih]
    by_cases hb : b = 0
    · simp [textBefore, hb]
    · by_cases hmem : 0 ∈ bs
      · simp [textBefore, hb, hmem]
      · simp [hb, Ne.symm hb, hmem]

theorem length_textBefore_le (bs : List UInt8) : (textBefore bs).length ≤ bs.length :=
  (List.takeWhile_prefix _).length_le

theorem take_length_textBefore (bs : List UInt8) :
    bs.take (textBefore bs).length = textBefore bs :=
  (List.prefix_iff_eq_take.mp (List.takeWhile_prefix _)).symm

/-- The bytes in front of an index that is not behind the end. -/
def front? (bs : List UInt8) (stop : ℕ) : Option (List UInt8) :=
  if stop ≤ bs.length then some (bs.take stop) else none

/-- The bytes with another one at an index that is inside. -/
def put? (bs : List UInt8) (index : ℕ) (b : UInt8) : Option (List UInt8) :=
  if index < bs.length then some (bs.set index b) else none

end Bytes

namespace Buffer

variable {b : Buffer}

/-! ## What is done to a buffer -/

/-- One thing that is done to a buffer. -/
inductive Access where
  /-- Bytes are written from an offset on. -/
  | write (offset : ℕ) (new : List UInt8)
  /-- The text is read. -/
  | read

/-- The buffer afterwards. -/
def access (b : Buffer) : Access → Buffer
  | .write offset new => b.write offset new
  | .read => b.terminate

/-- The buffer after one thing after the other. -/
def accessAll (b : Buffer) (accesses : List Access) : Buffer :=
  accesses.foldl access b

/-- Reads the text by indices, each of which is checked. The buffer comes back with the text. -/
def readIndexed? (b : Buffer) : Option (String × Buffer) :=
  match b.bytes.findIdx? (· == 0) with
  | some stop => (Bytes.front? b.bytes stop).map fun front => (Utf8.toText front, b)
  | none =>
    let last := b.bytes.length - 1
    (Bytes.put? b.bytes last 0).bind fun bytes =>
      (Bytes.front? bytes last).map fun front => (Utf8.toText front, { b with bytes })

/-! ## One read -/

theorem terminate_of_mem (h : 0 ∈ b.bytes) : b.terminate = b := if_pos h

theorem readText_of_mem (h : 0 ∈ b.bytes) :
    b.readText = Utf8.toText (Bytes.textBefore b.bytes) := by
  rw [readText_eq, if_pos h]

/-- Without a NUL the last byte is given up for one. -/
theorem terminate_of_notMem {front : List UInt8} {last : UInt8} (hb : b.bytes = front ++ [last])
    (h : 0 ∉ b.bytes) : b.terminate = { b with bytes := front ++ [0] } := by
  rw [terminate, if_neg h, hb, List.dropLast_concat]

theorem readText_of_notMem {front : List UInt8} {last : UInt8} (hb : b.bytes = front ++ [last])
    (h : 0 ∉ b.bytes) : b.readText = Utf8.toText front := by
  rw [readText_eq, if_neg h, hb, List.dropLast_concat]

/-- **Reading with indices is reading**, and no index is outside, as long as there is a byte. -/
theorem readIndexed?_eq (h : b.bytes ≠ []) : b.readIndexed? = some (b.readText, b.terminate) := by
  rw [readIndexed?, Bytes.findIdx?_zero]
  by_cases hzero : 0 ∈ b.bytes
  · rw [if_pos hzero]
    simp only [Bytes.front?, if_pos (Bytes.length_textBefore_le b.bytes),
      Bytes.take_length_textBefore, Option.map_some, readText_of_mem hzero, terminate_of_mem hzero]
  · obtain ⟨front, last, hb⟩ := (List.eq_nil_or_concat' b.bytes).resolve_left h
    rw [if_neg hzero, readText_of_notMem hb hzero, terminate_of_notMem hb hzero]
    simp [Bytes.put?, Bytes.front?, hb]

theorem length_terminate (h : b.bytes ≠ []) : b.terminate.bytes.length = b.bytes.length := by
  by_cases hzero : 0 ∈ b.bytes
  · rw [terminate_of_mem hzero]
  · obtain ⟨front, last, hb⟩ := (List.eq_nil_or_concat' b.bytes).resolve_left h
    simp [terminate_of_notMem hb hzero, hb]

/-- A terminated buffer is not changed any more. -/
@[simp] theorem terminate_terminate (b : Buffer) : b.terminate.terminate = b.terminate :=
  terminate_of_mem b.mem_zero_terminate

@[simp] theorem readText_terminate (b : Buffer) : b.terminate.readText = b.readText := by
  rw [readText, terminate_terminate, readText]

/-- What a read changes is the last byte, and only when there is no NUL. -/
theorem of_getElem?_terminate_ne {i : ℕ} (h : b.bytes ≠ [])
    (hi : b.terminate.bytes[i]? ≠ b.bytes[i]?) : i + 1 = b.bytes.length ∧ 0 ∉ b.bytes := by
  by_cases hzero : 0 ∈ b.bytes
  · exact absurd (by rw [terminate_of_mem hzero]) hi
  · obtain ⟨front, last, hb⟩ := (List.eq_nil_or_concat' b.bytes).resolve_left h
    rw [terminate_of_notMem hb hzero, hb] at hi
    refine ⟨?_, hzero⟩
    rw [hb, List.length_append, List.length_singleton]
    rcases Nat.lt_trichotomy i front.length with hlt | heq | hgt
    · exact absurd (by rw [List.getElem?_append_left hlt, List.getElem?_append_left hlt]) hi
    · rw [heq]
    · refine absurd ?_ hi
      rw [List.getElem?_eq_none (by simp; omega), List.getElem?_eq_none (by simp; omega)]

/-! ## Many of them -/

/-- Nothing that is done to a buffer changes its length. -/
theorem length_access (h : b.bytes ≠ []) (x : Access) :
    (b.access x).bytes.length = b.bytes.length := by
  cases x with
  | write offset new => exact length_write b offset new
  | read => exact length_terminate h

/-- **A buffer keeps its length**, by induction on what is done to it. -/
theorem length_accessAll (h : b.bytes ≠ []) (accesses : List Access) :
    (b.accessAll accesses).bytes.length = b.bytes.length := by
  induction accesses generalizing b with
  | nil => rfl
  | cons x accesses ih =>
    have hstep := length_access h x
    have hne : (b.access x).bytes ≠ [] := by
      rw [← List.length_pos_iff, hstep, List.length_pos_iff]
      exact h
    exact (ih hne).trans hstep

theorem accessAll_replicate_read (b : Buffer) (n : ℕ) :
    b.terminate.accessAll (List.replicate n .read) = b.terminate := by
  induction n with
  | zero => rfl
  | succ n ih =>
    rw [List.replicate_succ, accessAll, List.foldl_cons, access, terminate_terminate]
    exact ih

/-- A buffer that can be read, again and again. -/
structure ReadsWithin (b : Buffer) : Prop where
  /-- No index is outside of the buffer. -/
  indexed : b.readIndexed? = some (b.readText, b.terminate)
  /-- The text ends in front of the first NUL, and nothing is changed. -/
  ended : ∀ front rest, b.bytes = front ++ 0 :: rest → 0 ∉ front →
    b.readText = Utf8.toText front ∧ b.terminate = b
  /-- Without a NUL the text is all but the last byte, which becomes one. -/
  unended : 0 ∉ b.bytes → ∃ front last, b.bytes = front ++ [last] ∧
    b.readText = Utf8.toText front ∧ b.terminate = { b with bytes := front ++ [0] }
  /-- At most the last byte is changed, and only if there is no NUL. -/
  changed : ∀ i, b.terminate.bytes[i]? ≠ b.bytes[i]? → i + 1 = b.bytes.length ∧ 0 ∉ b.bytes
  length : b.terminate.bytes.length = b.bytes.length
  nul : 0 ∈ b.terminate.bytes
  /-- After any number of further reads the next one finds the same text and changes nothing. -/
  again : ∀ n, (b.terminate.accessAll (List.replicate n .read)).readIndexed? =
    some (b.readText, b.terminate)

/-- **All that matters is that there is a byte.** -/
theorem readsWithin_of_ne_nil (h : b.bytes ≠ []) : b.ReadsWithin where
  indexed := readIndexed?_eq h
  ended front rest hb hfront := by
    have hzero : 0 ∈ b.bytes := by simp [hb]
    refine ⟨?_, terminate_of_mem hzero⟩
    rw [readText_of_mem hzero, hb, Bytes.textBefore_append_zero hfront]
  unended hzero := by
    obtain ⟨front, last, hb⟩ := (List.eq_nil_or_concat' b.bytes).resolve_left h
    exact ⟨front, last, hb, readText_of_notMem hb hzero, terminate_of_notMem hb hzero⟩
  changed i hi := of_getElem?_terminate_ne h hi
  length := length_terminate h
  nul := b.mem_zero_terminate
  again n := by
    have hne : b.terminate.bytes ≠ [] := List.ne_nil_of_mem b.mem_zero_terminate
    rw [accessAll_replicate_read, readIndexed?_eq hne, readText_terminate, terminate_terminate]

/-- **The buffer of a text can be read after any number of writes.** Make a buffer for a text, of
any capacity, write any bytes anywhere into it, and read it in between or not. It has the length
that it was made with, and reading it stays within: the text is the reading of the bytes in front of
the first NUL, or of all bytes but the last, which is the only one that may be changed, into a NUL
that was missing. From then on each read finds the same text and changes nothing. A new buffer for a
text without a NUL character gives the text back and is left as it is. -/
theorem accessAll_readsWithin (start : UInt64) (text : String) (capacity : ℕ)
    (accesses : List Access) :
    let fresh := ofText start text capacity
    (fresh.accessAll accesses).bytes.length = max capacity (Utf8.size text + 1) ∧
      (fresh.accessAll accesses).ReadsWithin ∧
      ('\x00' ∉ text.toList → fresh.readText = text ∧ fresh.terminate = fresh) := by
  intro fresh
  have hzero : 0 ∈ fresh.bytes := zero_mem_ofText start text capacity
  have hlength := length_accessAll (List.ne_nil_of_mem hzero) accesses
  have hne : (fresh.accessAll accesses).bytes ≠ [] := by
    rw [← List.length_pos_iff, hlength]
    exact List.length_pos_of_mem hzero
  exact ⟨hlength.trans (length_ofText start text capacity), readsWithin_of_ne_nil hne,
    fun h => ⟨readText_ofText_of_notMem h, terminate_of_mem hzero⟩⟩

/-- A character of two bytes is written into a buffer, the second one over the terminator. The NUL
that is missing then takes its place, and the first byte is no text. -/
theorem accessAll_readsWithin_cut :
    let fresh := ofText 0x10000 "ab" 4
    let b := fresh.accessAll [.write 2 [0xC3], .read, .write 3 [0xA9]]
    b.bytes = [0x61, 0x62, 0xC3, 0xA9] ∧ '\x00' ∉ "ab".toList ∧ fresh.readText = "ab" ∧
      b.readIndexed? = some ("ab\uFFFD", ⟨0x10000, [0x61, 0x62, 0xC3, 0]⟩) ∧
      (b.terminate.accessAll [.read, .read]).readIndexed? =
        some ("ab\uFFFD", ⟨0x10000, [0x61, 0x62, 0xC3, 0]⟩) := by
  intro fresh b
  have hplain : '\x00' ∉ "ab".toList := by decide
  have htext : b.readText = "ab\uFFFD" := by decide +kernel
  have hbytes : b.terminate = ⟨0x10000, [0x61, 0x62, 0xC3, 0]⟩ := by decide +kernel
  obtain ⟨-, hreads, hfresh⟩ := accessAll_readsWithin 0x10000 "ab" 4
    [.write 2 [0xC3], .read, .write 3 [0xA9]]
  refine ⟨by decide +kernel, hplain, (hfresh hplain).1, ?_, ?_⟩
  · rw [← htext, ← hbytes]
    exact hreads.indexed
  · rw [← htext]
    exact (hreads.again 2).trans (by rw [← hbytes])

end Buffer

end ForeignCall
