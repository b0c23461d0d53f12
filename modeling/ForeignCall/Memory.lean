import ForeignCall.Bytes
import ForeignCall.Trap

/-!
# Native memory

The memory that native code and the reader of its results can see: blocks of bytes at addresses. An
access runs on where another block follows without a gap, whether it is a number of bytes, the NUL
behind a text, or bytes to be written. It fails at the first address that has no memory or, when
something is written, memory that is read-only. Such a failure raises a signal.

A block can be lost: a file was mapped there and became shorter. Its addresses are still taken, but
touching them is a bus error.

## Main definitions

* `Backing`, `Block`, `Memory`;
* `AccessFault`: how an access fails, and the signal that it raises;
* `Memory.reach`: the bytes from an address on;
* `Memory.load?`, `Memory.text?`: a number of them, and those in front of the first NUL;
* `Memory.load`, `Memory.text`, `Memory.store`: the accesses of native code.

## Main results

* `AccessFault.signal_trapped`: a failed access raises a signal that is trapped;
* `Memory.load?_of_le`: fewer bytes of a stretch are its first ones;
* `Memory.text?_of_mem`, `Memory.text?_of_notMem`: a text that ends in its block, and one that runs
  on;
* `Memory.exists_of_fill?`: what writing to one block does.
-/

namespace ForeignCall

/-- What is behind the addresses of a block. -/
inductive Backing where
  | writable
  | readOnly
  /-- Nothing any more. -/
  | lost
  deriving DecidableEq, Repr

/-- Memory that was not lost, by whether it can be written. -/
def Backing.ofFlag (isWritable : Bool) : Backing :=
  if isWritable then .writable else .readOnly

instance : Coe Bool Backing := ⟨Backing.ofFlag⟩

/-- A stretch of memory. -/
structure Block where
  base : UInt64
  bytes : List UInt8
  backing : Backing := .writable
  deriving DecidableEq, Repr

namespace Block

/-- An address is one of those that a block takes. -/
def Covers (b : Block) (address : UInt64) : Prop :=
  b.base.toNat ≤ address.toNat ∧ address.toNat < b.base.toNat + b.bytes.length

instance (b : Block) (address : UInt64) : Decidable (b.Covers address) :=
  inferInstanceAs (Decidable (_ ∧ _))

/-- The offset of an address inside a block, unless the block is lost. -/
def offset? (b : Block) (address : UInt64) : Option Nat :=
  if b.backing ≠ .lost ∧ b.Covers address then some (address.toNat - b.base.toNat) else none

end Block

/-- How an access to memory fails. -/
inductive AccessFault where
  /-- There is no memory, or it cannot be written. -/
  | denied
  /-- The memory was lost. -/
  | lost
  deriving DecidableEq, Repr

namespace AccessFault

/-- The signal of a failed access. -/
def signal : AccessFault → Signal
  | .denied => Signal.segmentation
  | .lost => Signal.busError

/-- A failed access raises a signal that is trapped. -/
theorem signal_trapped (f : AccessFault) : f.signal ∈ Signal.trapped := by
  cases f <;> decide

theorem signal_ne_zero (f : AccessFault) : f.signal ≠ 0 := by
  cases f <;> decide

end AccessFault

/-- The blocks of memory. Where two of them cover an address the earlier one counts, unless it is
lost. -/
abbrev Memory := List Block

namespace Memory

/-- The bytes from an address to the end of its block. -/
def tail? (m : Memory) (address : UInt64) : Option (List UInt8) :=
  m.findSome? fun b => (b.offset? address).map b.bytes.drop

/-- The bytes from an address on, through at most `n` blocks of which each begins where the one
before it ends. -/
def reach (m : Memory) : Nat → UInt64 → List UInt8
  | 0, _ => []
  | n + 1, address =>
    match m.tail? address with
    | some bs => bs ++ m.reach n (address + UInt64.ofNat bs.length)
    | none => []

/-- The `n` bytes from an address on. -/
def load? (m : Memory) (address : UInt64) (n : Nat) : Option (List UInt8) :=
  let bs := m.reach m.length address
  if n ≤ bs.length then some (bs.take n) else none

/-- The bytes from an address up to the first NUL within reach. -/
def text? (m : Memory) (address : UInt64) : Option (List UInt8) :=
  let bs := m.reach m.length address
  if 0 ∈ bs then some (Bytes.textBefore bs) else none

/-- How an access fails at an address. -/
def faultAt (m : Memory) (address : UInt64) : AccessFault :=
  if ∃ b ∈ m, b.backing = .lost ∧ b.Covers address then .lost else .denied

/-- What was read from an address on, or else the failure at the first address behind all that can
be read there. -/
def orFault {α : Type} (m : Memory) (address : UInt64) : Option α → Except AccessFault α
  | some a => .ok a
  | none => .error (m.faultAt (address + UInt64.ofNat (m.reach m.length address).length))

/-- Reads a number of bytes. -/
def load (m : Memory) (address : UInt64) (n : Nat) : Except AccessFault (List UInt8) :=
  m.orFault address (m.load? address n)

/-- Reads the bytes in front of the next NUL. -/
def text (m : Memory) (address : UInt64) : Except AccessFault (List UInt8) :=
  m.orFault address (m.text? address)

/-- Memory with bytes written at an address, as many as the block there has room for, and how many
these are. -/
def fill? : Memory → UInt64 → List UInt8 → Option (Nat × Memory)
  | [], _, _ => none
  | b :: m, address, new =>
    match b.offset? address with
    | some offset =>
      if b.backing = .writable then
        some (min new.length (b.bytes.length - offset),
          { b with bytes := Bytes.overwrite b.bytes offset new } :: m)
      else none
    | none => (fill? m address new).map fun (n, m) => (n, b :: m)

/-- Writes bytes from an address on, into at most `n` blocks of which each begins where the one
before it ends. -/
def storeFrom : Nat → Memory → UInt64 → List UInt8 → Except AccessFault Memory
  | _, m, _, [] => .ok m
  | 0, m, address, _ :: _ => .error (m.faultAt address)
  | n + 1, m, address, new =>
    match m.fill? address new with
    | some (written, m') =>
      storeFrom n m' (address + UInt64.ofNat written) (new.drop written)
    | none => .error (m.faultAt address)

/-- Writes bytes. -/
def store (m : Memory) (address : UInt64) (new : List UInt8) : Except AccessFault Memory :=
  m.storeFrom m.length address new

theorem orFault_eq_ok_iff {α : Type} {m : Memory} {address : UInt64} {o : Option α} {a : α} :
    m.orFault address o = .ok a ↔ o = some a := by
  cases o <;> simp [orFault]

/-- As many bytes are read as were asked for. -/
theorem length_of_load? {m : Memory} {address : UInt64} {n : Nat} {found : List UInt8}
    (h : m.load? address n = some found) : found.length = n := by
  simp only [load?, Option.ite_none_right_eq_some, Option.some.injEq] at h
  rw [← h.2, List.length_take, Nat.min_eq_left h.1]

/-- Fewer bytes of the same stretch are its first ones. -/
theorem load?_of_le {m : Memory} {address : UInt64} {k n : Nat} {found : List UInt8} (hk : k ≤ n)
    (h : m.load? address n = some found) : m.load? address k = some (found.take k) := by
  simp only [load?, Option.ite_none_right_eq_some, Option.some.injEq] at h ⊢
  rw [← h.2, List.take_take, Nat.min_eq_left hk]
  exact ⟨Nat.le_trans hk h.1, rfl⟩

theorem reach_succ_of_tail? {m : Memory} {address : UInt64} {bs : List UInt8}
    (h : m.tail? address = some bs) (n : Nat) :
    m.reach (n + 1) address = bs ++ m.reach n (address + UInt64.ofNat bs.length) := by
  rw [reach, h]

/-- An address in memory lies in one of its blocks. -/
theorem length_pos_of_tail? {m : Memory} {address : UInt64} {bs : List UInt8}
    (h : m.tail? address = some bs) : 0 < m.length := by
  cases m with
  | nil => simp [tail?] at h
  | cons b m => simp

/-- A text that ends in its block is found there. -/
theorem text?_of_mem {m : Memory} {address : UInt64} {bs : List UInt8}
    (h : m.tail? address = some bs) (hzero : 0 ∈ bs) :
    m.text? address = some (Bytes.textBefore bs) := by
  obtain ⟨n, hn⟩ := Nat.exists_eq_add_one.mpr (length_pos_of_tail? h)
  rw [text?, hn, reach_succ_of_tail? h]
  simp only [Bytes.textBefore_append_of_mem hzero]
  rw [if_pos (List.mem_append_left _ hzero)]

/-- A text that does not end in its block runs on through what follows there. -/
theorem text?_of_notMem {m : Memory} {address : UInt64} {bs : List UInt8}
    (h : m.tail? address = some bs) (hzero : 0 ∉ bs) :
    m.text? address =
      let more := m.reach (m.length - 1) (address + UInt64.ofNat bs.length)
      if 0 ∈ more then some (bs ++ Bytes.textBefore more) else none := by
  obtain ⟨n, hn⟩ := Nat.exists_eq_add_one.mpr (length_pos_of_tail? h)
  rw [text?, hn, reach_succ_of_tail? h]
  simp only [Bytes.textBefore_append_of_notMem hzero, List.mem_append, hzero, false_or,
    Nat.add_sub_cancel]

/-- What is written goes into the first block that has the address, as far as that block reaches. -/
theorem exists_of_fill? {m m' : Memory} {address : UInt64} {new : List UInt8} {n : Nat}
    (h : m.fill? address new = some (n, m')) :
    ∃ before b after offset, m = before ++ b :: after ∧
      (∀ c ∈ before, c.offset? address = none) ∧ b.offset? address = some offset ∧
      b.backing = .writable ∧ n = min new.length (b.bytes.length - offset) ∧
      m' = before ++ { b with bytes := Bytes.overwrite b.bytes offset new } :: after := by
  induction m generalizing m' n with
  | nil => exact absurd h (by simp [fill?])
  | cons c m ih =>
    simp only [fill?] at h
    split at h
    · next offset hoffset =>
      simp only [Option.ite_none_right_eq_some, Option.some.injEq, Prod.mk.injEq] at h
      obtain ⟨hwritable, rfl, rfl⟩ := h
      exact ⟨[], c, m, offset, rfl, by simp, hoffset, hwritable, rfl, rfl⟩
    · next hnone =>
      obtain ⟨⟨k, m₁⟩, hm₁, heq⟩ := Option.map_eq_some_iff.mp h
      obtain ⟨rfl, rfl⟩ := Prod.mk.inj heq
      obtain ⟨before, b, after, offset, rfl, hbefore, hb⟩ := ih hm₁
      obtain ⟨hoffset, hwritable, hk, rfl⟩ := hb
      exact ⟨c :: before, b, after, offset, rfl, List.forall_mem_cons.mpr ⟨hnone, hbefore⟩,
        hoffset, hwritable, hk, rfl⟩

end Memory

end ForeignCall
