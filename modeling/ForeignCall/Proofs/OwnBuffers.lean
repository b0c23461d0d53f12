import ForeignCall.Proofs.Decoding
import ForeignCall.Proofs.Encoding
import ForeignCall.Proofs.Isolation

/-!
# Texts in the buffers of their arguments

After a call the slot of a text argument may lead into the buffer of the argument: to its start, or
to a later byte when native code moved the pointer forward. The text that is read there is that up
to the first NUL. Where no NUL follows, the two cases differ. From its start the buffer is read with
its last byte as the terminator. A pointer that was moved is one to a text like any other, and
nothing is known of the end of the buffer: the search for the NUL goes on in the memory behind it.

## Contents and places

The plan that is read back and the memory that it is read from are two views of the same bytes.
`Plan.place_reload` says that one gives the other: the storage of the plan, placed in memory again,
is the memory that it was read from. So what is known of the places of a plan's storage is known of
memory after the call.

Blocks do not overlap. Memory that was given out by an allocator is like this, and the storage of a
call is as long as no buffer takes more than `2 ^ 32` bytes (`Plan.apart_place`).

## Main definitions

* `Memory.Apart` — blocks that do not overlap

## Main results

* `Plan.place_reload` — the storage of a plan that was read back is the memory it was read from
* `Memory.tail?_of_mem`, `tail?_memoryAt` — a buffer is found at its addresses, also when others
  have been given a terminator
* `textOutput?_start`, `textOutput?_moved` — the text that is read, bounded and on into memory
* `finish_own_buffer` — the text of an argument whose slot leads into its buffer
-/

namespace ForeignCall

/-- What is written in front of a byte does not reach it. -/
theorem Bytes.drop_overwrite {old new : List UInt8} {offset k : ℕ} (hoffset : offset ≤ old.length)
    (hk : offset + new.length ≤ k) : (overwrite old offset new).drop k = old.drop k := by
  have hfront : (old.take offset ++ new.take (old.length - offset)).length =
      offset + min new.length (old.length - offset) := by
    rw [List.length_append, List.length_take, List.length_take]
    omega
  rw [overwrite, List.drop_append, hfront, List.drop_eq_nil_of_le (by omega), List.nil_append,
    List.drop_drop]
  rcases Nat.le_total (offset + new.length) old.length with hfits | hends
  · congr 1
    omega
  · rw [List.drop_eq_nil_of_le (by omega), List.drop_eq_nil_of_le (by omega)]

/-! ## Blocks that do not overlap -/

/-- The first address behind a block. -/
def Block.stop (b : Block) : ℕ := b.base.toNat + b.bytes.length

/-- Two blocks do not overlap. -/
def Block.Apart (b c : Block) : Prop := b.stop ≤ c.base.toNat ∨ c.stop ≤ b.base.toNat

/-- Blocks that end below the last address and do not overlap. -/
structure Memory.Apart (m : Memory) : Prop where
  inside : ∀ b ∈ m, b.stop ≤ 2 ^ 64
  disjoint : m.Pairwise Block.Apart

namespace Memory

variable {m m' rest : Memory} {b : Block} {address : UInt64} {bs new : List UInt8} {k : ℕ}

/-- Whether blocks overlap is a matter of their layout. -/
theorem Apart.of_layout_eq (h : Apart m) (hlayout : m.layout = m'.layout) : Apart m' := by
  have hinside : ∀ l ∈ m.layout, l.1.toNat + l.2.1 ≤ 2 ^ 64 := by
    simp only [layout, List.mem_map]
    rintro l ⟨b, hb, rfl⟩
    exact h.inside b hb
  have hdisjoint : m.layout.Pairwise fun l l' =>
      l.1.toNat + l.2.1 ≤ l'.1.toNat ∨ l'.1.toNat + l'.2.1 ≤ l.1.toNat :=
    List.pairwise_map.mpr h.disjoint
  rw [hlayout] at hinside hdisjoint
  rw [layout, List.pairwise_map] at hdisjoint
  exact ⟨fun b hb => hinside _ (List.mem_map_of_mem hb), hdisjoint⟩

theorem offset?_eq_some_iff : b.offset? address = some k ↔
    b.backing ≠ .lost ∧ address.toNat = b.base.toNat + k ∧ k < b.bytes.length := by
  rw [Block.offset?, Option.ite_none_right_eq_some, Option.some.injEq, Block.Covers, and_assoc,
    and_congr_right_iff]
  omega

/-- An address inside a block is outside the blocks apart from it. -/
theorem offset?_eq_none {c : Block} (hapart : c.Apart b) (h : address.toNat = b.base.toNat + k)
    (hk : k < b.bytes.length) : c.offset? address = none := by
  rw [Block.Apart, Block.stop, Block.stop] at hapart
  refine if_neg fun hin => ?_
  rw [Block.Covers] at hin
  omega

theorem tail?_cons_of_some {c : Block} (h : c.offset? address = some k) (m : Memory) :
    tail? (c :: m) address = some (c.bytes.drop k) := by
  rw [tail?, List.findSome?_cons, h, Option.map_some]

theorem tail?_cons_of_none {c : Block} (h : c.offset? address = none) (m : Memory) :
    tail? (c :: m) address = tail? m address := by
  rw [tail?, List.findSome?_cons, h, Option.map_none, tail?]

theorem tail?_append (m m' : Memory) (address : UInt64) :
    tail? (m ++ m') address = (m.tail? address).or (m'.tail? address) :=
  List.findSome?_append

/-- **A block is found at its addresses.** -/
theorem tail?_of_mem (h : Apart m) (hb : b ∈ m) (hbacking : b.backing ≠ .lost)
    (haddress : address.toNat = b.base.toNat + k) (hk : k < b.bytes.length) (rest : Memory) :
    tail? (m ++ rest) address = some (b.bytes.drop k) := by
  induction m with
  | nil => exact absurd hb (by simp)
  | cons c m ih =>
    obtain ⟨hfirst, hdisjoint⟩ := List.pairwise_cons.mp h.disjoint
    rcases List.mem_cons.mp hb with rfl | hmem
    · exact tail?_cons_of_some (offset?_eq_some_iff.mpr ⟨hbacking, haddress, hk⟩) _
    · rw [List.cons_append, tail?_cons_of_none (offset?_eq_none (hfirst b hmem) haddress hk)]
      exact ih ⟨fun d hd => h.inside d (List.mem_cons_of_mem _ hd), hdisjoint⟩ hmem

theorem le_length_of_fill? {target : UInt64} {n : ℕ} (h : m.fill? target new = some (n, m')) :
    n ≤ new.length := by
  obtain ⟨before, b, after, offset, -, -, -, -, rfl, -⟩ := exists_of_fill? h
  exact Nat.min_le_left ..

/-- Bytes before or behind the ones that are written to a block stay what they were. -/
theorem tail?_of_fill? {target : UInt64} {n : ℕ} (h : m.fill? target new = some (n, m'))
    (htail : m.tail? address = some bs)
    (hapart : target.toNat + new.length ≤ address.toNat ∨
      address.toNat + bs.length ≤ target.toNat) : m'.tail? address = some bs := by
  obtain ⟨before, b, after, offset, rfl, -, hoffset, -, -, rfl⟩ := exists_of_fill? h
  have hsame : Block.offset? { b with bytes := Bytes.overwrite b.bytes offset new } address =
      b.offset? address := by
    refine if_congr ?_ rfl rfl
    rw [Block.Covers, Block.Covers, Bytes.length_overwrite]
  rw [tail?_append] at htail ⊢
  cases hbefore : tail? before address with
  | some found => rwa [hbefore, Option.some_or] at htail
  | none =>
    rw [hbefore, Option.none_or] at htail
    rw [Option.none_or]
    cases hb : b.offset? address with
    | none =>
      rw [tail?_cons_of_none hb] at htail
      rwa [tail?_cons_of_none (hsame.trans hb)]
    | some k =>
      obtain ⟨-, haddress, hk⟩ := offset?_eq_some_iff.mp hb
      obtain ⟨-, htarget, hinside⟩ := offset?_eq_some_iff.mp hoffset
      rw [tail?_cons_of_some hb] at htail
      obtain rfl := Option.some.inj htail
      rw [List.length_drop] at hapart
      -- the block is one, so what is read behind its last byte is not in front of this one
      rw [tail?_cons_of_some (hsame.trans hb), Bytes.drop_overwrite hinside.le (by omega)]

/-- **Bytes before or behind the ones that are written** stay what they were. -/
theorem tail?_of_storeFrom {n : ℕ} {target : UInt64} (h : storeFrom n m target new = .ok m')
    (hstop : target.toNat + new.length ≤ 2 ^ 64) (htail : m.tail? address = some bs)
    (hapart : target.toNat + new.length ≤ address.toNat ∨
      address.toNat + bs.length ≤ target.toNat) : m'.tail? address = some bs := by
  fun_induction storeFrom n m target new with
  | case1 n m target => rwa [← Except.ok.inj h]
  | case2 => exact absurd h (by simp)
  | case3 n m target new hne written m₁ hfill ih =>
    have hwritten := le_length_of_fill? hfill
    have hnext : (target + UInt64.ofNat written).toNat = (target.toNat + written) % 2 ^ 64 := by
      rw [UInt64.toNat_add, UInt64.toNat_ofNat']
      omega
    refine ih h ?_ (tail?_of_fill? hfill htail hapart) ?_
    all_goals
      rw [hnext, List.length_drop]
      omega
  | case4 => exact absurd h (by simp)

end Memory

/-! ## Storage that was read back -/

theorem Bytes.ofWord_toWord {bs : List UInt8} (h : bs.length = 8) : ofWord (toWord bs) = bs :=
  ((isPrefix_ofWord_toWord h.le).eq_of_length (by rw [h, length_ofWord])).symm

namespace Plan

variable {site : Site} {as : List Argument} {a : Argument} {own : Memory} {index i : ℕ} {b : Buffer}

theorem placeFrom_reloadFrom (h : Memory.layout own = Memory.layout (placeFrom site index as))
    (rest : Memory) : placeFrom site index (reloadFrom as (own ++ rest)) = own := by
  induction as generalizing index own with
  | nil =>
    rw [List.map_eq_nil_iff.mp h]
    rfl
  | cons a as ih =>
    obtain ⟨token, slot, buffer⟩ := a
    cases buffer with
    | none =>
      rcases own with _ | ⟨⟨base, bytes, backing⟩, own⟩
      · exact absurd h (by simp [Memory.layout, placeFrom, placeArgument])
      · simp only [Memory.layout, placeFrom, placeArgument, List.cons_append, List.nil_append,
          List.map_cons, List.cons.injEq, Prod.mk.injEq, Bytes.length_ofWord] at h
        obtain ⟨⟨rfl, hlength, rfl⟩, h⟩ := h
        simp only [List.cons_append, reloadFrom, placeFrom, placeArgument, List.nil_append,
          Bytes.ofWord_toWord hlength, ih h]
    | some b =>
      rcases own with _ | ⟨⟨base, bytes, backing⟩, _ | ⟨⟨base', bytes', backing'⟩, own⟩⟩
      · exact absurd h (by simp [Memory.layout, placeFrom, placeArgument])
      · exact absurd h (by simp [Memory.layout, placeFrom, placeArgument])
      · simp only [Memory.layout, placeFrom, placeArgument, List.cons_append, List.nil_append,
          List.map_cons, List.cons.injEq, Prod.mk.injEq, Bytes.length_ofWord] at h
        obtain ⟨⟨rfl, hlength, rfl⟩, ⟨rfl, -, rfl⟩, h⟩ := h
        simp only [List.cons_append, reloadFrom, placeFrom, placeArgument, List.nil_append,
          Bytes.ofWord_toWord hlength, ih h]

/-- **The storage of a plan that was read back** is the memory that it was read from. -/
theorem place_reload {p : Plan} (h : Memory.layout own = p.place.layout) (rest : Memory) :
    (p.reload (own ++ rest)).place = own :=
  placeFrom_reloadFrom h rest

end Plan

/-! ## The memory that an output is read from -/

/-- The memory of a buffer. -/
def Buffer.block (b : Buffer) : Block := ⟨b.start, b.bytes, true⟩

@[simp] theorem Buffer.base_block (b : Buffer) : b.block.base = b.start := rfl

@[simp] theorem Buffer.backing_block (b : Buffer) : b.block.backing = .writable := rfl

@[simp] theorem Buffer.stop_block (b : Buffer) :
    b.block.stop = b.start.toNat + b.bytes.length := rfl

section Outputs

variable {m : Memory} {site : Site} {index i k : ℕ} {as : List Argument} {a : Argument} {b : Buffer}
  {operands : List Operand} {o : Operand} {address : UInt64} {bs : List UInt8}

/-- The storage of an argument is its slot and its buffer. -/
theorem mem_placeArgument_iff {c : Block} : c ∈ Plan.placeArgument site index a ↔
    c = ⟨site.slot index, Bytes.ofWord a.slot, true⟩ ∨ ∃ b, a.buffer = some b ∧ c = b.block := by
  rw [Plan.placeArgument]
  cases a.buffer with
  | none => simp
  | some b => simp [Buffer.block]

theorem mem_placeFrom_iff {c : Block} : c ∈ Plan.placeFrom site index as ↔
    ∃ j a, as[j]? = some a ∧ c ∈ Plan.placeArgument site (index + j) a := by
  induction as generalizing index with
  | nil => simp [Plan.placeFrom]
  | cons a as ih =>
    rw [Plan.placeFrom, List.mem_append, ih]
    constructor
    · rintro (h | ⟨j, a', ha', h⟩)
      · exact ⟨0, a, rfl, h⟩
      · exact ⟨j + 1, a', ha', by rwa [Nat.add_assoc, Nat.add_comm 1 j] at h⟩
    · rintro ⟨_ | j, a', ha', h⟩
      · obtain rfl : a = a' := by simpa using ha'
        exact .inl h
      · exact .inr ⟨j, a', by simpa using ha', by rwa [Nat.add_assoc, Nat.add_comm 1 j]⟩

theorem block_mem_placeArgument (hb : a.buffer = some b) :
    b.block ∈ Plan.placeArgument site index a :=
  mem_placeArgument_iff.mpr (.inr ⟨b, hb, rfl⟩)

theorem block_mem_placeFrom (ha : as[i]? = some a) (hb : a.buffer = some b) :
    b.block ∈ Plan.placeFrom site index as :=
  mem_placeFrom_iff.mpr ⟨i, a, ha, block_mem_placeArgument hb⟩

/-- Giving a buffer its terminator changes nothing outside of it. -/
theorem tail?_terminate {c : Buffer} (hstop : c.block.stop ≤ 2 ^ 64) (hne : c.bytes ≠ [])
    (htail : m.tail? address = some bs)
    (hapart : c.block.stop ≤ address.toNat ∨ address.toNat + bs.length ≤ c.start.toNat) :
    (m.terminate c).tail? address = some bs := by
  have hpos : 0 < c.bytes.length := List.length_pos_iff.mpr hne
  rw [Buffer.stop_block] at hstop hapart
  have htarget : (c.start + UInt64.ofNat (c.bytes.length - 1)).toNat =
      c.start.toNat + (c.bytes.length - 1) := by
    rw [UInt64.toNat_add, UInt64.toNat_ofNat']
    omega
  rw [Memory.terminate]
  split
  · exact htail
  · cases hstore : m.store (c.start + UInt64.ofNat (c.bytes.length - 1)) [0] with
    | error fault => exact htail
    | ok m' =>
      refine Memory.tail?_of_storeFrom hstore ?_ htail ?_
      all_goals
        rw [htarget, List.length_singleton]
        omega

theorem tail?_settle (htail : m.tail? address = some bs)
    (h : ∀ c, a.buffer = some c → c.block.stop ≤ 2 ^ 64 ∧ c.bytes ≠ [] ∧
      (c.block.stop ≤ address.toNat ∨ address.toNat + bs.length ≤ c.start.toNat)) :
    (a.settle m o).tail? address = some bs := by
  unfold Argument.settle
  split
  · exact htail
  · split
    · next c hc =>
      obtain ⟨hstop, hne, hapart⟩ := h c hc
      split
      · exact tail?_terminate hstop hne htail hapart
      · exact htail
    · exact htail

/-- **A buffer is found where it was**, after the buffers of the arguments in front were given their
terminators. -/
theorem tail?_memoryAt (hapart : Memory.Apart (Plan.placeFrom site index as))
    (hne : ∀ a ∈ as, ∀ c, a.buffer = some c → c.bytes ≠ []) (ha : as[i]? = some a)
    (hb : a.buffer = some b) (haddress : address.toNat = b.start.toNat + k)
    (hk : k < b.bytes.length) (htail : m.tail? address = some (b.bytes.drop k)) :
    (memoryAt m as operands i).tail? address = some (b.bytes.drop k) := by
  induction as generalizing index m operands i with
  | nil => exact absurd ha (by simp)
  | cons a₀ as ih =>
    cases i with
    | zero => rwa [memoryAt_zero]
    | succ i =>
      match operands with
      | [] => exact htail
      | [_] => exact htail
      | t :: o :: rest =>
        have hlater : as[i]? = some a := by simpa using ha
        rw [Plan.placeFrom] at hapart
        obtain ⟨-, hdisjoint, hacross⟩ := List.pairwise_append.mp hapart.disjoint
        have hrest : Memory.Apart (Plan.placeFrom site (index + 1) as) :=
          ⟨fun c hc => hapart.inside c (List.mem_append_right _ hc), hdisjoint⟩
        refine ih hrest (fun a' ha' => hne a' (List.mem_cons_of_mem _ ha')) hlater
          (tail?_settle htail fun c hc => ?_)
        have hcb := hacross _ (block_mem_placeArgument hc) _ (block_mem_placeFrom hlater hb)
        refine ⟨hapart.inside _ (List.mem_append_left _ (block_mem_placeArgument hc)),
          hne a₀ (List.mem_cons_self ..) c hc, ?_⟩
        rw [Block.Apart, Buffer.stop_block, Buffer.stop_block, Buffer.base_block,
          Buffer.base_block] at hcb
        rw [List.length_drop, haddress, Buffer.stop_block]
        omega

end Outputs

/-! ## Storage of marshaled plans -/

section Marshaled

variable {site : Site} {params : List Operand} {p : Plan} {own rest : Memory} {i k : ℕ}
  {a : Argument} {b : Buffer} {o : Operand} {start : UInt64}

theorem exists_ofText_of_textBuffer? (h : textBuffer? start o = some b) :
    ∃ s capacity, b = .ofText start s capacity := by
  unfold textBuffer? at h
  split at h
  · exact ⟨_, _, (Option.some.inj h).symm⟩
  · exact absurd h (by simp)
  · exact ⟨_, _, (Option.some.inj h).symm⟩

/-- A marshaled buffer lies at the address of its position, and has a byte for its terminator. -/
theorem buffer_of_marshal (hp : (marshal site params).2 = .ok p) (ha : p.arguments[i]? = some a)
    (hb : a.buffer = some b) : b.start = site.buffer i ∧ b.bytes ≠ [] := by
  obtain ⟨t, o, -, -, -, hfill⟩ := getElem?_arguments_of_marshal hp ha
  obtain ⟨-, htext, hother⟩ := fillArgument_eq_ok hfill
  by_cases hk : a.token.kind = .text
  · obtain ⟨b', hb', hmade⟩ := htext hk
    obtain rfl : b' = b := Option.some.inj ((congrArg Argument.buffer hmade).symm.trans hb)
    obtain ⟨s, capacity, rfl⟩ := exists_ofText_of_textBuffer? hb'
    exact ⟨rfl, List.ne_nil_of_mem (Buffer.zero_mem_ofText _ s capacity)⟩
  · exact absurd ((hother hk).symm.trans hb) (by simp)

/-- A plan that was read back has a byte for each terminator. -/
theorem bytes_ne_nil_of_reload (hp : (marshal site params).2 = .ok p)
    (hlayout : Memory.layout own = p.place.layout)
    (ha : (p.reload (own ++ rest)).arguments[i]? = some a) (hb : a.buffer = some b) :
    b.bytes ≠ [] := by
  have hplace : b.block ∈ own := by
    have hmem : b.block ∈ (p.reload (own ++ rest)).place := block_mem_placeFrom ha hb
    rwa [Plan.place_reload hlayout] at hmem
  have hmem : (b.start, b.bytes.length, Backing.writable) ∈ Memory.layout own :=
    List.mem_map_of_mem hplace
  rw [hlayout, Memory.layout, List.mem_map] at hmem
  obtain ⟨c, hc, hsame⟩ := hmem
  have hlength : c.bytes.length = b.bytes.length := by simpa using congrArg (·.2.1) hsame
  rw [← List.length_pos_iff, ← hlength, List.length_pos_iff]
  obtain ⟨j, a', ha', hstorage⟩ := mem_placeFrom_iff.mp hc
  rcases mem_placeArgument_iff.mp hstorage with rfl | ⟨b', hb', rfl⟩
  · exact List.ne_nil_of_length_pos (by simp)
  · exact (buffer_of_marshal hp ha' hb').2

end Marshaled

/-! ## Where storage does not overlap -/

section Positions

variable {site : Site} {params : List Operand} {p : Plan} {index i : ℕ} {as : List Argument}
  {c : Block}

theorem Site.toNat_slot (hdepth : site.depth < 2 ^ 15) (hi : i < 2 ^ 16) :
    (site.slot i).toNat = site.origin + 16 * i := by
  rw [slot, origin, UInt64.toNat_ofNat']
  omega

theorem Site.toNat_buffer (hdepth : site.depth < 2 ^ 15) (hi : i < 2 ^ 16) :
    (site.buffer i).toNat = site.origin + 2 ^ 32 * (i + 1) := by
  rw [buffer, origin, UInt64.toNat_ofNat']
  omega

/-- A buffer at the address of its position, of at most `2 ^ 32` bytes. -/
def Argument.Placed (site : Site) (index : ℕ) (a : Argument) : Prop :=
  ∀ b, a.buffer = some b → b.start = site.buffer index ∧ b.bytes.length ≤ 2 ^ 32

/-- A block among the slots, or among the buffers, at the place of a position. -/
def Block.AtPosition (site : Site) (index : ℕ) (c : Block) : Prop :=
  c.base.toNat = site.origin + 16 * index ∧ c.stop = site.origin + 16 * index + 8 ∨
    c.base.toNat = site.origin + 2 ^ 32 * (index + 1) ∧
      c.stop ≤ site.origin + 2 ^ 32 * (index + 2)

theorem atPosition_of_mem {a : Argument} (hdepth : site.depth < 2 ^ 15) (hi : index < 2 ^ 16)
    (hplaced : a.Placed site index) (hc : c ∈ Plan.placeArgument site index a) :
    c.AtPosition site index := by
  rcases mem_placeArgument_iff.mp hc with rfl | ⟨b, hb, rfl⟩
  · rw [Block.AtPosition, Block.stop, Bytes.length_ofWord, Site.toNat_slot hdepth hi]
    exact .inl ⟨rfl, rfl⟩
  · obtain ⟨hstart, hlength⟩ := hplaced b hb
    rw [Block.AtPosition, Buffer.stop_block, Buffer.base_block, hstart,
      Site.toNat_buffer hdepth hi]
    exact .inr ⟨rfl, by omega⟩

/-- Storage of different positions does not overlap. -/
theorem Block.AtPosition.apart {d : Block} {j : ℕ} (hc : c.AtPosition site index)
    (hd : d.AtPosition site j) (hlt : index < j) (hj : j < 2 ^ 16) : c.Apart d := by
  rw [AtPosition] at hc hd
  rw [Apart]
  omega

/-- The slot of an argument lies in front of all buffers. -/
theorem pairwise_placeArgument {a : Argument} (hdepth : site.depth < 2 ^ 15) (hi : index < 2 ^ 16)
    (hplaced : a.Placed site index) :
    (Plan.placeArgument site index a).Pairwise Block.Apart := by
  rw [Plan.placeArgument]
  cases hb : a.buffer with
  | none => exact List.pairwise_singleton _ _
  | some b =>
    have hslot := Site.toNat_slot hdepth hi
    have hbuffer := Site.toNat_buffer hdepth hi
    refine List.pairwise_pair.mpr (.inl ?_)
    rw [Block.stop, Bytes.length_ofWord, (hplaced b hb).1, hslot, hbuffer]
    omega

theorem pairwise_placeFrom (hdepth : site.depth < 2 ^ 15) (hcount : index + as.length ≤ 2 ^ 16)
    (hplaced : ∀ (j : ℕ) (a : Argument), as[j]? = some a → a.Placed site (index + j)) :
    (Plan.placeFrom site index as).Pairwise Block.Apart := by
  induction as generalizing index with
  | nil => exact .nil
  | cons a as ih =>
    rw [List.length_cons] at hcount
    have hi : index < 2 ^ 16 := by omega
    have hlater : ∀ (j : ℕ) (a' : Argument), as[j]? = some a' →
        a'.Placed site (index + 1 + j) := by
      intro j a' ha'
      rw [Nat.add_assoc, Nat.add_comm 1 j]
      exact hplaced (j + 1) a' ha'
    rw [Plan.placeFrom, List.pairwise_append]
    refine ⟨pairwise_placeArgument hdepth hi (hplaced 0 a rfl), ih (by omega) hlater,
      fun c hc d hd => ?_⟩
    obtain ⟨j, a', ha', hd⟩ := mem_placeFrom_iff.mp hd
    have hj := (List.getElem?_eq_some_iff.mp ha').1
    have hlast : index + 1 + j < 2 ^ 16 := by omega
    exact (atPosition_of_mem hdepth hi (hplaced 0 a rfl) hc).apart
      (atPosition_of_mem hdepth hlast (hlater j a' ha') hd) (by omega) hlast

/-- **The storage of a call does not overlap**, unless a buffer takes more than `2 ^ 32` bytes or
there are too many arguments or calls inside calls. -/
theorem Plan.apart_place (hp : (marshal site params).2 = .ok p) (hdepth : site.depth < 2 ^ 15)
    (hcount : p.arguments.length ≤ 2 ^ 16)
    (hshort : ∀ a ∈ p.arguments, ∀ b, a.buffer = some b → b.bytes.length ≤ 2 ^ 32) :
    Memory.Apart p.place := by
  obtain ⟨-, -, rfl⟩ := marshal_eq_ok_iff.mp hp
  have hplaced : ∀ (j : ℕ) (a : Argument), p.arguments[j]? = some a → a.Placed p.site (0 + j) := by
    intro j a ha b hb
    rw [Nat.zero_add]
    exact ⟨(buffer_of_marshal hp ha hb).1, hshort a (List.mem_of_getElem? ha) b hb⟩
  refine ⟨fun c hc => ?_, pairwise_placeFrom hdepth (by omega) hplaced⟩
  obtain ⟨j, a, ha, hstorage⟩ := mem_placeFrom_iff.mp hc
  have hj := (List.getElem?_eq_some_iff.mp ha).1
  have hposition := atPosition_of_mem hdepth (by omega) (hplaced j a ha) hstorage
  rw [Block.AtPosition, Site.origin] at hposition
  omega

end Positions

/-! ## The text that is read -/

/-- A buffer is read with its last byte as the terminator, if it has no other. -/
theorem Buffer.readText_eq (b : Buffer) : b.readText =
    Utf8.toText (if 0 ∈ b.bytes then Bytes.textBefore b.bytes else b.bytes.dropLast) := by
  rw [readText, terminate]
  split
  · rfl
  · next hzero =>
    have hfront : 0 ∉ b.bytes.dropLast := fun h => hzero (List.dropLast_subset _ h)
    rw [Bytes.textBefore_append_zero hfront]

section Texts

variable {site : Site} {params : List Operand} {p : Plan} {own rest m : Memory} {r : Invocation}
  {i k : ℕ} {a : Argument} {b : Buffer} {x : Variable}

/-- The text behind a slot that leads to the start of its buffer. -/
theorem textOutput?_start (hb : a.buffer = some b) (hslot : a.slot = b.start) (m : Memory) :
    a.textOutput? m =
      some (Utf8.toText (if 0 ∈ b.bytes then Bytes.textBefore b.bytes else b.bytes.dropLast)) := by
  rw [textOutput?_eq hb, if_pos hslot, Buffer.readText_eq]

/-- The text behind a slot that was moved forward in its buffer. -/
theorem textOutput?_moved (hb : a.buffer = some b) (hslot : a.slot.toNat = b.start.toNat + k)
    (hpos : 0 < k) (hinside : k < b.bytes.length) (htail : m.tail? a.slot = some (b.bytes.drop k)) :
    a.textOutput? m =
      let behind := m.reach (m.length - 1) (b.start + UInt64.ofNat b.bytes.length)
      if 0 ∈ b.bytes.drop k then some (Utf8.toText (Bytes.textBefore (b.bytes.drop k)))
      else if 0 ∈ behind then
        some (Utf8.toText (b.bytes.drop k ++ Bytes.textBefore behind))
      else none := by
  have hmoved : a.slot ≠ b.start := fun h => by
    rw [h] at hslot
    omega
  have hnull : a.slot ≠ 0 := fun h => by
    rw [h, UInt64.toNat_zero] at hslot
    omega
  have hend : a.slot + UInt64.ofNat (b.bytes.drop k).length =
      b.start + UInt64.ofNat b.bytes.length := by
    apply UInt64.toNat_inj.mp
    rw [UInt64.toNat_add, UInt64.toNat_add, UInt64.toNat_ofNat', UInt64.toNat_ofNat', hslot,
      List.length_drop]
    omega
  rw [textOutput?_eq hb, if_neg hmoved, if_neg hnull]
  by_cases hzero : 0 ∈ b.bytes.drop k
  · rw [Memory.text?_of_mem htail hzero]
    simp only [if_pos hzero, Option.map_some]
  · rw [Memory.text?_of_notMem htail hzero, hend]
    simp only [if_neg hzero]
    split <;> rfl

/-- The memory that an output is read from holds the buffer that was read back. -/
theorem tail?_reload (hp : (marshal site params).2 = .ok p)
    (hlayout : Memory.layout own = p.place.layout) (hapart : Memory.Apart p.place)
    (ha : (p.reload (own ++ rest)).arguments[i]? = some a) (hb : a.buffer = some b)
    (hslot : a.slot.toNat = b.start.toNat + k) (hinside : k < b.bytes.length) :
    (memoryAt (own ++ rest) (p.reload (own ++ rest)).arguments params i).tail? a.slot =
      some (b.bytes.drop k) := by
  have hplace := Plan.place_reload hlayout rest
  have hown : Memory.Apart own := hapart.of_layout_eq hlayout.symm
  have hplaced : Memory.Apart (p.reload (own ++ rest)).place := by rwa [hplace]
  have hmem : b.block ∈ own := hplace ▸ block_mem_placeFrom ha hb
  refine tail?_memoryAt hplaced (fun a' ha' c hc => ?_) ha hb hslot hinside
    (Memory.tail?_of_mem hown hmem (by simp) hslot hinside rest)
  obtain ⟨j, hj⟩ := List.getElem?_of_mem ha'
  exact bytes_ne_nil_of_reload hp hlayout hj hc

/-- **The text of an argument whose slot leads into its buffer.** Native code has left anything in
the storage of a marshaled plan, which does not overlap. The variable holds the text from the slot
up to the first NUL in the buffer. Where there is none, and the slot leads to the start of the
buffer, the last byte counts as one. A slot that leads to a later byte is followed into the memory
behind the buffer, and if that ends without a NUL, the variable is what it was. -/
theorem finish_own_buffer (hp : (marshal site params).2 = .ok p)
    (hlayout : Memory.layout own = p.place.layout) (hapart : Memory.Apart p.place)
    (hr : r.hasFaulted = false) (ha : (p.reload (own ++ rest)).arguments[i]? = some a)
    (hk : a.token.kind = .text) (hb : a.buffer = some b)
    (hslot : a.slot.toNat = b.start.toNat + k) (hinside : k < b.bytes.length)
    (hx : params[2 * i + 1]? = some (.variable x)) :
    let after := (finish (own ++ rest) r (p.reload (own ++ rest)) params).2.2[2 * i + 1]?
    let seen := memoryAt (own ++ rest) (p.reload (own ++ rest)).arguments params i
    let behind := seen.reach (seen.length - 1) (b.start + UInt64.ofNat b.bytes.length)
    (0 ∈ b.bytes.drop k →
      after = some (.variable (x.hold (Utf8.toText (Bytes.textBefore (b.bytes.drop k)))))) ∧
    (0 ∉ b.bytes.drop k → k = 0 →
      after = some (.variable (x.hold (Utf8.toText b.bytes.dropLast)))) ∧
    (0 ∉ b.bytes.drop k → k ≠ 0 →
      after = some (.variable (if 0 ∈ behind then
        x.hold (Utf8.toText (b.bytes.drop k ++ Bytes.textBefore behind)) else x))) := by
  intro after seen behind
  have hafter : after = some (.variable (((a.textOutput? seen).map x.hold).getD x)) :=
    (getElem?_finish_variable hr ha hx).trans (congrArg some (writeOutput_of_text hk _ x))
  rw [hafter]
  rcases Nat.eq_zero_or_pos k with rfl | hpos
  · rw [textOutput?_start hb (UInt64.toNat_inj.mp hslot), List.drop_zero]
    refine ⟨fun hzero => ?_, fun hzero _ => ?_, fun _ hne => absurd rfl hne⟩
    · rw [if_pos hzero]
      rfl
    · rw [if_neg hzero]
      rfl
  · have htail : seen.tail? a.slot = some (b.bytes.drop k) :=
      tail?_reload hp hlayout hapart ha hb hslot hinside
    rw [textOutput?_moved hb hslot hpos hinside htail]
    refine ⟨fun hzero => ?_, fun _ h0 => absurd h0 hpos.ne', fun hzero _ => ?_⟩
    · simp only [if_pos hzero]
      rfl
    · simp only [if_neg hzero]
      split <;> rfl

end Texts

/-- A call that passes a variable with the text `abc` and the address of its pointer. -/
def passingText : List Operand := [.literal (.text "Str*"), .variable ⟨"s", .text "abc", 4⟩]

/-- The plan of this call. -/
def passingTextPlan : Plan where
  arguments :=
    [⟨⟨.text, false, true⟩, 0x100100001000, some ⟨0x100100001000, [0x61, 0x62, 0x63, 0]⟩⟩]

theorem marshal_passingText : (marshal {} passingText).2 = .ok passingTextPlan := by
  decide +kernel

/-- The storage of the plan after native code wrote `wxyz` and moved the pointer forward by one. -/
def movedOn : Memory :=
  [⟨0x100000001000, Bytes.ofWord 0x100100001001, true⟩,
    ⟨0x100100001000, [0x77, 0x78, 0x79, 0x7A], true⟩]

/-- The argument after that. -/
def movedOnArgument : Argument :=
  ⟨⟨.text, false, true⟩, 0x100100001001, some ⟨0x100100001000, [0x77, 0x78, 0x79, 0x7A]⟩⟩

/-- Some zeros behind the buffer. -/
def behindBuffer : Memory := [⟨0x100100001004, [0, 0, 0, 0], false⟩]

theorem apart_passingTextPlan : Memory.Apart passingTextPlan.place :=
  Plan.apart_place marshal_passingText (by decide) (by decide) (by simp [passingTextPlan])

theorem reload_movedOn :
    (passingTextPlan.reload (movedOn ++ behindBuffer)).arguments[0]? = some movedOnArgument := rfl

/-- Behind the pointer that was moved the text goes on to the end of the buffer. -/
theorem finish_own_buffer_movedOn :
    Memory.layout movedOn = passingTextPlan.place.layout ∧
      (finish (movedOn ++ behindBuffer) {} (passingTextPlan.reload (movedOn ++ behindBuffer))
        passingText).2.2[1]? = some (.variable ⟨"s", .text "xyz", 4⟩) := by
  have hlayout : Memory.layout movedOn = passingTextPlan.place.layout := rfl
  have hslot : movedOnArgument.slot.toNat = (0x100100001000 : UInt64).toNat + 1 := rfl
  have hreturned : Invocation.hasFaulted {} = false := rfl
  have hread := (finish_own_buffer marshal_passingText hlayout apart_passingTextPlan hreturned
    reload_movedOn rfl rfl hslot (by decide) rfl).2.2 (by decide) (by decide)
  refine ⟨hlayout, hread.trans ?_⟩
  decide +kernel

/-- **The last byte of a buffer does not always end its text.** -/
theorem not_forall_own_buffer :
    ¬ ∀ (site : Site) (params : List Operand) (p : Plan) (own rest : Memory) (r : Invocation)
        (i k : ℕ) (a : Argument) (b : Buffer) (x : Variable),
      (marshal site params).2 = .ok p → Memory.layout own = p.place.layout →
      Memory.Apart p.place → r.hasFaulted = false →
      (p.reload (own ++ rest)).arguments[i]? = some a → a.token.kind = .text →
      a.buffer = some b → a.slot.toNat = b.start.toNat + k → k < b.bytes.length →
      params[2 * i + 1]? = some (.variable x) →
      (finish (own ++ rest) r (p.reload (own ++ rest)) params).2.2[2 * i + 1]? =
        some (.variable (x.hold (Utf8.toText (Bytes.textBefore
          (if 0 ∈ b.bytes.drop k then b.bytes.drop k else (b.bytes.drop k).dropLast))))) := by
  intro h
  have hread := h {} passingText passingTextPlan movedOn behindBuffer {} 0 1 movedOnArgument _ _
    marshal_passingText rfl apart_passingTextPlan rfl reload_movedOn rfl rfl rfl (by decide) rfl
  exact absurd hread (by decide +kernel)

end ForeignCall
