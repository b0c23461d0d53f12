/-!
# Bytes

Numbers as bytes, the lowest byte first, and the replacement of a stretch of bytes by others.

## Main definitions

* `Bytes.littleEndian`, `Bytes.ofLittleEndian`: a number as `n` bytes and back;
* `Bytes.ofWord`, `Bytes.toWord`: the same for words of eight bytes;
* `Bytes.overwrite`: bytes written over a list of bytes, without changing its length;
* `Bytes.textBefore`: the bytes in front of the first NUL.

## Main results

* `Bytes.toWord_ofWord`: a word is determined by its bytes;
* `Bytes.littleEndian_ofLittleEndian`: bytes are determined by the number that they denote;
* `Bytes.length_overwrite`: overwriting keeps the length.
-/

namespace ForeignCall.Bytes

/-- The `n` lowest bytes of a number, the lowest first. -/
def littleEndian : Nat → Nat → List UInt8
  | 0, _ => []
  | n + 1, x => UInt8.ofNat x :: littleEndian n (x / 256)

/-- The number that a list of bytes denotes, the lowest byte first. -/
def ofLittleEndian : List UInt8 → Nat
  | [] => 0
  | b :: bs => b.toNat + 256 * ofLittleEndian bs

/-- The eight bytes of a word. -/
def ofWord (w : UInt64) : List UInt8 :=
  littleEndian 8 w.toNat

/-- The word whose first bytes are given; missing ones are zero, and more than eight do not
count. -/
def toWord (bs : List UInt8) : UInt64 :=
  UInt64.ofNat (ofLittleEndian bs)

/-- Writes `new` over `old` from an offset on. What would fall behind the end is dropped. -/
def overwrite (old : List UInt8) (offset : Nat) (new : List UInt8) : List UInt8 :=
  old.take offset ++ new.take (old.length - offset) ++ old.drop (offset + new.length)

/-- The bytes in front of the first NUL, or all of them when there is none. -/
def textBefore (bs : List UInt8) : List UInt8 :=
  bs.takeWhile (· != 0)

@[simp] theorem length_littleEndian (n x : Nat) : (littleEndian n x).length = n := by
  induction n generalizing x with
  | zero => rfl
  | succ n ih => simp [littleEndian, ih]

@[simp] theorem length_ofWord (w : UInt64) : (ofWord w).length = 8 :=
  length_littleEndian 8 _

theorem ofLittleEndian_littleEndian (n x : Nat) :
    ofLittleEndian (littleEndian n x) = x % Nat.pow 256 n := by
  induction n generalizing x with
  | zero => simp [littleEndian, ofLittleEndian, Nat.mod_one]
  | succ n ih =>
    have hb : (UInt8.ofNat x).toNat = x % 256 := UInt8.toNat_ofNat'
    have hp : Nat.pow 256 (n + 1) = 256 * Nat.pow 256 n := Nat.pow_succ'
    rw [littleEndian, ofLittleEndian, ih, hb, hp, Nat.mod_mul]

/-- A word is determined by its bytes. -/
theorem toWord_ofWord (w : UInt64) : toWord (ofWord w) = w := by
  rw [toWord, ofWord, ofLittleEndian_littleEndian]
  apply UInt64.toNat_inj.mp
  have h8 : Nat.pow 256 8 = 0x10000000000000000 := rfl
  have := w.toNat_lt
  rw [UInt64.toNat_ofNat', h8]
  omega

theorem ofLittleEndian_lt (bs : List UInt8) : ofLittleEndian bs < Nat.pow 256 bs.length := by
  induction bs with
  | nil => exact Nat.zero_lt_one
  | cons b bs ih =>
    have hb : b.toNat < 256 := b.toNat_lt
    have hp : Nat.pow 256 (bs.length + 1) = 256 * Nat.pow 256 bs.length := Nat.pow_succ'
    rw [ofLittleEndian, List.length_cons, hp]
    omega

/-- Bytes are determined by the number that they denote. -/
theorem littleEndian_ofLittleEndian (bs : List UInt8) :
    littleEndian bs.length (ofLittleEndian bs) = bs := by
  induction bs with
  | nil => rfl
  | cons b bs ih =>
    have hb : b.toNat < 256 := b.toNat_lt
    have hlow : UInt8.ofNat (b.toNat + 256 * ofLittleEndian bs) = b := by
      apply UInt8.toNat_inj.mp
      rw [UInt8.toNat_ofNat']
      omega
    have hrest : (b.toNat + 256 * ofLittleEndian bs) / 256 = ofLittleEndian bs := by omega
    rw [List.length_cons, ofLittleEndian, littleEndian, hlow, hrest, ih]

/-- The first bytes of a number are the lower bytes. -/
theorem take_littleEndian {k n : Nat} (h : k ≤ n) (x : Nat) :
    (littleEndian n x).take k = littleEndian k x := by
  induction k generalizing n x with
  | zero => rfl
  | succ k ih =>
    obtain ⟨n, rfl⟩ : ∃ m, n = m + 1 := ⟨n - 1, by omega⟩
    rw [littleEndian, List.take_succ_cons, ih (by omega), littleEndian]

/-- Overwriting keeps the length. -/
@[simp] theorem length_overwrite (old : List UInt8) (offset : Nat) (new : List UInt8) :
    (overwrite old offset new).length = old.length := by
  simp only [overwrite, List.length_append, List.length_take, List.length_drop]
  omega

/-- What follows a NUL is not looked at. -/
theorem textBefore_append_of_mem {bs : List UInt8} (h : 0 ∈ bs) (more : List UInt8) :
    textBefore (bs ++ more) = textBefore bs := by
  induction bs with
  | nil => simp at h
  | cons b bs ih =>
    by_cases hb : b = 0
    · simp [textBefore, hb]
    · have hmem : 0 ∈ bs := by simpa [Ne.symm hb] using h
      simpa [textBefore, hb] using ih hmem

/-- Bytes without a NUL are text, and so is what follows them up to the first one. -/
theorem textBefore_append_of_notMem {bs : List UInt8} (h : 0 ∉ bs) (more : List UInt8) :
    textBefore (bs ++ more) = bs ++ textBefore more := by
  have hbs : ∀ b ∈ bs, (b != 0) = true := fun b hb => bne_iff_ne.mpr fun h0 => h (h0 ▸ hb)
  rw [textBefore, List.takeWhile_append_of_pos hbs, textBefore]

end ForeignCall.Bytes
