import ForeignCall.Buffer
import Mathlib.Data.List.TakeWhile
import Mathlib.Data.Nat.Notation

/-!
# Text that is written and read again

Text is written as UTF-8, and reading has to cope with bytes that are none. On bytes that were
written it has nothing to cope with: it finds the characters that they were written for, one after
the other. So a text without a NUL comes back out of the buffer that it was put into, however large
the buffer is.

## How characters are taken apart

The code of a character is cut into groups of six bits. The last groups stand in continuing bytes,
the first one in a byte that tells how many follow. Two first bytes of each longer form leave room
for codes which are too small for it, or are no characters; the bounds on the second byte exclude
these, and a character keeps to them.

## Main results

* `Utf8.decode_utf8EncodeChar_append` — reading finds the character that the first bytes were
  written for
* `Utf8.decode_encode`, `Utf8.toText_ofString` — what was written is read again
* `Utf8.zero_mem_utf8EncodeChar_iff` — only the NUL character has a zero byte
* `Buffer.readText_ofText` — a text comes back out of a new buffer, up to its first NUL
-/

namespace ForeignCall

namespace Utf8

/-! ## First bytes -/

variable {b c d e : UInt8} {rest : List UInt8}

theorem lead_one (h : b.toNat < 0x80) : lead b = .one := by
  simp only [lead]
  rw [if_pos h]

theorem lead_two (hlow : 0xC2 ≤ b.toNat) (hhigh : b.toNat < 0xE0) :
    lead b = .two (b.toNat - 0xC0) := by
  simp only [lead]
  rw [if_neg (by omega), if_neg (by omega), if_pos hhigh]

/-- The first byte of a character of three bytes, with the bounds on the second one. -/
theorem lead_three (hlow : 0xE0 ≤ b.toNat) (hhigh : b.toNat < 0xF0) :
    lead b = .three (b.toNat - 0xE0) (if b.toNat = 0xE0 then 0xA0 else 0x80)
      (if b.toNat = 0xED then 0x9F else 0xBF) := by
  simp only [lead]
  rw [if_neg (by omega), if_neg (by omega), if_neg (by omega)]
  split
  · next h => simp [h]
  · split
    · next h => simp [h]
    · rfl

/-- The first byte of a character of four bytes, with the bounds on the second one. -/
theorem lead_four (hlow : 0xF0 ≤ b.toNat) (hhigh : b.toNat ≤ 0xF4) :
    lead b = .four (b.toNat - 0xF0) (if b.toNat = 0xF0 then 0x90 else 0x80)
      (if b.toNat = 0xF4 then 0x8F else 0xBF) := by
  simp only [lead]
  rw [if_neg (by omega), if_neg (by omega), if_neg (by omega), if_neg (by omega),
    if_neg (by omega), if_neg (by omega)]
  split
  · next h => simp [h]
  · split
    · next h => rw [if_neg (by omega)]
    · rw [if_pos (by omega)]
      simp [show b.toNat = 0xF4 by omega]

/-! ## Well-formed characters -/

theorem decode_one (hb : lead b = .one) :
    decode (b :: rest) = Char.ofNat b.toNat :: decode rest := by
  rw [decode, hb]

theorem decode_two {p : ℕ} (hb : lead b = .two p) (hc : isTail c = true) :
    decode (b :: c :: rest) = Char.ofNat (p * 64 + tailBits c) :: decode rest := by
  rw [decode, hb]
  exact if_pos hc

theorem decode_three {p low high : ℕ} (hb : lead b = .three p low high)
    (hc : within low high c = true) (hd : isTail d = true) :
    decode (b :: c :: d :: rest) =
      Char.ofNat ((p * 64 + tailBits c) * 64 + tailBits d) :: decode rest := by
  rw [decode, hb]
  exact (if_pos hc).trans (if_pos hd)

theorem decode_four {p low high : ℕ} (hb : lead b = .four p low high)
    (hc : within low high c = true) (hd : isTail d = true) (he : isTail e = true) :
    decode (b :: c :: d :: e :: rest) =
      Char.ofNat (((p * 64 + tailBits c) * 64 + tailBits d) * 64 + tailBits e) ::
        decode rest := by
  rw [decode, hb]
  exact (if_pos hc).trans ((if_pos hd).trans (if_pos he))

/-! ## Six bits -/

/-- The byte that holds six bits of a character. -/
def tailByte (n : ℕ) : UInt8 := UInt8.ofNat (n % 64 + 0x80)

theorem toNat_tailByte (n : ℕ) : (tailByte n).toNat = n % 64 + 0x80 := by
  rw [tailByte, UInt8.toNat_ofNat']
  exact Nat.mod_eq_of_lt (by omega)

@[simp] theorem tailBits_tailByte (n : ℕ) : tailBits (tailByte n) = n % 64 :=
  Nat.sub_eq_of_eq_add (toNat_tailByte n)

theorem within_tailByte {low high n : ℕ} (hlow : low ≤ n % 64 + 0x80)
    (hhigh : n % 64 + 0x80 ≤ high) : within low high (tailByte n) = true := by
  rw [within, toNat_tailByte, Bool.and_eq_true, decide_eq_true_eq, decide_eq_true_eq]
  exact ⟨hlow, hhigh⟩

theorem isTail_tailByte (n : ℕ) : isTail (tailByte n) = true :=
  within_tailByte (by omega) (by omega)

/-! ## Characters -/

/-- The code of a character leaves out surrogates, and ends behind the supplementary planes. -/
theorem toNat_isValidChar (c : Char) : c.toNat < 0xD800 ∨ 0xDFFF < c.toNat ∧ c.toNat < 0x110000 :=
  c.valid

/-- The bytes of a character, by the size of its code. -/
theorem utf8EncodeChar_eq (c : Char) :
    String.utf8EncodeChar c =
      if c.toNat ≤ 0x7F then [UInt8.ofNat c.toNat]
      else if c.toNat ≤ 0x7FF then [UInt8.ofNat (c.toNat / 64 + 0xC0), tailByte c.toNat]
      else if c.toNat ≤ 0xFFFF then
        [UInt8.ofNat (c.toNat / 64 / 64 + 0xE0), tailByte (c.toNat / 64), tailByte c.toNat]
      else
        [UInt8.ofNat (c.toNat / 64 / 64 / 64 + 0xF0), tailByte (c.toNat / 64 / 64),
          tailByte (c.toNat / 64), tailByte c.toNat] := by
  have hvalid := toNat_isValidChar c
  have hn : c.val.toNat = c.toNat := rfl
  simp only [String.utf8EncodeChar, hn, tailByte]
  generalize c.toNat = n at hvalid
  have h₂ : n / 4096 = n / 64 / 64 := by omega
  have h₃ : n / 262144 = n / 64 / 64 / 64 := by omega
  rw [h₂, h₃]
  refine ite_congr rfl (fun _ => rfl) fun _ => ite_congr rfl (fun h => ?_) fun _ =>
    ite_congr rfl (fun h => ?_) fun h => ?_
  · rw [Nat.mod_eq_of_lt (by omega : n / 64 < 32)]
  · rw [Nat.mod_eq_of_lt (by omega : n / 64 / 64 < 16)]
  · rw [Nat.mod_eq_of_lt (by omega : n / 64 / 64 / 64 < 8)]

/-- **Reading finds the character** that the first bytes were written for. -/
theorem decode_utf8EncodeChar_append (c : Char) (rest : List UInt8) :
    decode (String.utf8EncodeChar c ++ rest) = c :: decode rest := by
  have hvalid := toNat_isValidChar c
  have hchar : Char.ofNat c.toNat = c := Char.ofNat_toNat c
  rw [utf8EncodeChar_eq]
  generalize hn : c.toNat = n at hvalid hchar ⊢
  split
  · next h₁ =>
    have hb : (UInt8.ofNat n).toNat = n := by
      rw [UInt8.toNat_ofNat', Nat.mod_eq_of_lt (by omega)]
    rw [List.singleton_append, decode_one (lead_one (by omega)), hb, hchar]
  · split
    · next h₁ h₂ =>
      have hb : (UInt8.ofNat (n / 64 + 0xC0)).toNat = n / 64 + 0xC0 := by
        rw [UInt8.toNat_ofNat', Nat.mod_eq_of_lt (by omega)]
      have hcode : (n / 64 + 0xC0 - 0xC0) * 64 + n % 64 = n := by omega
      rw [List.cons_append, List.singleton_append,
        decode_two (lead_two (by omega) (by omega)) (isTail_tailByte n), hb, tailBits_tailByte,
        hcode, hchar]
    · split
      · next h₁ h₂ h₃ =>
        have hb : (UInt8.ofNat (n / 64 / 64 + 0xE0)).toNat = n / 64 / 64 + 0xE0 := by
          rw [UInt8.toNat_ofNat', Nat.mod_eq_of_lt (by omega)]
        have hcode : ((n / 64 / 64 + 0xE0 - 0xE0) * 64 + n / 64 % 64) * 64 + n % 64 = n := by
          omega
        -- codes below 0x800 are too small for this form, and surrogates are no characters
        have hsecond : within (if n / 64 / 64 + 0xE0 = 0xE0 then 0xA0 else 0x80)
            (if n / 64 / 64 + 0xE0 = 0xED then 0x9F else 0xBF) (tailByte (n / 64)) = true :=
          within_tailByte (by split <;> omega) (by split <;> omega)
        rw [← hb] at hsecond
        rw [List.cons_append, List.cons_append, List.singleton_append,
          decode_three (lead_three (by omega) (by omega)) hsecond (isTail_tailByte n), hb,
          tailBits_tailByte, tailBits_tailByte, hcode, hchar]
      · next h₁ h₂ h₃ =>
        have hb : (UInt8.ofNat (n / 64 / 64 / 64 + 0xF0)).toNat = n / 64 / 64 / 64 + 0xF0 := by
          rw [UInt8.toNat_ofNat', Nat.mod_eq_of_lt (by omega)]
        have hcode : (((n / 64 / 64 / 64 + 0xF0 - 0xF0) * 64 + n / 64 / 64 % 64) * 64 +
            n / 64 % 64) * 64 + n % 64 = n := by omega
        -- codes below 0x10000 are too small for this form, and there are none past 0x10FFFF
        have hsecond : within (if n / 64 / 64 / 64 + 0xF0 = 0xF0 then 0x90 else 0x80)
            (if n / 64 / 64 / 64 + 0xF0 = 0xF4 then 0x8F else 0xBF) (tailByte (n / 64 / 64)) =
              true :=
          within_tailByte (by split <;> omega) (by split <;> omega)
        rw [← hb] at hsecond
        rw [List.cons_append, List.cons_append, List.cons_append, List.singleton_append,
          decode_four (lead_four (by omega) (by omega)) hsecond (isTail_tailByte (n / 64))
            (isTail_tailByte n), hb, tailBits_tailByte, tailBits_tailByte, tailBits_tailByte,
          hcode, hchar]

/-- **What was written is read again.** -/
@[simp] theorem decode_encode (cs : List Char) : decode (encode cs) = cs := by
  induction cs with
  | nil => rw [encode_nil, decode]
  | cons c cs ih => rw [encode_cons, decode_utf8EncodeChar_append, ih]

@[simp] theorem toText_ofString (s : String) : toText (ofString s) = s := by
  rw [toText, ofString, decode_encode, String.ofList_toList]

/-! ## Zero bytes -/

theorem zero_ne_ofNat {n : ℕ} (hpos : 0 < n) (hlt : n < 256) : 0 ≠ UInt8.ofNat n := by
  intro h
  have hn := congrArg UInt8.toNat h
  rw [UInt8.toNat_ofNat', Nat.mod_eq_of_lt hlt, UInt8.toNat_zero] at hn
  omega

theorem zero_ne_tailByte (n : ℕ) : 0 ≠ tailByte n :=
  zero_ne_ofNat (by omega) (by omega)

/-- A character of more than one byte has no zero byte. -/
theorem zero_notMem_utf8EncodeChar {c : Char} (h : 0x7F < c.toNat) :
    0 ∉ String.utf8EncodeChar c := by
  have hvalid := toNat_isValidChar c
  rw [utf8EncodeChar_eq, if_neg (by omega)]
  split
  · simp only [List.mem_cons, List.not_mem_nil, or_false, not_or]
    exact ⟨zero_ne_ofNat (by omega) (by omega), zero_ne_tailByte _⟩
  · split
    · simp only [List.mem_cons, List.not_mem_nil, or_false, not_or]
      exact ⟨zero_ne_ofNat (by omega) (by omega), zero_ne_tailByte _, zero_ne_tailByte _⟩
    · simp only [List.mem_cons, List.not_mem_nil, or_false, not_or]
      exact ⟨zero_ne_ofNat (by omega) (by omega), zero_ne_tailByte _, zero_ne_tailByte _,
        zero_ne_tailByte _⟩

/-- Only the NUL character has a zero byte. -/
theorem zero_mem_utf8EncodeChar_iff {c : Char} : 0 ∈ String.utf8EncodeChar c ↔ c = '\x00' := by
  constructor
  · intro hmem
    have hle : c.toNat ≤ 0x7F := Nat.not_lt.mp fun h => zero_notMem_utf8EncodeChar h hmem
    rw [utf8EncodeChar_eq, if_pos hle, List.mem_singleton] at hmem
    have hn : c.toNat = 0 := by
      rcases Nat.eq_zero_or_pos c.toNat with hn | hn
      · exact hn
      · exact absurd hmem (zero_ne_ofNat hn (by omega))
    rw [← Char.ofNat_toNat c, hn]
  · rintro rfl
    decide

end Utf8

namespace Bytes

/-- The text in front of a NUL is all that stands there. -/
theorem textBefore_append_zero {bs : List UInt8} (h : 0 ∉ bs) (rest : List UInt8) :
    textBefore (bs ++ 0 :: rest) = bs := by
  rw [textBefore_append_of_notMem h, textBefore, List.takeWhile_cons_of_neg (by simp),
    List.append_nil]

/-- Of a text that was written the characters in front of its first NUL are found. -/
theorem textBefore_encode_append (cs : List Char) (rest : List UInt8) :
    textBefore (Utf8.encode cs ++ 0 :: rest) = Utf8.encode (cs.takeWhile (· ≠ '\x00')) := by
  induction cs with
  | nil => rfl
  | cons c cs ih =>
    by_cases hc : c = '\x00'
    · subst hc
      rfl
    · have hzero : 0 ∉ String.utf8EncodeChar c := fun h =>
        hc (Utf8.zero_mem_utf8EncodeChar_iff.mp h)
      rw [Utf8.encode_cons, List.append_assoc, textBefore_append_of_notMem hzero, ih,
        List.takeWhile_cons_of_pos (by simpa using hc), Utf8.encode_cons]

end Bytes

/-! ## Buffers -/

namespace Buffer

variable {start : UInt64} {s : String} {capacity : ℕ}

/-- A new buffer holds the bytes of the text and a NUL at least. -/
theorem exists_bytes_ofText (start : UInt64) (s : String) (capacity : ℕ) :
    ∃ n, (ofText start s capacity).bytes = Utf8.ofString s ++ 0 :: List.replicate n 0 := by
  obtain ⟨n, hn⟩ : ∃ n, max capacity ((Utf8.ofString s).length + 1) - (Utf8.ofString s).length =
      n + 1 := Nat.exists_eq_add_one.mpr (by omega)
  refine ⟨n, ?_⟩
  simp only [ofText, hn, List.replicate_succ]

/-- A new buffer needs no terminator of its own. -/
theorem zero_mem_ofText (start : UInt64) (s : String) (capacity : ℕ) :
    0 ∈ (ofText start s capacity).bytes := by
  obtain ⟨n, hn⟩ := exists_bytes_ofText start s capacity
  rw [hn]
  simp

/-- The text in front of the first NUL of a new buffer. -/
theorem textBefore_ofText (start : UInt64) (s : String) (capacity : ℕ) :
    Bytes.textBefore (ofText start s capacity).bytes =
      Utf8.encode (s.toList.takeWhile (· ≠ '\x00')) := by
  obtain ⟨n, hn⟩ := exists_bytes_ofText start s capacity
  rw [hn, Utf8.ofString, Bytes.textBefore_encode_append]

/-- **A text comes back out of a new buffer** up to its first NUL. -/
theorem readText_ofText (start : UInt64) (s : String) (capacity : ℕ) :
    (ofText start s capacity).readText = String.ofList (s.toList.takeWhile (· ≠ '\x00')) := by
  rw [readText, terminate, if_pos (zero_mem_ofText start s capacity), textBefore_ofText,
    Utf8.toText, Utf8.decode_encode]

theorem takeWhile_of_notMem (h : '\x00' ∉ s.toList) :
    s.toList.takeWhile (· ≠ '\x00') = s.toList := by
  rw [List.takeWhile_eq_self_iff]
  intro c hc
  rw [decide_eq_true_eq]
  rintro rfl
  exact h hc

/-- A text without a NUL comes back whole. -/
theorem readText_ofText_of_notMem (h : '\x00' ∉ s.toList) :
    (ofText start s capacity).readText = s := by
  rw [readText_ofText, takeWhile_of_notMem h, String.ofList_toList]

theorem textBefore_ofText_of_notMem (h : '\x00' ∉ s.toList) :
    Bytes.textBefore (ofText start s capacity).bytes = Utf8.ofString s := by
  rw [textBefore_ofText, takeWhile_of_notMem h, Utf8.ofString]

end Buffer

end ForeignCall
