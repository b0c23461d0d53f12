/-!
# Text as bytes

Text crosses the border to native code as UTF-8. Writing is the standard encoding. Reading never
fails: bytes that are no UTF-8 are read as the replacement character `U+FFFD`, one for each longest
run of bytes that starts a well-formed character without finishing it, and one for each byte that
can start none.

## Main definitions

* `Utf8.encode`: the bytes of a list of characters;
* `Utf8.size`, `Utf8.width`: the number of bytes that a string or a list of characters takes;
* `Utf8.splitAt?`: a list of characters cut behind a number of bytes;
* `Utf8.Lead`, `Utf8.lead`: what a first byte announces;
* `Utf8.decode`: the characters that a list of bytes reads as.
-/

namespace ForeignCall.Utf8

/-- The UTF-8 bytes of a list of characters. -/
def encode (cs : List Char) : List UInt8 :=
  cs.flatMap String.utf8EncodeChar

/-- The UTF-8 bytes of a string. -/
def ofString (s : String) : List UInt8 :=
  encode s.toList

/-- The number of UTF-8 bytes of a string. -/
def size (s : String) : Nat :=
  (ofString s).length

/-- The number of UTF-8 bytes of a list of characters. -/
def width : List Char → Nat
  | [] => 0
  | c :: cs => c.utf8Size + width cs

/-- Cuts a list of characters behind a number of bytes, unless that is inside a character or behind
the end. -/
def splitAt? : Nat → List Char → Option (List Char × List Char)
  | 0, cs => some ([], cs)
  | _ + 1, [] => none
  | n + 1, c :: cs =>
    if c.utf8Size ≤ n + 1 then
      (splitAt? (n + 1 - c.utf8Size) cs).map fun (front, rest) => (c :: front, rest)
    else none

/-- The character that stands for bytes which are no UTF-8. -/
def replacement : Char := '\uFFFD'

/-- What a byte announces when it comes first. The payload bits of the first byte come with the
classes of longer characters; where the second byte is restricted, so do its bounds. -/
inductive Lead where
  /-- The byte is a character of its own. -/
  | one
  /-- One more byte follows. -/
  | two (payload : Nat)
  /-- Two more bytes follow, the first of them between the bounds. -/
  | three (payload low high : Nat)
  /-- Three more bytes follow, the first of them between the bounds. -/
  | four (payload low high : Nat)
  /-- No character starts with this byte. -/
  | invalid
  deriving DecidableEq, Repr

/-- The class of a first byte. The bounds exclude overlong forms, surrogates and values past the
last code point. -/
def lead (b : UInt8) : Lead :=
  let n := b.toNat
  if n < 0x80 then .one
  else if n < 0xC2 then .invalid
  else if n < 0xE0 then .two (n - 0xC0)
  else if n = 0xE0 then .three 0 0xA0 0xBF
  else if n = 0xED then .three 13 0x80 0x9F
  else if n < 0xF0 then .three (n - 0xE0) 0x80 0xBF
  else if n = 0xF0 then .four 0 0x90 0xBF
  else if n < 0xF4 then .four (n - 0xF0) 0x80 0xBF
  else if n = 0xF4 then .four 4 0x80 0x8F
  else .invalid

/-- Whether a byte lies between two bounds, both included. -/
def within (low high : Nat) (b : UInt8) : Bool :=
  low ≤ b.toNat && b.toNat ≤ high

/-- Whether a byte continues a character. -/
def isTail (b : UInt8) : Bool :=
  within 0x80 0xBF b

/-- The six payload bits of a continuing byte. -/
def tailBits (b : UInt8) : Nat :=
  b.toNat - 0x80

/-- Reads bytes as text, with the replacement character for what is no UTF-8. -/
def decode : List UInt8 → List Char
  | [] => []
  | b :: rest =>
    match lead b with
    | .one => Char.ofNat b.toNat :: decode rest
    | .invalid => replacement :: decode rest
    | .two p =>
      match rest with
      | c :: rest₁ =>
        if isTail c then Char.ofNat (p * 64 + tailBits c) :: decode rest₁
        else replacement :: decode (c :: rest₁)
      | [] => [replacement]
    | .three p low high =>
      match rest with
      | c :: rest₁ =>
        if within low high c then
          match rest₁ with
          | d :: rest₂ =>
            if isTail d then
              Char.ofNat ((p * 64 + tailBits c) * 64 + tailBits d) :: decode rest₂
            else replacement :: decode (d :: rest₂)
          | [] => [replacement]
        else replacement :: decode (c :: rest₁)
      | [] => [replacement]
    | .four p low high =>
      match rest with
      | c :: rest₁ =>
        if within low high c then
          match rest₁ with
          | d :: rest₂ =>
            if isTail d then
              match rest₂ with
              | e :: rest₃ =>
                if isTail e then
                  Char.ofNat (((p * 64 + tailBits c) * 64 + tailBits d) * 64 + tailBits e) ::
                    decode rest₃
                else replacement :: decode (e :: rest₃)
              | [] => [replacement]
            else replacement :: decode (d :: rest₂)
          | [] => [replacement]
        else replacement :: decode (c :: rest₁)
      | [] => [replacement]

/-- The string that a list of bytes reads as. -/
def toText (bytes : List UInt8) : String :=
  String.ofList (decode bytes)

/-- Whether a list of bytes is UTF-8 throughout: it is exactly what its reading encodes to. -/
def isValid (bytes : List UInt8) : Bool :=
  encode (decode bytes) == bytes

@[simp] theorem encode_nil : encode [] = [] := rfl

@[simp] theorem encode_cons (c : Char) (cs : List Char) :
    encode (c :: cs) = String.utf8EncodeChar c ++ encode cs := by
  simp [encode]

/-- A text can be cut behind any of its characters. -/
theorem splitAt?_width_append (xs ys : List Char) :
    splitAt? (width xs) (xs ++ ys) = some (xs, ys) := by
  induction xs with
  | nil => simp [width, splitAt?]
  | cons c xs ih =>
    have hpos := c.utf8Size_pos
    obtain ⟨n, hn⟩ : ∃ n, width (c :: xs) = n + 1 := ⟨width (c :: xs) - 1, by rw [width]; omega⟩
    have hc : c.utf8Size ≤ n + 1 := by rw [← hn, width]; omega
    have hrest : n + 1 - c.utf8Size = width xs := by rw [← hn, width]; omega
    rw [hn, List.cons_append, splitAt?, if_pos hc, hrest, ih, Option.map_some]

/-- The two parts of a cut are the whole, and the first takes as many bytes as it should. -/
theorem of_splitAt?_eq_some {n : Nat} {cs front rest : List Char}
    (h : splitAt? n cs = some (front, rest)) : front ++ rest = cs ∧ width front = n := by
  induction cs generalizing n front with
  | nil => cases n <;> simp_all [splitAt?, width]
  | cons c cs ih =>
    cases n with
    | zero => simp_all [splitAt?, width]
    | succ n =>
      simp only [splitAt?] at h
      split at h
      · next hc =>
        obtain ⟨⟨front', rest'⟩, hs, he⟩ := Option.map_eq_some_iff.1 h
        obtain ⟨rfl, rfl⟩ := Prod.mk.inj he
        obtain ⟨happ, hw⟩ := ih hs
        exact ⟨by rw [List.cons_append, happ], by rw [width, hw]; omega⟩
      · simp at h

end ForeignCall.Utf8
