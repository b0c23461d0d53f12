/-!
# Blank characters

The characters that count as white space around a token, a number or a function name, and the
three ways of cutting them off a text.

The set is the Unicode property `White_Space`. It is wider than `Char.isWhitespace`, which knows
only the space, the tab, the carriage return and the line feed.

## Main definitions

* `Blank.isBlank`: membership in the set;
* `Blank.trimStart`, `Blank.trimEnd`, `Blank.trim`: a list of characters without its leading,
  trailing, or surrounding blanks;
* `Blank.strip`: `trim` on strings.
-/

namespace ForeignCall.Blank

/-- The characters with the Unicode property `White_Space`. -/
def isBlank (c : Char) : Bool :=
  let n := c.toNat
  (9 ≤ n && n ≤ 13) || n == 0x20 || n == 0x85 || n == 0xA0 || n == 0x1680 ||
    (0x2000 ≤ n && n ≤ 0x200A) || n == 0x2028 || n == 0x2029 || n == 0x202F || n == 0x205F ||
    n == 0x3000

/-- Drops the leading blanks. -/
def trimStart (cs : List Char) : List Char :=
  cs.dropWhile isBlank

/-- Drops the trailing blanks. -/
def trimEnd (cs : List Char) : List Char :=
  (cs.reverse.dropWhile isBlank).reverse

/-- Drops the blanks on both sides. -/
def trim (cs : List Char) : List Char :=
  trimEnd (trimStart cs)

/-- A string without the blanks on both sides. -/
def strip (s : String) : String :=
  String.ofList (trim s.toList)

/-- What `trimStart` keeps does not start with a blank. -/
theorem isBlank_head_trimStart {cs : List Char} {c : Char} {rest : List Char}
    (h : trimStart cs = c :: rest) : isBlank c = false := by
  induction cs with
  | nil => simp [trimStart] at h
  | cons d ds ih =>
    rw [trimStart, List.dropWhile_cons] at h
    split at h
    · exact ih h
    · next hd =>
      obtain ⟨rfl, -⟩ := List.cons.inj h
      simpa using hd

end ForeignCall.Blank
