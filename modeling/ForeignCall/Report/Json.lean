import ForeignCall.Number.Layout

/-!
# JSON

Values in the JSON notation, on one line and without blanks. An object has its keys in order, each
of them once.

## Main definitions

* `Json`, with `Json.insert` and `Json.object` building objects;
* `Json.escape`: a text between quotes;
* `Json.write`: the text of a value.

## Main results

* `Json.find?_insert`: an inserted key has the inserted value, and no other key changes.
-/

namespace ForeignCall

/-- A JSON value. The members of an object are kept in the order of their keys. -/
inductive Json where
  | null
  | integer (i : Int)
  | real (x : Number.Double)
  | text (s : String)
  | members (ms : List (String × Json))

namespace Json

/-- Puts a member into a list of members in its place, instead of an earlier one of that key. -/
def insert (key : String) (v : Json) : List (String × Json) → List (String × Json)
  | [] => [(key, v)]
  | m :: ms =>
    if key = m.1 then (key, v) :: ms
    else if key < m.1 then (key, v) :: m :: ms
    else m :: insert key v ms

/-- The object with the given members; of several members of one key the last one counts. -/
def object (ms : List (String × Json)) : Json :=
  .members (ms.foldl (fun acc m => insert m.1 m.2 acc) [])

/-- The member of a key. -/
def find? (key : String) (ms : List (String × Json)) : Option Json :=
  (ms.find? fun m => m.1 = key).map Prod.snd

/-- Numbers up to `10 ^ 16` and down to `10 ^ (-5)` are written positionally, integers end in
`.0`, and positive exponents have a sign. -/
def layout : Number.Layout where
  tie := .even
  isPositional := fun decade => -5 ≤ decade && decade ≤ 15
  marksWhole := fun _ => true
  exponentMark := ['e', '+']

/-- The two digits of a control character. -/
def controlDigits (c : Char) : List Char :=
  let ds := Nat.toDigits 16 c.toNat
  List.replicate (2 - ds.length) '0' ++ ds

/-- A character inside quotes. -/
def escape (c : Char) : List Char :=
  if c = '"' then ['\\', '"']
  else if c = '\\' then ['\\', '\\']
  else if c = '\n' then ['\\', 'n']
  else if c = '\r' then ['\\', 'r']
  else if c = '\t' then ['\\', 't']
  else if c = '\x08' then ['\\', 'b']
  else if c = '\x0c' then ['\\', 'f']
  else if c.toNat < 0x20 then ['\\', 'u', '0', '0'] ++ controlDigits c
  else [c]

/-- A text between quotes. -/
def quote (s : String) : List Char :=
  '"' :: s.toList.flatMap escape ++ ['"']

/-- An integer in decimal digits. -/
def integerText (i : Int) : List Char :=
  (if i < 0 then ['-'] else []) ++ Number.digits i.natAbs

mutual

/-- The characters of a value. -/
def chars : Json → List Char
  | .null => "null".toList
  | .integer i => integerText i
  | .real x => if x.isFinite then layout.write x else "null".toList
  | .text s => quote s
  | .members ms => '\x7b' :: memberChars ms ++ ['\x7d']

/-- The characters of members, with commas in between. -/
def memberChars : List (String × Json) → List Char
  | [] => []
  | [m] => quote m.1 ++ ':' :: chars m.2
  | m :: ms => quote m.1 ++ ':' :: chars m.2 ++ ',' :: memberChars ms

end

/-- The text of a value. -/
def write (j : Json) : String := String.ofList j.chars

/-- An inserted key has the inserted value, and no other key changes. -/
theorem find?_insert (key k : String) (v : Json) (ms : List (String × Json)) :
    find? k (insert key v ms) = if key = k then some v else find? k ms := by
  induction ms with
  | nil =>
    by_cases h : key = k <;> simp [insert, find?, h]
  | cons m ms ih =>
    simp only [insert]
    split
    · next hm =>
      by_cases h : key = k
      · simp [find?, h]
      · have hk : m.1 ≠ k := hm ▸ h
        simp [find?, h, hk]
    · split
      · by_cases h : key = k <;> simp [find?, h]
      · next hm _ =>
        by_cases h : key = k
        · have hk : m.1 ≠ k := fun e => hm (h.trans e.symm)
          simp only [find?, List.find?_cons, hk, decide_false] at ih ⊢
          simpa [h] using ih
        · by_cases hk : m.1 = k
          · simp [find?, h, hk]
          · simp only [find?, List.find?_cons, hk, decide_false] at ih ⊢
            simpa [h] using ih

end Json

end ForeignCall
