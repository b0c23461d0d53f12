import ForeignCall.Proofs.Numerals
import ForeignCall.Proofs.Pairs
import Mathlib.Data.List.TakeWhile

/-!
# The grammar of type tokens

A type token is read from both ends: a mark of an unsigned type is taken off in front, then a mark
of passing by address behind, and what is left has to be a name. Nothing in that says which texts
are tokens. Here the texts are listed, as those that are spelled from parts:

```
token = [ "U" | "u" ] name [ blanks ( "*" | "p" | "P" ) ]
name  = "" | "Str" | "Int" | "Short" | "Char" | "Int64" | "Float" | "Double"
```

with blanks around a token, and letters of either case in names.

## One spelling for a text

Reading from the ends is safe because the parts cannot be mistaken for each other. No name starts
like the mark in front, none ends like one of the marks behind, and none contains a blank. So a text
has one spelling at most, and the reader finds it.

## Main definitions

* `Blank.Trims` — a text without the blanks around it, without reference to the trimming function
* `Token.Spelling` — the parts of a token, with its `chars` and the `token` that it declares

## Main results

* `Blank.trims_iff` — trimming cuts off the blanks around a text, and nothing else
* `Token.kindOfName?_eq_some_iff` — the catalogue of names
* `Token.Spelling.chars_injective` — a text has one spelling at most
* `Token.ofChars?_eq_some_iff` — the reader accepts what has a spelling
* `Token.type_token_grammar` — the grammar
-/

namespace ForeignCall

/-! ## Blanks around a text -/

namespace Blank

variable {cs before after : List Char}

theorem trimStart_trimStart (cs : List Char) : trimStart (trimStart cs) = trimStart cs := by
  cases h : trimStart cs with
  | nil => rfl
  | cons c rest =>
    have hc : ¬ isBlank c = true := by simp [isBlank_head_trimStart h]
    rw [trimStart, List.dropWhile_cons_of_neg hc]

theorem trimEnd_cons {c : Char} (h : isBlank c = false) (cs : List Char) :
    trimEnd (c :: cs) = c :: trimEnd cs := by
  rw [trimEnd, trimEnd, List.reverse_cons, List.dropWhile_append]
  split
  · next hempty =>
    rw [List.isEmpty_iff.mp hempty, List.dropWhile_cons_of_neg (by simp [h])]
    rfl
  · rw [List.reverse_append]
    rfl

/-- What is cut off in front is blank. -/
theorem exists_append_trimStart (cs : List Char) :
    ∃ before, cs = before ++ trimStart cs ∧ ∀ c ∈ before, isBlank c = true :=
  ⟨cs.takeWhile isBlank, List.takeWhile_append_dropWhile.symm, fun _ h => List.mem_takeWhile_imp h⟩

/-- What is cut off behind is blank. -/
theorem exists_trimEnd_append (cs : List Char) :
    ∃ after, cs = trimEnd cs ++ after ∧ ∀ c ∈ after, isBlank c = true := by
  obtain ⟨before, hcs, hbefore⟩ := exists_append_trimStart cs.reverse
  refine ⟨before.reverse, ?_, by simpa using hbefore⟩
  rw [trimEnd, ← trimStart, ← List.reverse_append, ← hcs, List.reverse_reverse]

theorem isBlank_head?_trimStart : ∀ c ∈ (trimStart cs).head?, isBlank c = false := by
  intro c hc
  cases h : trimStart cs with
  | nil => simp [h] at hc
  | cons d rest =>
    obtain rfl : d = c := by simpa [h] using hc
    exact isBlank_head_trimStart h

theorem isBlank_getLast?_trimEnd : ∀ c ∈ (trimEnd cs).getLast?, isBlank c = false := by
  intro c hc
  rw [trimEnd, List.getLast?_reverse] at hc
  exact isBlank_head?_trimStart c hc

/-- A text is `cs` with blanks around it, and these are all the blanks at its ends. -/
structure Trims (cs : List Char) (s : String) : Prop where
  padded : Padded cs s
  first : ∀ c ∈ cs.head?, isBlank c = false
  last : ∀ c ∈ cs.getLast?, isBlank c = false

/-- **Trimming cuts off the blanks around a text**, and nothing else. -/
theorem trims_iff {s : String} : Trims cs s ↔ cs = trim s.toList := by
  constructor
  · rintro ⟨⟨before, after, htext, hbefore, hafter⟩, hfirst, hlast⟩
    rw [htext, trim, List.append_assoc, trimStart_append_of_blank hbefore]
    cases cs with
    | nil =>
      have hall := trimStart_append_of_blank hafter []
      rw [List.append_nil] at hall
      rw [List.nil_append, hall]
      rfl
    | cons c cs => rw [trimStart_eq_self (by simpa using hfirst), trimEnd_append hlast hafter]
  · rintro rfl
    obtain ⟨before, hs, hbefore⟩ := exists_append_trimStart s.toList
    obtain ⟨after, hrest, hafter⟩ := exists_trimEnd_append (trimStart s.toList)
    refine ⟨⟨before, after, ?_, hbefore, hafter⟩, ?_, isBlank_getLast?_trimEnd⟩
    · rw [trim, List.append_assoc, ← hrest, ← hs]
    · intro c hc
      refine @isBlank_head?_trimStart s.toList c ?_
      rw [trim] at hc
      rw [hrest]
      cases h : trimEnd (trimStart s.toList) with
      | nil => simp [h] at hc
      | cons d ds => simpa [h] using hc

end Blank

namespace Token

/-! ## Names -/

/-- A name declares a kind: it is the name of the kind in letters of any case, or it is empty and
stands for `Int`. -/
def Names (name : List Char) (k : Kind) : Prop :=
  (name = [] ∧ k = .int32) ∨ Ascii.equal name k.name.toList = true

/-- The letters of a kind's name, all of them small. -/
def letters (k : Kind) : List Char := k.name.toList.map Ascii.lower

variable {name : List Char} {k : Kind}

theorem letters_injective {k k' : Kind} (h : letters k = letters k') : k = k' := by
  cases k <;> cases k' <;> first | rfl | exact absurd h (by decide)

theorem letters_ne_nil (k : Kind) : letters k ≠ [] := by
  cases k <;> decide

/-- No letter of a name is blank. No name starts like the mark of an unsigned type, and none ends
like a mark of passing by address. -/
theorem letters_apart (k : Kind) : (letters k).any Blank.isBlank = false ∧
    (letters k).head? ≠ some 'u' ∧ (letters k).getLast? ≠ some '*' ∧
    (letters k).getLast? ≠ some 'p' := by
  cases k <;> decide

theorem names_iff : Names name k ↔ (name = [] ∧ k = .int32) ∨ name.map Ascii.lower = letters k := by
  rw [Names, Ascii.equal_iff, letters]

/-- **A name is looked up in the catalogue**, and it stands there once. -/
theorem kindOfName?_eq_some_iff : kindOfName? name = some k ↔ Names name k := by
  rw [names_iff, kindOfName?]
  split
  · next hname =>
    subst hname
    simp [(letters_ne_nil k).symm, eq_comm]
  · next hname =>
    constructor
    · intro h
      have hequal := List.find?_some h
      exact .inr (Ascii.equal_iff.mp hequal).symm
    · rintro (⟨hnil, -⟩ | hletters)
      · exact absurd hnil hname
      · cases hfind : Kind.all.find? fun k => Ascii.equal k.name.toList name with
        | none =>
          have hk := List.find?_eq_none.mp hfind k (Kind.mem_all k)
          exact absurd (Ascii.equal_iff.mpr hletters.symm) hk
        | some k' =>
          have hequal := List.find?_some hfind
          have hk' : letters k' = name.map Ascii.lower := Ascii.equal_iff.mp hequal
          rw [letters_injective (hk'.trans hletters)]

/-! ## Spellings -/

/-- The parts of a written token. -/
structure Spelling where
  /-- The mark of an unsigned type. -/
  unsignedMark : Option Char
  name : List Char
  /-- The mark of passing by address, with the blanks in front of it. -/
  addressMark : Option (List Char × Char)
  kind : Kind
  unsignedMark_eq : ∀ c ∈ unsignedMark, c = 'U' ∨ c = 'u'
  names : Names name kind
  addressMark_eq : ∀ m ∈ addressMark,
    (∀ b ∈ m.1, Blank.isBlank b = true) ∧ (m.2 = '*' ∨ m.2 = 'p' ∨ m.2 = 'P')

namespace Spelling

/-- The characters behind the name. -/
def ending (f : Spelling) : List Char := f.addressMark.elim [] fun m => m.1 ++ [m.2]

/-- The characters of a written token. -/
def chars (f : Spelling) : List Char := f.unsignedMark.toList ++ (f.name ++ f.ending)

/-- What a written token declares. -/
def token (f : Spelling) : Token := ⟨f.kind, f.unsignedMark.isSome, f.addressMark.isSome⟩

end Spelling

/-! ## The parts do not overlap -/

theorem lower_of_isBlank {c : Char} (h : Blank.isBlank c = true) : Ascii.lower c = c := by
  rw [Ascii.lower, if_neg]
  rintro ⟨hlow, hhigh⟩
  have hlow : 0x41 ≤ c.toNat := UInt32.le_iff_toNat_le.mp hlow
  have hhigh : c.toNat ≤ 0x5A := UInt32.le_iff_toNat_le.mp hhigh
  rw [Blank.isBlank_of_visible (by omega) (by omega)] at h
  exact Bool.false_ne_true h

/-- A name contains no blank. -/
theorem Names.isBlank_eq_false (h : Names name k) {c : Char} (hc : c ∈ name) :
    Blank.isBlank c = false := by
  rcases names_iff.mp h with ⟨rfl, -⟩ | hletters
  · simp at hc
  · refine Bool.eq_false_iff.mpr fun hblank => ?_
    have hmem : c ∈ letters k := by
      rw [← hletters, ← lower_of_isBlank hblank]
      exact List.mem_map_of_mem hc
    exact List.any_eq_false.mp (letters_apart k).1 c hmem hblank

/-- A name does not start like the mark of an unsigned type. -/
theorem Names.head_ne (h : Names name k) : ∀ c ∈ name.head?, ¬ (c = 'U' ∨ c = 'u') := by
  intro c hc hmark
  rcases names_iff.mp h with ⟨rfl, -⟩ | hletters
  · simp at hc
  · have hmem : (letters k).head? = some (Ascii.lower c) := by
      rw [← hletters, List.head?_map, hc]
      rfl
    refine (letters_apart k).2.1 (hmem.trans (congrArg some ?_))
    rcases hmark with rfl | rfl <;> rfl

theorem isAddressMark_iff {c : Char} : isAddressMark c = true ↔ c = '*' ∨ c = 'p' ∨ c = 'P' := by
  simp [isAddressMark, or_assoc]

/-- A name does not end like a mark of passing by address. -/
theorem Names.getLast_ne (h : Names name k) : ∀ c ∈ name.getLast?, isAddressMark c = false := by
  intro c hc
  rcases names_iff.mp h with ⟨rfl, -⟩ | hletters
  · simp at hc
  · have hmem : (letters k).getLast? = some (Ascii.lower c) := by
      rw [← hletters, List.getLast?_map, hc]
      rfl
    obtain ⟨-, -, hstar, hp⟩ := letters_apart k
    refine Bool.eq_false_iff.mpr fun hmark => ?_
    rcases isAddressMark_iff.mp hmark with rfl | rfl | rfl
    · exact hstar hmem
    · exact hp hmem
    · exact hp hmem

/-- No mark of passing by address is one of an unsigned type, and none is blank. -/
theorem isAddressMark_apart {c : Char} (h : isAddressMark c = true) :
    ¬ (c = 'U' ∨ c = 'u') ∧ Blank.isBlank c = false := by
  rcases isAddressMark_iff.mp h with rfl | rfl | rfl <;> decide

theorem splitUnsigned_of_mark {c : Char} (h : c = 'U' ∨ c = 'u') (cs : List Char) :
    splitUnsigned (c :: cs) = (true, cs) := if_pos h

theorem splitUnsigned_of_head {cs : List Char} (h : ∀ c ∈ cs.head?, ¬ (c = 'U' ∨ c = 'u')) :
    splitUnsigned cs = (false, cs) := by
  cases cs with
  | nil => rfl
  | cons c cs => exact if_neg (h c rfl)

/-- What is split off in front is a mark of an unsigned type, if anything is. -/
theorem exists_of_splitUnsigned {cs rest : List Char} {b : Bool}
    (h : splitUnsigned cs = (b, rest)) : ∃ mark : Option Char,
      cs = mark.toList ++ rest ∧ mark.isSome = b ∧ ∀ c ∈ mark, c = 'U' ∨ c = 'u' := by
  cases cs with
  | nil =>
    obtain ⟨rfl, rfl⟩ := Prod.mk.inj h
    exact ⟨none, rfl, rfl, by simp⟩
  | cons c cs =>
    rw [splitUnsigned] at h
    split at h
    · next hc =>
      obtain ⟨rfl, rfl⟩ := Prod.mk.inj h
      exact ⟨some c, rfl, rfl, by simpa using hc⟩
    · obtain ⟨rfl, rfl⟩ := Prod.mk.inj h
      exact ⟨none, rfl, rfl, by simp⟩

theorem splitAddress_of_mark {blanks : List Char} {c : Char} (hc : isAddressMark c = true)
    (hname : ∀ d ∈ name.getLast?, Blank.isBlank d = false)
    (hblanks : ∀ b ∈ blanks, Blank.isBlank b = true) :
    splitAddress (name ++ (blanks ++ [c])) = (true, name) := by
  rw [← List.append_assoc, splitAddress, List.getLast?_concat, List.dropLast_concat]
  simp only [hc, if_true, Blank.trimEnd_append hname hblanks]

theorem splitAddress_of_getLast (h : ∀ c ∈ name.getLast?, isAddressMark c = false) :
    splitAddress name = (false, name) := by
  rw [splitAddress]
  split
  · next c hc => rw [if_neg (by simp [h c hc])]
  · rfl

/-- What is split off behind is a mark of passing by address with blanks in front, if anything
is. -/
theorem exists_of_splitAddress {cs : List Char} {b : Bool} (h : splitAddress cs = (b, name)) :
    ∃ mark : Option (List Char × Char), cs = name ++ mark.elim [] (fun m => m.1 ++ [m.2]) ∧
      mark.isSome = b ∧ ∀ m ∈ mark,
        (∀ b ∈ m.1, Blank.isBlank b = true) ∧ (m.2 = '*' ∨ m.2 = 'p' ∨ m.2 = 'P') := by
  rw [splitAddress] at h
  split at h
  · next c hc =>
    split at h
    · next hmark =>
      obtain ⟨rfl, rfl⟩ := Prod.mk.inj h
      obtain ⟨front, rfl⟩ := List.getLast?_eq_some_iff.mp hc
      rw [List.dropLast_concat]
      obtain ⟨blanks, hfront, hblanks⟩ := Blank.exists_trimEnd_append front
      refine ⟨some (blanks, c), ?_, rfl, ?_⟩
      · conv_lhs => rw [hfront]
        rw [List.append_assoc]
        rfl
      · rintro m ⟨rfl⟩
        exact ⟨hblanks, isAddressMark_iff.mp hmark⟩
    · obtain ⟨rfl, rfl⟩ := Prod.mk.inj h
      exact ⟨none, (List.append_nil _).symm, rfl, by simp⟩
  · obtain ⟨rfl, rfl⟩ := Prod.mk.inj h
    exact ⟨none, (List.append_nil _).symm, rfl, by simp⟩

/-! ## Reading a spelling -/

namespace Spelling

variable (f : Spelling)

/-- What follows the mark of an unsigned type does not start with one: it is a name, or else blanks
or a mark of passing by address. -/
theorem head_ne : ∀ c ∈ (f.name ++ f.ending).head?, ¬ (c = 'U' ∨ c = 'u') := by
  obtain ⟨unsignedMark, name, addressMark, kind, -, hnames, haddress⟩ := f
  rcases name with _ | ⟨d, name⟩
  · rcases addressMark with _ | ⟨blanks, mark⟩
    · simp [ending]
    · obtain ⟨hblanks, hmark⟩ := haddress _ rfl
      rcases blanks with _ | ⟨b, blanks⟩
      · rintro c ⟨rfl⟩
        exact (isAddressMark_apart (isAddressMark_iff.mpr hmark)).1
      · rintro c ⟨rfl⟩ hc
        have hblank := hblanks b (List.mem_cons_self ..)
        rcases hc with rfl | rfl <;> exact absurd hblank (by decide)
  · exact hnames.head_ne

theorem splitUnsigned_chars :
    splitUnsigned f.chars = (f.unsignedMark.isSome, f.name ++ f.ending) := by
  rw [chars]
  cases hmark : f.unsignedMark with
  | none => exact splitUnsigned_of_head f.head_ne
  | some c => exact splitUnsigned_of_mark (f.unsignedMark_eq c hmark) _

theorem splitAddress_name_ending :
    splitAddress (f.name ++ f.ending) = (f.addressMark.isSome, f.name) := by
  rw [ending]
  cases hmark : f.addressMark with
  | none =>
    rw [Option.elim_none, List.append_nil]
    exact splitAddress_of_getLast f.names.getLast_ne
  | some m =>
    obtain ⟨hblanks, hm⟩ := f.addressMark_eq m hmark
    exact splitAddress_of_mark (isAddressMark_iff.mpr hm)
      (fun d hd => f.names.isBlank_eq_false (List.mem_of_getLast? hd)) hblanks

/-- **A text has one spelling at most.** -/
theorem chars_injective {f g : Spelling} (h : f.chars = g.chars) : f = g := by
  have hunsigned := f.splitUnsigned_chars
  rw [h, splitUnsigned_chars, Prod.mk.injEq] at hunsigned
  have haddress := f.splitAddress_name_ending
  rw [← hunsigned.2, splitAddress_name_ending, Prod.mk.injEq] at haddress
  have hkind : some g.kind = some f.kind := by
    rw [← kindOfName?_eq_some_iff.mpr g.names, haddress.2, kindOfName?_eq_some_iff.mpr f.names]
  -- the parts in front and behind are what the whole has besides the parts that were found equal
  have hmark : f.unsignedMark.toList = g.unsignedMark.toList := by
    rw [chars, chars, hunsigned.2] at h
    exact List.append_cancel_right h
  have hending : f.ending = g.ending := by
    have hrest := hunsigned.2
    rw [haddress.2] at hrest
    exact (List.append_cancel_left hrest).symm
  obtain ⟨u, name, a, kind, hu, hn, ha⟩ := f
  obtain ⟨u', name', a', kind', hu', hn', ha'⟩ := g
  obtain rfl : name' = name := haddress.2
  obtain rfl := Option.some.inj hkind
  obtain rfl : u = u' := by
    rcases u with _ | c <;> rcases u' with _ | c' <;> simp_all
  obtain rfl : a = a' := by
    rcases a with _ | ⟨bs, c⟩ <;> rcases a' with _ | ⟨bs', c'⟩ <;> simp_all [ending]
  rfl

end Spelling

/-- **The reader accepts what has a spelling**, and reads what the spelling declares. -/
theorem ofChars?_eq_some_iff {cs : List Char} {t : Token} :
    ofChars? cs = some t ↔ ∃ f : Spelling, f.chars = Blank.trim cs ∧ f.token = t := by
  constructor
  · intro h
    rw [ofChars?] at h
    rcases hunsigned : splitUnsigned (Blank.trim cs) with ⟨b, rest⟩
    rcases haddress : splitAddress rest with ⟨b', name⟩
    simp only [hunsigned, haddress] at h
    obtain ⟨kind, hkind, rfl⟩ := Option.map_eq_some_iff.mp h
    obtain ⟨mark, hcs, rfl, hmark⟩ := exists_of_splitUnsigned hunsigned
    obtain ⟨mark', rfl, rfl, hmark'⟩ := exists_of_splitAddress haddress
    exact ⟨⟨mark, name, mark', kind, hmark, kindOfName?_eq_some_iff.mp hkind, hmark'⟩, hcs.symm,
      rfl⟩
  · rintro ⟨f, hf, rfl⟩
    rw [ofChars?, ← hf, f.splitUnsigned_chars]
    simp only [f.splitAddress_name_ending, kindOfName?_eq_some_iff.mpr f.names]
    rfl

theorem parse_eq_ok_iff {s : String} {t : Token} :
    parse s = .ok t ↔ ofChars? s.toList = some t := by
  rw [parse]
  cases ofChars? s.toList <;> simp

/-- Reading either succeeds, or fails with the whole text. -/
theorem parse_eq_ok_or_error (s : String) : (∃ t, parse s = .ok t) ∨ parse s = .error ⟨s⟩ := by
  rw [parse]
  cases ofChars? s.toList with
  | some t => exact .inl ⟨t, rfl⟩
  | none => exact .inr rfl

/-- **The grammar of type tokens.** A text is read exactly if it is a spelling with blanks around
it, and then as what the spelling declares. There is one such spelling at most. A text that has none
is the error, with its blanks. Marshaling a pair that starts with a text that is read fills an
argument that was declared so, with nothing in its slot. -/
theorem type_token_grammar (s : String) :
    (∀ t, parse s = .ok t ↔ ∃ f : Spelling, Blank.Trims f.chars s ∧ f.token = t) ∧
    (∀ f g : Spelling, Blank.Trims f.chars s → Blank.Trims g.chars s → f = g) ∧
    (∀ e, parse s = .error e ↔ (∀ f : Spelling, ¬ Blank.Trims f.chars s) ∧ e = ⟨s⟩) ∧
    ∀ t, parse s = .ok t → ∀ (type o : Operand) (rest : List Operand) (site : Site) (index : ℕ),
      type.text = s → (marshalPairs site index (type :: o :: rest)).2 =
        (Argument.fill site index ⟨t, 0, none⟩ o).bind fun a =>
          (marshalPairs site (index + 1) rest).2.map (a :: ·) := by
  have hread : ∀ t, parse s = .ok t ↔ ∃ f : Spelling, Blank.Trims f.chars s ∧ f.token = t := by
    intro t
    simp only [parse_eq_ok_iff, ofChars?_eq_some_iff, Blank.trims_iff]
  refine ⟨hread, ?_, ?_, ?_⟩
  · intro f g hf hg
    rw [Blank.trims_iff] at hf hg
    exact Spelling.chars_injective (hf.trans hg.symm)
  · intro e
    rcases parse_eq_ok_or_error s with ⟨t, ht⟩ | herror
    · obtain ⟨f, hf, -⟩ := (hread t).mp ht
      rw [ht]
      exact ⟨fun h => absurd h (by simp), fun h => absurd hf (h.1 f)⟩
    · rw [herror, Except.error.injEq, eq_comm, iff_and_self]
      rintro - f hf
      rw [(hread f.token).mpr ⟨f, hf, rfl⟩] at herror
      exact absurd herror (by simp)
  · rintro t ht type o rest site index rfl
    rw [marshalPairs_cons, pairArgument_of_parse ht, fillArgument]

/-- `U  *` is spelled with both marks, two blanks and no name. -/
example : parse " U  * " = .ok ⟨.int32, true, true⟩ := by decide

end Token

end ForeignCall
