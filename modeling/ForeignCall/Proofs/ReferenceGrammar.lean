import ForeignCall.Proofs.TokenGrammar
import ForeignCall.Reference
import Mathlib.Data.List.Basic

/-!
# The grammar of function texts

Four things can be meant by the text of a function operand, and their forms overlap: a library may
be called like a number, and its path may hold more backslashes than the one in front of the symbol.
They are told apart by the order in which the reader asks. A backslash anywhere decides for a
library and a symbol; without one, the first character decides between an address and a bare symbol.

Here the forms are listed side by side, each with the condition under which it applies, so that no
order is needed:

```
text = library "\" name        name without a backslash, both parts not empty
     | number                  starts with a digit or a sign, and is not zero when it is read
     | name                    anything else without a backslash, not empty
```

and the other texts name no function.

## Splitting loses nothing

A text with a backslash is split at the last one. Whatever the library looks like, joining it to a
name without a backslash and splitting the text again yields both parts, as long as the blanks that
are trimmed off a text do not belong to one of them.

## Main definitions

* `Reference.StartsNumber` — the texts that are meant as numbers
* `Reference.Means` — what a text without blanks around it means

## Main results

* `Reference.splitLast?_append`, `splitLast?_eq_none_iff` — a text is split at its last backslash
* `Reference.ofTrimmed_eq_iff` — the reader yields what the text means
* `Reference.function_text_grammar` — the grammar, and splitting undoes joining
-/

namespace ForeignCall.Reference

/-! ## Splitting at the last occurrence -/

variable {c : Char} {cs front back library name : List Char}

theorem splitLast?_append (h : c ∉ back) :
    splitLast? c (front ++ c :: back) = some (front, back) := by
  have hback : ∀ d ∈ back.reverse, decide (d ≠ c) = true := by
    intro d hd
    exact decide_eq_true fun heq => h (heq ▸ List.mem_reverse.mp hd)
  have hreverse : (front ++ c :: back).reverse = back.reverse ++ c :: front.reverse := by simp
  rw [splitLast?, hreverse, List.dropWhile_append_of_pos hback, List.takeWhile_append_of_pos hback]
  simp

/-- Where a character occurs, there is a last occurrence. -/
theorem exists_last_split (h : c ∈ cs) : ∃ front back, cs = front ++ c :: back ∧ c ∉ back := by
  obtain ⟨back, front, hreverse, hback⟩ := List.eq_append_cons_of_mem (List.mem_reverse.mpr h)
  refine ⟨front.reverse, back.reverse, ?_, by simpa using hback⟩
  rw [← List.reverse_reverse cs, hreverse]
  simp

/-- A text without the character is not split. -/
theorem splitLast?_eq_none_iff : splitLast? c cs = none ↔ c ∉ cs := by
  constructor
  · intro h hc
    obtain ⟨front, back, rfl, hback⟩ := exists_last_split hc
    rw [splitLast?_append hback] at h
    exact absurd h (by simp)
  · intro hc
    have hall : cs.reverse.dropWhile (· ≠ c) = [] := by
      refine List.dropWhile_eq_nil_iff.mpr fun d hd => ?_
      exact decide_eq_true fun heq => hc (heq ▸ List.mem_reverse.mp hd)
    rw [splitLast?, hall]

/-! ## What a text means -/

/-- A text that is meant as a number: it starts with a digit or a sign. -/
def StartsNumber (cs : List Char) : Prop :=
  ∃ c ∈ cs.head?, c.isDigit = true ∨ c = '-' ∨ c = '+'

/-- What a text without blanks around it means: a reference, or that it names no function. -/
inductive Means : List Char → Except InvalidFunction Reference → Prop where
  | qualified {library name : List Char} (hlibrary : library ≠ []) (hname : name ≠ [])
      (last : '\\' ∉ name) : Means (library ++ '\\' :: name)
        (.ok (.symbol (some (String.ofList library)) (String.ofList name)))
  | halved {library name : List Char} (missing : library = [] ∨ name = []) (last : '\\' ∉ name) :
      Means (library ++ '\\' :: name) (.error ⟨String.ofList (library ++ '\\' :: name)⟩)
  | empty : Means [] (.error ⟨""⟩)
  /-- An address is taken modulo `2 ^ 64`. -/
  | address {cs : List Char} {i : ℤ} (unqualified : '\\' ∉ cs) (number : StartsNumber cs)
      (read : Number.Numeral.integer? (String.ofList cs) = some i) (hi : i ≠ 0) :
      Means cs (.ok (.address (UInt64.ofInt i)))
  | nowhere {cs : List Char} (unqualified : '\\' ∉ cs) (number : StartsNumber cs)
      (read : Number.Numeral.integer? (String.ofList cs) = none ∨
        Number.Numeral.integer? (String.ofList cs) = some 0) :
      Means cs (.error ⟨String.ofList cs⟩)
  | bare {cs : List Char} (unqualified : '\\' ∉ cs) (nonempty : cs ≠ [])
      (word : ¬ StartsNumber cs) : Means cs (.ok (.symbol none (String.ofList cs)))

theorem startsNumber_cons_iff : StartsNumber (c :: cs) ↔ startsNumber c = true := by
  simp [StartsNumber, startsNumber, or_assoc]

/-! ## The reader -/

theorem ofTrimmed_of_backslash (h : '\\' ∉ name) : ofTrimmed (library ++ '\\' :: name) =
    if library = [] ∨ name = [] then .error ⟨String.ofList (library ++ '\\' :: name)⟩
    else .ok (.symbol (some (String.ofList library)) (String.ofList name)) := by
  simp only [ofTrimmed, splitLast?_append h]

theorem ofTrimmed_of_startsNumber (hplain : '\\' ∉ cs) (h : StartsNumber cs) : ofTrimmed cs =
    match Number.Numeral.integer? (String.ofList cs) with
    | none => .error ⟨String.ofList cs⟩
    | some 0 => .error ⟨String.ofList cs⟩
    | some i => .ok (.address (UInt64.ofInt i)) := by
  cases cs with
  | nil =>
    obtain ⟨c, hc, -⟩ := h
    exact absurd hc (by simp)
  | cons c cs =>
    rw [Number.Numeral.integer?, String.toList_ofList]
    simp only [ofTrimmed, splitLast?_eq_none_iff.mpr hplain]
    exact if_pos (startsNumber_cons_iff.mp h)

theorem ofTrimmed_of_word (hplain : '\\' ∉ cs) (hne : cs ≠ []) (h : ¬ StartsNumber cs) :
    ofTrimmed cs = .ok (.symbol none (String.ofList cs)) := by
  obtain ⟨c, cs, rfl⟩ := List.exists_cons_of_ne_nil hne
  simp only [ofTrimmed, splitLast?_eq_none_iff.mpr hplain, ← @startsNumber_cons_iff c cs, h,
    if_false]

/-- What the reader yields is what the text means. -/
theorem means_ofTrimmed (cs : List Char) : Means cs (ofTrimmed cs) := by
  by_cases hback : '\\' ∈ cs
  · obtain ⟨library, name, rfl, hlast⟩ := exists_last_split hback
    rw [ofTrimmed_of_backslash hlast]
    split
    · next hmissing => exact .halved hmissing hlast
    · next hparts => exact .qualified (not_or.mp hparts).1 (not_or.mp hparts).2 hlast
  · by_cases hnumber : StartsNumber cs
    · rw [ofTrimmed_of_startsNumber hback hnumber]
      split
      · next hread => exact .nowhere hback hnumber (.inl hread)
      · next hread => exact .nowhere hback hnumber (.inr hread)
      · next i hi hread => exact .address hback hnumber hread hi
    · rcases eq_or_ne cs [] with rfl | hne
      · exact .empty
      · rw [ofTrimmed_of_word hback hne hnumber]
        exact .bare hback hne hnumber

/-- A text has one meaning. -/
theorem Means.eq_ofTrimmed {r : Except InvalidFunction Reference} (h : Means cs r) :
    r = ofTrimmed cs := by
  cases h with
  | qualified hlibrary hname hlast =>
    rw [ofTrimmed_of_backslash hlast, if_neg (not_or.mpr ⟨hlibrary, hname⟩)]
  | halved hmissing hlast => rw [ofTrimmed_of_backslash hlast, if_pos hmissing]
  | empty => rfl
  | address hplain hnumber hread hi =>
    rw [ofTrimmed_of_startsNumber hplain hnumber, hread]
    split
    · next h => exact absurd h (by simp)
    · next h => exact absurd (Option.some.inj h) hi
    · next h => rw [Option.some.inj h]
  | nowhere hplain hnumber hread =>
    rw [ofTrimmed_of_startsNumber hplain hnumber]
    rcases hread with hread | hread <;> simp only [hread]
  | bare hplain hne hword => rw [ofTrimmed_of_word hplain hne hword]

/-- **The reader yields what a text means.** -/
theorem ofTrimmed_eq_iff {r : Except InvalidFunction Reference} : ofTrimmed cs = r ↔ Means cs r :=
  ⟨fun h => h ▸ means_ofTrimmed cs, fun h => h.eq_ofTrimmed.symm⟩

/-- A function operand that is a text means what the text does without the blanks around it. -/
theorem ofValue_text_eq_iff {s : String} {r : Except InvalidFunction Reference}
    (hcs : Blank.Trims cs s) : ofValue (.text s) = r ↔ Means cs r := by
  rw [← ofTrimmed_eq_iff, Blank.trims_iff.mp hcs]
  rfl

/-! ## The grammar -/

/-- A library and a symbol with a backslash between them. -/
def join (library name : String) : String := library ++ "\\" ++ name

/-- The blanks at the ends of joined parts are those of the parts. -/
theorem trims_join {library name : String} (hlibrary : library.toList ≠ [])
    (hname : name.toList ≠ []) (hfirst : ∀ c ∈ library.toList.head?, Blank.isBlank c = false)
    (hlast : ∀ c ∈ name.toList.getLast?, Blank.isBlank c = false) :
    Blank.Trims (library.toList ++ '\\' :: name.toList) (join library name) := by
  obtain ⟨c, cs, hcs⟩ := List.exists_cons_of_ne_nil hlibrary
  have htext : (join library name).toList = library.toList ++ '\\' :: name.toList := by
    simp [join]
  refine ⟨⟨[], [], by simp [htext], by simp, by simp⟩, ?_, ?_⟩
  · rw [hcs] at hfirst ⊢
    exact hfirst
  · rw [List.getLast?_append_cons, List.getLast?_cons_of_ne_nil hname]
    exact hlast

/-- **The grammar of function texts.** Take the blanks around a text away. What is left has one
meaning, and it is read as that: a library and a symbol if it holds a backslash, an address or
nothing if it starts like a number, nothing if it is empty, and otherwise a bare symbol. So a
library and a symbol that are joined are read as what they are. -/
theorem function_text_grammar (s : String) :
    (∃ cs, Blank.Trims cs s ∧ ∀ r, ofValue (.text s) = r ↔ Means cs r) ∧
    ∀ library name : String, library ≠ "" → name ≠ "" → '\\' ∉ name.toList →
      (∀ c ∈ library.toList.head?, Blank.isBlank c = false) →
      (∀ c ∈ name.toList.getLast?, Blank.isBlank c = false) →
        ofValue (.text (join library name)) = .ok (.symbol (some library) name) := by
  constructor
  · have hcs : Blank.Trims (Blank.trim s.toList) s := Blank.trims_iff.mpr rfl
    exact ⟨_, hcs, fun r => ofValue_text_eq_iff hcs⟩
  · intro library name hlibrary hname hplain hfirst hlast
    have hlibrary' : library.toList ≠ [] := by simpa using hlibrary
    have hname' : name.toList ≠ [] := by simpa using hname
    have hmeans := Means.qualified hlibrary' hname' hplain
    rw [String.ofList_toList, String.ofList_toList] at hmeans
    exact (ofValue_text_eq_iff (trims_join hlibrary' hname' hfirst hlast)).mpr hmeans

/-- A library that starts with a digit, with a backslash of its own. -/
theorem function_text_grammar_path : '\\' ∉ "Entry".toList ∧
    ofValue (.text (join "7zip\\x64" "Entry")) = .ok (.symbol (some "7zip\\x64") "Entry") := by
  have hplain : '\\' ∉ "Entry".toList := by decide
  have hfirst : ∀ c ∈ "7zip\\x64".toList.head?, Blank.isBlank c = false := by
    rintro c ⟨⟩
    decide
  have hlast : ∀ c ∈ "Entry".toList.getLast?, Blank.isBlank c = false := by
    rintro c ⟨⟩
    decide
  exact ⟨hplain, (function_text_grammar "").2 _ _ (by decide) (by decide) hplain hfirst hlast⟩

end ForeignCall.Reference
