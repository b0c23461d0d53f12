import ForeignCall.Proofs.TokenGrammar
import ForeignCall.Text.Utf8

/-!
# Return tokens

A return token is a type token that may have the word `CDecl` in front. The word is told by its five
letters, in any case; nothing has to separate it from the type, and it is taken off once. A variable
is a return token by its contents or else by its name.

The two grammars meet in one place. Since no type token starts with the letters of the word, a text
with the word is never a type token, and a type behind the word never has the word again.

## Main definitions

* `Token.StartsWithWord` — a text that starts with the word, and what stands behind it
* `Token.ReadsReturn`, `Token.ReadsReturnNamed` — how a text and a variable are read

## Main results

* `Token.splitConvention_eq_splitAt?` — the word is looked for in the first five bytes
* `Token.parse_of_startsWithWord` — a text with the word is no type token
* `Token.return_token_grammar` — how return tokens are read
-/

namespace ForeignCall

namespace Token

/-! ## The word in front of a return type -/

/-- A text starts with the word `CDecl`, in letters of any case and with any blanks in front of
it. Behind the word stands `rest`. -/
def StartsWithWord (s : String) (rest : List Char) : Prop :=
  ∃ before word, s.toList = before ++ (word ++ rest) ∧ (∀ c ∈ before, Blank.isBlank c = true) ∧
    Ascii.equal word "CDecl".toList = true

/-- The word has five letters, the first two of which are no blanks. -/
theorem exists_of_equal_word {word : List Char} (h : Ascii.equal word conventionWord = true) :
    word.length = 5 ∧ ∃ c d ws, word = c :: d :: ws ∧ Ascii.lower c = 'c' ∧
      Ascii.lower d = 'd' := by
  have hlower : word.map Ascii.lower = ['c', 'd', 'e', 'c', 'l'] := Ascii.equal_iff.mp h
  have hlength := congrArg List.length hlower
  rw [List.length_map] at hlength
  refine ⟨hlength, ?_⟩
  rcases word with _ | ⟨c, _ | ⟨d, ws⟩⟩
  · simp at hlower
  · simp at hlower
  · simp only [List.map_cons, List.cons.injEq] at hlower
    exact ⟨c, d, ws, rfl, hlower.1, hlower.2.1⟩

theorem isBlank_of_lower {c d : Char} (h : Ascii.lower c = d) (hd : Blank.isBlank d = false) :
    Blank.isBlank c = false := by
  refine Bool.eq_false_iff.mpr fun hc => ?_
  rw [lower_of_isBlank hc] at h
  rw [h, hd] at hc
  exact Bool.false_ne_true hc

theorem splitConvention_of_startsWithWord {s : String} {rest : List Char}
    (h : StartsWithWord s rest) : splitConvention s.toList = (.c, Blank.trimStart rest) := by
  obtain ⟨before, word, hs, hbefore, hword⟩ := h
  obtain ⟨hlength, c, d, ws, hcons, hc, -⟩ := exists_of_equal_word hword
  have htrim : Blank.trimStart s.toList = word ++ rest := by
    rw [hs, Blank.trimStart_append_of_blank hbefore, hcons]
    refine Blank.trimStart_eq_self ?_
    rintro c' ⟨rfl⟩
    exact isBlank_of_lower hc (by decide)
  have hn : conventionWord.length = word.length := by
    rw [hlength]
    rfl
  simp only [splitConvention, htrim, hn, List.take_left, List.drop_left]
  exact if_pos hword

theorem splitConvention_of_not_startsWithWord {s : String} (h : ∀ rest, ¬ StartsWithWord s rest) :
    splitConvention s.toList = (.standard, Blank.trimStart s.toList) := by
  simp only [splitConvention]
  rw [if_neg]
  intro hword
  obtain ⟨before, hs, hbefore⟩ := Blank.exists_append_trimStart s.toList
  refine h ((Blank.trimStart s.toList).drop conventionWord.length) ⟨before, _, ?_, hbefore, hword⟩
  rw [List.take_append_drop, ← hs]

theorem utf8Size_of_lower {c d : Char} (h : Ascii.lower c = d) (hd : d.toNat < 0x80) :
    c.utf8Size = 1 := by
  rw [Char.utf8Size_eq_one_iff]
  by_cases hc : 'A' ≤ c ∧ c ≤ 'Z'
  · have hhigh : c.toNat ≤ 0x5A := UInt32.le_iff_toNat_le.mp hc.2
    exact UInt32.le_iff_toNat_le.mpr (by show c.toNat ≤ 0x7F; omega)
  · rw [Ascii.lower, if_neg hc] at h
    subst h
    exact UInt32.le_iff_toNat_le.mpr (by show c.toNat ≤ 0x7F; omega)

/-- Characters that all take one byte. -/
theorem width_eq_length {cs : List Char} (h : ∀ c ∈ cs, c.utf8Size = 1) :
    Utf8.width cs = cs.length := by
  induction cs with
  | nil => rfl
  | cons c cs ih =>
    rw [List.forall_mem_cons] at h
    rw [Utf8.width, ih h.2, h.1, List.length_cons, Nat.add_comm]

/-- The word takes as many bytes as it has letters. -/
theorem width_of_equal_word {word : List Char} (h : Ascii.equal word conventionWord = true) :
    Utf8.width word = 5 := by
  have hlower : word.map Ascii.lower = conventionWord.map Ascii.lower := Ascii.equal_iff.mp h
  have hascii : (conventionWord.map Ascii.lower).all (·.toNat < 0x80) = true := by decide
  rw [width_eq_length fun c hc => ?_, (exists_of_equal_word h).1]
  refine utf8Size_of_lower rfl (of_decide_eq_true (List.all_eq_true.mp hascii _ ?_))
  rw [← hlower]
  exact List.mem_map_of_mem hc

/-- **The word is looked for in the first five bytes.** A text that is shorter does not have it, and
neither does one that cannot be cut there. -/
theorem splitConvention_eq_splitAt? (cs : List Char) :
    splitConvention cs =
      match Utf8.splitAt? 5 (Blank.trimStart cs) with
      | some (word, rest) =>
        if Ascii.equal word conventionWord then (.c, Blank.trimStart rest)
        else (.standard, Blank.trimStart cs)
      | none => (.standard, Blank.trimStart cs) := by
  have hn : conventionWord.length = 5 := rfl
  simp only [splitConvention, hn]
  generalize Blank.trimStart cs = ds
  by_cases hword : Ascii.equal (ds.take 5) conventionWord = true
  · have hcut := Utf8.splitAt?_width_append (ds.take 5) (ds.drop 5)
    rw [width_of_equal_word hword, List.take_append_drop] at hcut
    simp [hcut, hword]
  · rw [if_neg hword]
    split
    · next word rest hcut =>
      rw [if_neg]
      intro hequal
      obtain ⟨rfl, -⟩ := Utf8.of_splitAt?_eq_some hcut
      rw [← (exists_of_equal_word hequal).1, List.take_left] at hword
      exact hword hequal
    · rfl

/-! ## Return types -/

theorem ofChars?_trimStart (cs : List Char) : ofChars? (Blank.trimStart cs) = ofChars? cs := by
  rw [ofChars?, ofChars?, Blank.trim, Blank.trim, Blank.trimStart_trimStart]

/-- What a return token is read as when its type is read in a given way. The error is about the
whole text. -/
def returning (s : String) (convention : Convention) :
    Except InvalidToken Token → Except InvalidToken (Token × Convention)
  | .ok t => .ok (t, convention)
  | .error _ => .error ⟨s⟩

/-- No name starts with the letters of the word: the one that starts with a `C` goes on with
an `h`. -/
theorem letters_ne_word (k : Kind) : letters k ≠ ['c'] ∧ (letters k).take 2 ≠ ['c', 'd'] := by
  cases k <;> decide

/-- No type token starts with the letters of the word. -/
theorem Spelling.chars_ne (f : Spelling) {c d : Char} (hc : Ascii.lower c = 'c')
    (hd : Ascii.lower d = 'd') (cs : List Char) : f.chars ≠ c :: d :: cs := by
  intro h
  have hunsigned : ¬ (c = 'U' ∨ c = 'u') := by
    rintro (rfl | rfl) <;> exact absurd hc (by decide)
  have hbody : f.name ++ f.ending = c :: d :: cs := by
    have hsplit := f.splitUnsigned_chars
    rw [h, splitUnsigned_of_head (by rintro c' ⟨rfl⟩; exact hunsigned), Prod.mk.injEq] at hsplit
    exact hsplit.2.symm
  rcases names_iff.mp f.names with ⟨hname, -⟩ | hletters
  · -- without a name the first character would be a blank or a mark
    rw [hname, List.nil_append, ending] at hbody
    cases hmark : f.addressMark with
    | none => simp [hmark] at hbody
    | some m =>
      obtain ⟨hblanks, hm⟩ := f.addressMark_eq m hmark
      rcases m with ⟨_ | ⟨b, blanks⟩, mark⟩
      · simp [hmark] at hbody
      · rw [hmark] at hbody
        obtain ⟨rfl, -⟩ := List.cons.inj hbody
        have hblank := hblanks b (List.mem_cons_self ..)
        rw [isBlank_of_lower hc (by decide)] at hblank
        exact Bool.false_ne_true hblank
  · obtain ⟨hone, htwo⟩ := letters_ne_word f.kind
    rw [← hletters] at hone htwo
    rcases hname : f.name with _ | ⟨c', _ | ⟨d', name⟩⟩
    · rw [hname] at hletters
      exact letters_ne_nil f.kind hletters.symm
    · rw [hname] at hone hbody
      exact hone (by simp [(List.cons.inj hbody).1, hc])
    · rw [hname] at htwo hbody
      obtain ⟨hcc, hrest⟩ := List.cons.inj hbody
      exact htwo (by simp [hcc, (List.cons.inj hrest).1, hc, hd])

/-- A text that starts with the word is no type token. -/
theorem parse_of_startsWithWord {s : String} {rest : List Char} (h : StartsWithWord s rest) :
    parse s = .error ⟨s⟩ := by
  rcases parse_eq_ok_or_error s with ⟨t, ht⟩ | herror
  · obtain ⟨before, word, hs, hbefore, hword⟩ := h
    obtain ⟨-, c, d, ws, rfl, hc, hd⟩ := exists_of_equal_word hword
    obtain ⟨f, hf, -⟩ := ofChars?_eq_some_iff.mp (parse_eq_ok_iff.mp ht)
    have hcblank : Blank.isBlank c = false := isBlank_of_lower hc (by decide)
    have hdblank : Blank.isBlank d = false := isBlank_of_lower hd (by decide)
    rw [hs, Blank.trim, Blank.trimStart_append_of_blank hbefore,
      Blank.trimStart_eq_self (by rintro c' ⟨rfl⟩; exact hcblank)] at hf
    rw [List.cons_append, List.cons_append, Blank.trimEnd_cons hcblank,
      Blank.trimEnd_cons hdblank] at hf
    exact absurd hf (f.chars_ne hc hd _)
  · exact herror

/-- How a text is read as a return token. -/
structure ReadsReturn (s : String) : Prop where
  /-- Behind the word stands the type, and the function has the C convention. -/
  word : ∀ rest, StartsWithWord s rest →
    parseReturn s = returning s .c (parse (String.ofList rest))
  /-- Without the word the whole text is the type. -/
  noWord : (∀ rest, ¬ StartsWithWord s rest) → parseReturn s = returning s .standard (parse s)
  /-- The word alone declares an `Int`. -/
  alone : ∀ rest, StartsWithWord s rest → (∀ c ∈ rest, Blank.isBlank c = true) →
    parseReturn s = .ok (.plainInt, .c)
  /-- The type may follow the word directly, or with blanks in between. -/
  follows : ∀ blanks type t, StartsWithWord s (blanks ++ type.toList) →
    (∀ c ∈ blanks, Blank.isBlank c = true) → parse type = .ok t → parseReturn s = .ok (t, .c)
  /-- The word is taken off once. -/
  once : ∀ rest rest', StartsWithWord s rest → StartsWithWord (String.ofList rest) rest' →
    parseReturn s = .error ⟨s⟩

/-- How a variable is read as a return token. -/
structure ReadsReturnNamed (contents name : String) : Prop where
  /-- Its contents come first. -/
  byContents : ∀ r, parseReturn contents = .ok r → parseReturnNamed contents name = .ok r
  /-- They do so also when they are empty, and declare an `Int`. -/
  byEmpty : (∀ c ∈ contents.toList, Blank.isBlank c = true) →
    parseReturnNamed contents name = .ok (.plainInt, .standard)
  /-- Its name is read when they are no return token. -/
  byName : ∀ e r, parseReturn contents = .error e → parseReturn name = .ok r →
    parseReturnNamed contents name = .ok r
  /-- When neither is one, the contents are to blame. -/
  byNeither : ∀ e e', parseReturn contents = .error e → parseReturn name = .error e' →
    parseReturnNamed contents name = .error ⟨contents⟩

/-- A return token is read, or the whole text is the error. -/
theorem parseReturn_eq_ok_or_error (s : String) :
    (∃ r, parseReturn s = .ok r) ∨ parseReturn s = .error ⟨s⟩ := by
  simp only [parseReturn]
  cases ofChars? (splitConvention s.toList).2 with
  | some t => exact .inl ⟨_, rfl⟩
  | none => exact .inr rfl

/-- A return token is read in two steps. -/
theorem parseReturn_of_splitConvention {s : String} {convention : Convention} {rest : List Char}
    (h : splitConvention s.toList = (convention, Blank.trimStart rest)) :
    parseReturn s = returning s convention (parse (String.ofList rest)) := by
  rw [parseReturn, h, parse, String.toList_ofList]
  simp only [ofChars?_trimStart]
  cases ofChars? rest <;> rfl

/-- Nothing but blanks declares an `Int`. -/
theorem parse_of_isBlank {s : String} (h : ∀ c ∈ s.toList, Blank.isBlank c = true) :
    parse s = .ok .plainInt := by
  have htrim := Blank.trimStart_append_of_blank h []
  rw [List.append_nil] at htrim
  rw [parse_eq_ok_iff, ← ofChars?_trimStart, htrim]
  rfl

theorem parse_append_of_isBlank {blanks : List Char} (h : ∀ c ∈ blanks, Blank.isBlank c = true)
    {type : String} {t : Token} (ht : parse type = .ok t) :
    parse (String.ofList (blanks ++ type.toList)) = .ok t := by
  rw [parse_eq_ok_iff] at ht ⊢
  rw [String.toList_ofList, ← ofChars?_trimStart, Blank.trimStart_append_of_blank h,
    ofChars?_trimStart, ht]

theorem readsReturn (s : String) : ReadsReturn s := by
  have hword : ∀ rest, StartsWithWord s rest →
      parseReturn s = returning s .c (parse (String.ofList rest)) :=
    fun rest h => parseReturn_of_splitConvention (splitConvention_of_startsWithWord h)
  refine ⟨hword, ?_, ?_, ?_, ?_⟩
  · intro h
    have hread := parseReturn_of_splitConvention (splitConvention_of_not_startsWithWord h)
    rwa [String.ofList_toList] at hread
  · intro rest h hrest
    rw [hword rest h, parse_of_isBlank (by rwa [String.toList_ofList])]
    rfl
  · intro blanks type t h hblanks ht
    rw [hword _ h, parse_append_of_isBlank hblanks ht]
    rfl
  · intro rest rest' h h'
    rw [hword rest h, parse_of_startsWithWord h']
    rfl

/-- A text that starts with the word is not empty. -/
theorem StartsWithWord.exists_not_blank {s : String} {rest : List Char}
    (h : StartsWithWord s rest) : ∃ c ∈ s.toList, Blank.isBlank c = false := by
  obtain ⟨before, word, hs, -, hword⟩ := h
  obtain ⟨-, c, d, ws, rfl, hc, -⟩ := exists_of_equal_word hword
  exact ⟨c, by simp [hs], isBlank_of_lower hc (by decide)⟩

theorem readsReturnNamed (contents name : String) : ReadsReturnNamed contents name := by
  have hcontents : ∀ r, parseReturn contents = .ok r → parseReturnNamed contents name = .ok r := by
    intro r h
    rw [parseReturnNamed, h]
  refine ⟨hcontents, ?_, ?_, ?_⟩
  · intro h
    refine hcontents _ ?_
    have hno : ∀ rest, ¬ StartsWithWord contents rest := by
      intro rest hword
      obtain ⟨c, hc, hblank⟩ := hword.exists_not_blank
      rw [h c hc] at hblank
      exact Bool.false_ne_true hblank.symm
    rw [(readsReturn contents).noWord hno, parse_of_isBlank h]
    rfl
  · intro e r he hr
    rw [parseReturnNamed, he, hr]
  · intro e e' he he'
    rcases parseReturn_eq_ok_or_error contents with ⟨r, hr⟩ | herror
    · exact absurd (he.symm.trans hr) (by simp)
    · rw [parseReturnNamed, herror, he']

/-- **The grammar of return tokens.** A return token is a type token, with the word in front when
the function has the C convention. The word is looked for in the first five bytes behind the blanks.
For a variable the contents count, or else the name. -/
theorem return_token_grammar (s name : String) :
    ReadsReturn s ∧ ReadsReturnNamed s name ∧
      splitConvention s.toList =
        match Utf8.splitAt? 5 (Blank.trimStart s.toList) with
        | some (word, rest) =>
          if Ascii.equal word conventionWord then (.c, Blank.trimStart rest)
          else (.standard, Blank.trimStart s.toList)
        | none => (.standard, Blank.trimStart s.toList) :=
  ⟨readsReturn s, readsReturnNamed s name, splitConvention_eq_splitAt? s.toList⟩

end Token

end ForeignCall
