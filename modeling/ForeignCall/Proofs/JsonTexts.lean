import ForeignCall.Proofs.ShortestDecimals
import ForeignCall.Report.Json
import Mathlib.Tactic.FinCases

/-!
# JSON texts

Which values have one text. A value can be recovered from what is written of it, with one loss: a
number that is not finite is written as `null`, which JSON has instead of it.

The text of a value is followed by a comma, by a brace or by nothing, and so one text is recovered
after the other. Between quotes each character is written apart from the quote that ends them. A
number consists of characters that do not follow it, and a real number has a point or an exponent,
unlike an integer. What else there is begins with a character of its own.

## Main definitions

* `Json.unescape` — reads one character between quotes
* `Json.Form` — what the first character of a value tells
* `Json.shown` — a value, with the numbers that are not finite replaced by `null`

## Main results

* `Json.unescape_escape` — a character between quotes is read back
* `Json.quote_append_inj`, `Json.number_append_inj` — texts and numbers are recovered
* `Json.chars_append_inj`, `Json.write_eq_write_iff` — values with one text are shown as one value
-/

namespace ForeignCall.Json

open Number (Double Layout digits digits_ne_nil isDigit_of_mem_digits ofDigits ofDigits_digits)
open Number.Numeral (isPlain hexDigit?)

/-! ## Texts between quotes -/

section Quotes

variable {c c' : Char} {cs cs' rest rest' : List Char} {s s' : String}

/-- Reads one character between quotes. -/
def unescape : List Char → Option (Char × List Char)
  | '\\' :: 'u' :: '0' :: '0' :: a :: b :: cs =>
    some (Char.ofNat ((hexDigit? a).getD 0 * 16 + (hexDigit? b).getD 0), cs)
  | '\\' :: c :: cs =>
    some (if c = 'n' then '\n' else if c = 'r' then '\r' else if c = 't' then '\t'
      else if c = 'b' then '\x08' else if c = 'f' then '\x0c' else c, cs)
  | c :: cs => some (c, cs)
  | [] => none

/-- A character that is written as itself. -/
theorem escape_eq_self (hcontrol : ¬ c.toNat < 0x20) (hquote : c ≠ '"') (hslash : c ≠ '\\') :
    escape c = [c] := by
  have hne : ∀ d : Char, d.toNat < 0x20 → c ≠ d := fun d hd h => hcontrol (h ▸ hd)
  rw [escape, if_neg hquote, if_neg hslash, if_neg (hne '\n' (by decide)),
    if_neg (hne '\r' (by decide)), if_neg (hne '\t' (by decide)), if_neg (hne '\x08' (by decide)),
    if_neg (hne '\x0c' (by decide)), if_neg hcontrol]

/-- **A character between quotes is read back.** -/
theorem unescape_escape (c : Char) (cs : List Char) : unescape (escape c ++ cs) = some (c, cs) := by
  by_cases hcontrol : c.toNat < 0x20
  · have hall : ∀ n : Fin 32, unescape (escape (Char.ofNat n) ++ cs) = some (Char.ofNat n, cs) := by
      intro n
      fin_cases n <;> rfl
    simpa using hall ⟨c.toNat, hcontrol⟩
  · by_cases hquote : c = '"'
    · subst hquote
      rfl
    · by_cases hslash : c = '\\'
      · subst hslash
        rfl
      · rw [escape_eq_self hcontrol hquote hslash, List.singleton_append]
        unfold unescape
        split <;> simp_all

/-- The quote that ends a text is not part of it. -/
theorem escape_append_ne (c : Char) (cs rest : List Char) : escape c ++ cs ≠ '"' :: rest := by
  intro h
  have hread : some ('"', rest) = some (c, cs) := by
    rw [← unescape_escape c cs, h]
    rfl
  obtain ⟨rfl, -⟩ := Prod.mk.inj (Option.some.inj hread)
  exact absurd (List.cons.inj h).1 (by decide)

/-- Characters between quotes are recovered, and what follows the quotes. -/
theorem escapes_append_inj
    (h : cs.flatMap escape ++ '"' :: rest = cs'.flatMap escape ++ '"' :: rest') :
    cs = cs' ∧ rest = rest' := by
  induction cs generalizing cs' with
  | nil =>
    cases cs' with
    | nil => exact ⟨rfl, (List.cons.inj h).2⟩
    | cons c' cs' =>
      rw [List.flatMap_cons, List.append_assoc] at h
      exact absurd h.symm (escape_append_ne _ _ _)
  | cons c cs ih =>
    rw [List.flatMap_cons, List.append_assoc] at h
    cases cs' with
    | nil => exact absurd h (escape_append_ne _ _ _)
    | cons c' cs' =>
      rw [List.flatMap_cons, List.append_assoc] at h
      have hread := unescape_escape c (cs.flatMap escape ++ '"' :: rest)
      rw [h, unescape_escape] at hread
      obtain ⟨rfl, hrest⟩ := Prod.mk.inj (Option.some.inj hread)
      obtain ⟨rfl, hend⟩ := ih hrest.symm
      exact ⟨rfl, hend⟩

/-- **A text is recovered from what is written of it**, and what follows it. -/
theorem quote_append_inj (h : quote s ++ rest = quote s' ++ rest') : s = s' ∧ rest = rest' := by
  simp only [quote, List.cons_append, List.append_assoc, List.nil_append] at h
  obtain ⟨hcs, hrest⟩ := escapes_append_inj (List.cons.inj h).2
  exact ⟨String.toList_injective hcs, hrest⟩

end Quotes

/-! ## Numbers -/

section Numbers

variable {c : Char} {i i' : ℤ} {x x' : Double}

/-- What an integer is written with. -/
theorem isDigit_or_minus_of_mem_integerText (h : c ∈ integerText i) :
    c.isDigit = true ∨ c = '-' := by
  rcases List.mem_append.mp h with h | h
  · split at h
    · exact .inr (List.mem_singleton.mp h)
    · exact absurd h List.not_mem_nil
  · exact .inl (isDigit_of_mem_digits h)

/-- Different integers have different texts. -/
theorem integerText_inj (h : integerText i = integerText i') : i = i' := by
  have hhead : ∀ n : ℕ, ∀ cs, digits n ≠ '-' :: cs := fun n cs hn =>
    absurd (isDigit_of_mem_digits (n := n) (hn ▸ List.mem_cons_self ..)) (by decide)
  have hdigits : ∀ {n n' : ℕ}, digits n = digits n' → n = n' := fun {n n'} hn => by
    rw [← ofDigits_digits n, hn, ofDigits_digits]
  simp only [integerText] at h
  split at h <;> split at h
  · have := hdigits (List.cons.inj h).2
    omega
  · exact absurd h.symm (hhead _ _)
  · exact absurd h (hhead _ _)
  · have := hdigits h
    omega

/-- A real number has a point or an exponent. -/
theorem exists_mark_mem_write (x : Double) : '.' ∈ layout.write x ∨ 'e' ∈ layout.write x := by
  have hpositional : ∀ c k, '.' ∈ Number.positional c k true := by
    intro c k
    simp only [Number.positional]
    split
    · simp
    · split <;> simp
  have hscientific : ∀ c k, 'e' ∈ Number.scientific c k ['e', '+'] := by
    intro c k
    simp only [Number.scientific, List.mem_append]
    right
    split <;> simp
  rw [Layout.write]
  split
  · exact .inl (List.mem_append_right _ (hpositional _ _))
  · refine Or.imp (List.mem_append_right _) (List.mem_append_right _) ?_
    dsimp only
    split
    · exact .inl (hpositional _ _)
    · exact .inr (hscientific _ _)

/-- A real number is never written as an integer. -/
theorem integerText_ne_write (i : ℤ) (x : Double) : integerText i ≠ layout.write x := by
  intro h
  rcases exists_mark_mem_write x with hmark | hmark <;>
    exact absurd (isDigit_or_minus_of_mem_integerText (h ▸ hmark)) (by decide)

end Numbers

/-! ## The first character -/

variable {j j' : Json} {rest rest' : List Char}

/-- The kinds of values that a first character tells apart. -/
inductive Form where
  | null
  | number
  | text
  | members
  deriving DecidableEq

/-- The kind of a value with a first character. -/
def Form.ofChar (c : Char) : Form :=
  if isPlain c then .number else if c = '"' then .text else if c = '\x7b' then .members else .null

/-- The kind of a value. A number that is not finite counts as `null`. -/
def form : Json → Form
  | .null => .null
  | .integer _ => .number
  | .real x => if x.isFinite then .number else .null
  | .text _ => .text
  | .members _ => .members

/-- A number is an integer or a finite real number. -/
theorem eq_integer_or_eq_real (hj : j.form = .number) :
    (∃ i, j = .integer i) ∨ ∃ x, x.isFinite = true ∧ j = .real x := by
  cases j with
  | integer i => exact .inl ⟨i, rfl⟩
  | real x =>
    by_cases hx : x.isFinite = true
    · exact .inr ⟨x, hx, rfl⟩
    · simp [form, hx] at hj
  | null | text | members => cases hj

theorem isPlain_of_mem_chars (hj : j.form = .number) : ∀ c ∈ j.chars, isPlain c = true := by
  intro c hc
  rcases eq_integer_or_eq_real hj with ⟨i, rfl⟩ | ⟨x, hx, rfl⟩
  · rcases isDigit_or_minus_of_mem_integerText hc with h | rfl
    · exact Number.Numeral.isPlain_of_isDigit h
    · rfl
  · rw [chars, if_pos hx] at hc
    exact Layout.isPlain_of_mem_write (.inr rfl) hc

theorem chars_ne_nil (j : Json) : j.chars ≠ [] := by
  cases j with
  | null | text | members => exact List.cons_ne_nil _ _
  | integer i => simp [chars, integerText, digits_ne_nil]
  | real x =>
    rw [chars]
    split
    · intro hnil
      rcases exists_mark_mem_write x with h | h <;> simp [hnil] at h
    · exact List.cons_ne_nil _ _

/-- The first character of a value tells its kind. -/
theorem exists_chars_eq_cons (j : Json) : ∃ c cs, j.chars = c :: cs ∧ Form.ofChar c = j.form := by
  by_cases hj : j.form = .number
  · obtain ⟨c, cs, hchars⟩ := List.exists_cons_of_ne_nil (chars_ne_nil j)
    have hplain := isPlain_of_mem_chars hj c (hchars ▸ List.mem_cons_self ..)
    exact ⟨c, cs, hchars, by rw [Form.ofChar, if_pos hplain, hj]⟩
  · cases j with
    | null => exact ⟨'n', _, rfl, rfl⟩
    | integer i => exact absurd rfl hj
    | real x =>
      have hx : ¬ x.isFinite = true := fun hx => hj (if_pos hx)
      exact ⟨'n', _, by rw [chars, if_neg hx]; rfl, by rw [form, if_neg hx]; rfl⟩
    | text s => exact ⟨'"', _, rfl, rfl⟩
    | members ms => exact ⟨'\x7b', _, rfl, rfl⟩

/-- Values whose texts begin one text are of one kind. -/
theorem form_eq_form (h : j.chars ++ rest = j'.chars ++ rest') : j.form = j'.form := by
  obtain ⟨c, cs, hc, hform⟩ := exists_chars_eq_cons j
  obtain ⟨c', cs', hc', hform'⟩ := exists_chars_eq_cons j'
  rw [hc, hc'] at h
  rw [← hform, ← hform', (List.cons.inj h).1]

/-! ## Values without members -/

/-- What may follow a value in a text: nothing that a number is written with. -/
def Ends (rest : List Char) : Prop := ∀ c ∈ rest.head?, isPlain c = false

theorem ends_nil : Ends [] := by simp [Ends]

theorem takeWhile_append_of_ends {cs : List Char} (hcs : ∀ c ∈ cs, isPlain c = true)
    (hrest : Ends rest) : (cs ++ rest).takeWhile isPlain = cs := by
  rw [List.takeWhile_append_of_pos hcs]
  cases rest with
  | nil => simp
  | cons c rest => simp [hrest c rfl]

/-- **A number is recovered from what is written of it**, and what follows it. -/
theorem number_append_inj (hj : j.form = .number) (hj' : j'.form = .number) (hrest : Ends rest)
    (hrest' : Ends rest') (h : j.chars ++ rest = j'.chars ++ rest') : j = j' ∧ rest = rest' := by
  have hchars : j.chars = j'.chars := by
    rw [← takeWhile_append_of_ends (isPlain_of_mem_chars hj) hrest, h,
      takeWhile_append_of_ends (isPlain_of_mem_chars hj') hrest']
  refine ⟨?_, List.append_cancel_left (hchars ▸ h)⟩
  rcases eq_integer_or_eq_real hj with ⟨i, rfl⟩ | ⟨x, hx, rfl⟩ <;>
    rcases eq_integer_or_eq_real hj' with ⟨i', rfl⟩ | ⟨x', hx', rfl⟩ <;>
    simp only [chars, *, if_true] at hchars
  · rw [integerText_inj hchars]
  · exact absurd hchars (integerText_ne_write i x')
  · exact absurd hchars.symm (integerText_ne_write i' x)
  · rw [(Layout.write_inj (.inr rfl) hx hx').mp hchars]

mutual

/-- A value as it is shown: a number that is not finite is shown as `null`. -/
def shown : Json → Json
  | .null => .null
  | .integer i => .integer i
  | .real x => if x.isFinite then .real x else .null
  | .text s => .text s
  | .members ms => .members (shownMembers ms)

/-- Members as they are shown. -/
def shownMembers : List (String × Json) → List (String × Json)
  | [] => []
  | m :: ms => (m.1, m.2.shown) :: shownMembers ms

end

theorem eq_text (hj : j.form = .text) : ∃ s, j = .text s := by
  cases j with
  | text s => exact ⟨s, rfl⟩
  | real x => rw [form] at hj; split at hj <;> cases hj
  | null | integer | members => cases hj

/-- What is of the kind of `null` is written and shown as `null`. -/
theorem chars_of_form_null (hj : j.form = .null) :
    j.chars = "null".toList ∧ j.shown = .null := by
  cases j with
  | null => exact ⟨rfl, rfl⟩
  | real x =>
    by_cases hx : x.isFinite = true
    · simp [form, hx] at hj
    · rw [chars, shown, if_neg hx, if_neg hx]
      exact ⟨rfl, rfl⟩
  | text | integer | members => cases hj

/-- **A value without members is recovered**, as far as it is shown, and what follows it. -/
theorem scalar_append_inj (hj : j.form ≠ .members) (hrest : Ends rest) (hrest' : Ends rest')
    (h : j.chars ++ rest = j'.chars ++ rest') : j.shown = j'.shown ∧ rest = rest' := by
  have hform := form_eq_form h
  match hf : j.form with
  | .null =>
    obtain ⟨hchars, hshown⟩ := chars_of_form_null hf
    obtain ⟨hchars', hshown'⟩ := chars_of_form_null (hform ▸ hf)
    rw [hchars, hchars'] at h
    exact ⟨hshown.trans hshown'.symm, List.append_cancel_left h⟩
  | .number =>
    obtain ⟨rfl, hends⟩ := number_append_inj hf (hform ▸ hf) hrest hrest' h
    exact ⟨rfl, hends⟩
  | .text =>
    obtain ⟨s, rfl⟩ := eq_text hf
    obtain ⟨s', rfl⟩ := eq_text (hform ▸ hf)
    obtain ⟨rfl, hends⟩ := quote_append_inj h
    exact ⟨rfl, hends⟩
  | .members => exact absurd hf hj

/-! ## Members -/

theorem form_real_ne_members {x : Double} : (Json.real x).form ≠ .members := by
  rw [form]
  split <;> simp

theorem eq_members (hj : j.form = .members) : ∃ ms, j = .members ms := by
  cases j with
  | members ms => exact ⟨ms, rfl⟩
  | real x => exact absurd hj form_real_ne_members
  | null | integer | text => cases hj

/-- Where there are more members, they follow a comma. -/
def moreChars (ms : List (String × Json)) : List Char :=
  if ms = [] then [] else ',' :: memberChars ms

theorem memberChars_cons (m : String × Json) (ms : List (String × Json)) :
    memberChars (m :: ms) = quote m.1 ++ ':' :: m.2.chars ++ moreChars ms := by
  cases ms with
  | nil => rw [memberChars, moreChars, if_pos rfl, List.append_nil]
  | cons m' ms =>
    rw [memberChars, moreChars, if_neg (List.cons_ne_nil m' ms)]
    exact List.cons_ne_nil m' ms

/-- Where there is a member, the object does not end. -/
theorem memberChars_cons_append_ne (m : String × Json) (ms : List (String × Json))
    (rest rest' : List Char) : memberChars (m :: ms) ++ rest ≠ '\x7d' :: rest' := by
  rw [memberChars_cons, quote]
  exact fun h => absurd (List.cons.inj h).1 (by decide)

theorem ends_moreChars (ms : List (String × Json)) (rest : List Char) :
    Ends (moreChars ms ++ '\x7d' :: rest) := by
  rintro c hc
  rw [moreChars] at hc
  split at hc <;> obtain rfl := Option.some.inj hc <;> rfl

/-- Whether there are more members is told by the comma. -/
theorem memberChars_append_eq {ms ms' : List (String × Json)}
    (h : moreChars ms ++ '\x7d' :: rest = moreChars ms' ++ '\x7d' :: rest') :
    memberChars ms ++ '\x7d' :: rest = memberChars ms' ++ '\x7d' :: rest' := by
  rw [moreChars, moreChars] at h
  split at h <;> split at h
  · next hms hms' => rwa [hms, hms']
  · exact absurd (List.cons.inj h).1 (by decide)
  · exact absurd (List.cons.inj h).1 (by decide)
  · exact (List.cons.inj h).2

mutual

/-- **A value is recovered from what is written of it**, as far as it is shown, and what follows
it. By recursion on the value, since what is written of its members begins what is left. -/
theorem chars_append_inj : ∀ {j j' : Json} {rest rest' : List Char}, Ends rest → Ends rest' →
    j.chars ++ rest = j'.chars ++ rest' → j.shown = j'.shown ∧ rest = rest'
  | .null, _, _, _, hrest, hrest', h => scalar_append_inj nofun hrest hrest' h
  | .integer _, _, _, _, hrest, hrest', h => scalar_append_inj nofun hrest hrest' h
  | .real _, _, _, _, hrest, hrest', h => scalar_append_inj form_real_ne_members hrest hrest' h
  | .text _, _, _, _, hrest, hrest', h => scalar_append_inj nofun hrest hrest' h
  | .members ms, j', rest, rest', hrest, hrest', h => by
    obtain ⟨ms', rfl⟩ := eq_members (form_eq_form h).symm
    simp only [chars, List.cons_append, List.append_assoc, List.nil_append] at h
    obtain ⟨hms, hends⟩ := memberChars_append_inj (List.cons.inj h).2
    exact ⟨by rw [shown, shown, hms], hends⟩

/-- So are members. -/
theorem memberChars_append_inj : ∀ {ms ms' : List (String × Json)} {rest rest' : List Char},
    memberChars ms ++ '\x7d' :: rest = memberChars ms' ++ '\x7d' :: rest' →
      shownMembers ms = shownMembers ms' ∧ rest = rest'
  | [], [], _, _, h => ⟨rfl, (List.cons.inj h).2⟩
  | [], m' :: ms', _, _, h => absurd h.symm (memberChars_cons_append_ne m' ms' _ _)
  | m :: ms, [], _, _, h => absurd h (memberChars_cons_append_ne m ms _ _)
  | (key, v) :: ms, (key', v') :: ms', rest, rest', h => by
    simp only [memberChars_cons, List.append_assoc, List.cons_append] at h
    obtain ⟨rfl, hvalue⟩ := quote_append_inj h
    obtain ⟨hv, hmore⟩ := chars_append_inj (ends_moreChars ms rest) (ends_moreChars ms' rest')
      (List.cons.inj hvalue).2
    obtain ⟨hms, hends⟩ := memberChars_append_inj (memberChars_append_eq hmore)
    exact ⟨by rw [shownMembers, shownMembers, hv, hms], hends⟩

end

mutual

/-- A value is written as what is shown of it. -/
theorem chars_shown : ∀ j : Json, j.shown.chars = j.chars
  | .null => rfl
  | .integer _ => rfl
  | .real x => by
    rw [shown, chars]
    split
    · next hx => rw [chars, if_pos hx]
    · rfl
  | .text _ => rfl
  | .members ms => by rw [shown, chars, chars, memberChars_shownMembers ms]

theorem memberChars_shownMembers : ∀ ms : List (String × Json),
    memberChars (shownMembers ms) = memberChars ms
  | [] => rfl
  | (key, v) :: ms => by
    have hms := memberChars_shownMembers ms
    have hnil : shownMembers ms = [] ↔ ms = [] := by cases ms <;> simp [shownMembers]
    simp only [shownMembers, memberChars_cons, moreChars, chars_shown v, hms, hnil]

end

/-- **Two values have one text exactly if they are shown as one value.** -/
theorem write_eq_write_iff : j.write = j'.write ↔ j.shown = j'.shown := by
  refine ⟨fun h => ?_, fun h => ?_⟩
  · have hchars : j.chars ++ [] = j'.chars ++ [] := by
      simpa using String.ofList_injective h
    exact (chars_append_inj ends_nil ends_nil hchars).1
  · rw [write, write, ← chars_shown j, h, chars_shown]

end ForeignCall.Json
