import ForeignCall.Proofs.Pairs
import ForeignCall.Proofs.ReturnTokens

/-!
# Defects of an operand list

Marshaling walks over the pairs from the left and stops at the first one that it can make nothing
of. This file says what comes out without following the walk. A *defect* is a property of one pair,
seen on its own: its type token is none, or its token declares a kind that its value cannot become.
An operand list marshals exactly if its result is declared well and no pair has a defect; otherwise
the error is the one of the result, or else the one of the leftmost defect.

Every value but a text has a view as a number of any kind, so that the only bad numbers are texts.
The signedness of a kind does not matter there.

## Main definitions

* `Operand.DeclaresResult`, `BadResult` — the operands that are return tokens, and a list whose last
  operand should be one
* `Inconvertible`, `Defect` — what is wrong with a value, and with a pair
* `FirstDefect` — the leftmost pair with a defect
* `Conversions` — the conversions that are reported up to a pair
* `Plan.Describes` — a plan that has one argument for each pair

## Main results

* `resultToken_eq_error_iff`, `fillArgument_eq_error_iff` — the errors of the parts
* `marshalPairs_stops` — the pairs are walked up to the first defect
* `marshal_eq_leftmost_defect` — what marshaling comes to, for every operand list
-/

namespace ForeignCall

open Number (Numeral.integer? Numeral.real?)

variable {site : Site} {operands rest : List Operand} {t o : Operand}

/-! ## The declared result -/

/-- A text that is a return token. -/
def Token.IsReturn (s : String) : Prop := ∃ r, Token.parseReturn s = .ok r

/-- An operand that stands for a return token. A variable does so by its contents or by its name. -/
def Operand.DeclaresResult : Operand → Prop
  | .literal v => Token.IsReturn v.toText
  | .variable x => Token.IsReturn x.value.toText ∨ Token.IsReturn x.name

/-- A list of odd length ends in an operand that stands for no return token. -/
structure BadResult (operands : List Operand) (o : Operand) : Prop where
  odd : operands.length % 2 = 1
  last : operands.getLast? = some o
  undeclared : ¬ o.DeclaresResult

/-- The error about a return token carries the whole text. -/
theorem parseReturn_eq_error_iff {s : String} {e : InvalidToken} :
    Token.parseReturn s = .error e ↔ ¬ Token.IsReturn s ∧ e = ⟨s⟩ := by
  rcases Token.parseReturn_eq_ok_or_error s with ⟨r, hr⟩ | hr
  · simp [Token.IsReturn, hr]
  · simp [Token.IsReturn, hr, eq_comm]

/-- **The declared result is refused** exactly if the operand stands for no return token. The text
that is to blame is the one of the operand. -/
theorem resultToken_eq_error_iff {e : MarshalError} :
    resultToken (some o) = .error e ↔ ¬ o.DeclaresResult ∧ e = .invalidReturnType ⟨o.text⟩ := by
  match o with
  | .literal v =>
    rw [resultToken, Operand.DeclaresResult]
    rcases Token.parseReturn_eq_ok_or_error v.toText with ⟨r, hr⟩ | hr
    · simp [hr, Except.mapError, Token.IsReturn]
    · simp [hr, Except.mapError, Token.IsReturn, Operand.text, Operand.value, eq_comm]
  | .variable x =>
    rw [resultToken, Operand.DeclaresResult, Token.parseReturnNamed]
    rcases Token.parseReturn_eq_ok_or_error x.value.toText with ⟨r, hr⟩ | hr
    · simp [hr, Except.mapError, Token.IsReturn]
    · rcases Token.parseReturn_eq_ok_or_error x.name with ⟨r', hr'⟩ | hr'
      · simp [hr, hr', Except.mapError, Token.IsReturn]
      · simp [hr, hr', Except.mapError, Token.IsReturn, Operand.text, Operand.value, eq_comm]

theorem splitResult_snd (operands : List Operand) :
    (splitResult operands).2 = if operands.length % 2 = 1 then operands.getLast? else none := by
  rw [splitResult]
  split <;> rfl

/-- The result of a list is refused exactly if the list ends badly. -/
theorem resultToken_splitResult_eq_error_iff {e : MarshalError} :
    resultToken (splitResult operands).2 = .error e ↔
      ∃ o, BadResult operands o ∧ e = .invalidReturnType ⟨o.text⟩ := by
  rw [splitResult_snd]
  split
  · next hodd =>
    cases hlast : operands.getLast? with
    | none =>
      rw [List.getLast?_eq_none_iff] at hlast
      exact absurd hodd (by simp [hlast])
    | some o =>
      rw [resultToken_eq_error_iff]
      constructor
      · rintro ⟨hno, rfl⟩
        exact ⟨o, ⟨hodd, hlast, hno⟩, rfl⟩
      · rintro ⟨o', ⟨-, hlast', hno⟩, rfl⟩
        obtain rfl : o = o' := Option.some.inj (hlast.symm.trans hlast')
        exact ⟨hno, rfl⟩
  · next heven =>
    constructor
    · intro h
      exact absurd h (by simp [resultToken])
    · rintro ⟨o, hbad, -⟩
      exact absurd hbad.odd heven

/-! ## Pairs -/

/-- The operands of the pair at a position. -/
structure PairAt (operands : List Operand) (i : ℕ) (t o : Operand) : Prop where
  type : operands[2 * i]? = some t
  value : operands[2 * i + 1]? = some o

theorem pairAt_zero (t o : Operand) (rest : List Operand) : PairAt (t :: o :: rest) 0 t o :=
  ⟨rfl, rfl⟩

theorem pairAt_succ_iff {t' o' : Operand} {i : ℕ} :
    PairAt (t :: o :: rest) (i + 1) t' o' ↔ PairAt rest i t' o' := by
  have htype : (t :: o :: rest)[2 * (i + 1)]? = rest[2 * i]? := by
    rw [show 2 * (i + 1) = 2 * i + 1 + 1 by ring]
    rfl
  have hvalue : (t :: o :: rest)[2 * (i + 1) + 1]? = rest[2 * i + 1]? := by
    rw [show 2 * (i + 1) + 1 = 2 * i + 1 + 1 + 1 by ring]
    rfl
  constructor
  · rintro ⟨h, h'⟩
    exact ⟨htype ▸ h, hvalue ▸ h'⟩
  · rintro ⟨h, h'⟩
    exact ⟨htype.trans h, hvalue.trans h'⟩

/-- A position holds one pair at most. -/
theorem PairAt.unique {t' o' : Operand} {i : ℕ} (h : PairAt operands i t o)
    (h' : PairAt operands i t' o') : t' = t ∧ o' = o :=
  ⟨Option.some.inj (h'.type.symm.trans h.type), Option.some.inj (h'.value.symm.trans h.value)⟩

/-- The declared result is part of no pair. -/
theorem pairAt_splitResult_iff {i : ℕ} :
    PairAt (splitResult operands).1 i t o ↔ PairAt operands i t o := by
  constructor
  · rintro ⟨h, h'⟩
    exact ⟨getElem?_of_splitResult_fst h, getElem?_of_splitResult_fst h'⟩
  · rintro ⟨h, h'⟩
    have hi := (List.getElem?_eq_some_iff.mp h').1
    rw [splitResult_fst_eq_take]
    refine ⟨?_, ?_⟩
    · rw [List.getElem?_take_of_lt (by omega)]
      exact h
    · rw [List.getElem?_take_of_lt (by omega)]
      exact h'

/-! ## Defects -/

/-- A value that cannot become an argument of a kind, with the error about it. -/
inductive Inconvertible (index : ℕ) (o : Operand) : Kind → MarshalError → Prop where
  /-- A literal that is declared a text has to be one. -/
  | text {v : Value} (literal : o = .literal v) (isNumber : ∀ s, v ≠ .text s) :
      Inconvertible index o .text (.notAString index)
  | integer {k : Kind} {s : String} (kind : k.isInteger = true) (isText : o.value = .text s)
      (malformed : Numeral.integer? s = none) : Inconvertible index o k (.malformedNumber index s)
  | real {k : Kind} {s : String} (kind : k.isReal = true) (isText : o.value = .text s)
      (malformed : Numeral.real? s = none) : Inconvertible index o k (.malformedNumber index s)

/-- What is wrong with a pair. Its value is looked at only when its token declares a kind. -/
inductive Defect (index : ℕ) (t o : Operand) : MarshalError → Prop where
  | type (h : ∀ token, Token.parse t.text ≠ .ok token) :
      Defect index t o (.invalidType index ⟨t.text⟩)
  | value {token : Token} {error : MarshalError} (h : Token.parse t.text = .ok token)
      (bad : Inconvertible index o token.kind error) : Defect index t o error

/-- The error about a type token carries the whole text. -/
theorem parse_eq_error_iff {s : String} {e : InvalidToken} :
    Token.parse s = .error e ↔ (∀ token, Token.parse s ≠ .ok token) ∧ e = ⟨s⟩ := by
  rcases Token.parse_eq_ok_or_error s with ⟨t, ht⟩ | ht
  · simp [ht]
  · simp [ht, eq_comm]

/-- Only texts have no view as an integer, whichever signedness is asked for. -/
theorem integerBits?_eq_none_iff {isUnsigned : Bool} {v : Value} :
    integerBits? isUnsigned v = none ↔ ∃ s, v = .text s ∧ Numeral.integer? s = none := by
  rw [integerBits?]
  cases v with
  | text s => cases isUnsigned <;> simp [Value.toInt64?, Value.toUInt64?]
  | int i => cases isUnsigned <;> simp [Value.toInt64?, Value.toUInt64?]
  | real x =>
    cases isUnsigned
    · simp [Value.toInt64?]
    · by_cases hx : x.isBelowZero = true <;> simp [Value.toUInt64?, hx]

theorem toDouble?_eq_none_iff {v : Value} :
    v.toDouble? = none ↔ ∃ s, v = .text s ∧ Numeral.real? s = none := by
  cases v <;> simp [Value.toDouble?]

/-- Only literal numbers have no buffer. -/
theorem textBuffer?_eq_none_iff {start : UInt64} :
    textBuffer? start o = none ↔ ∃ v, o = .literal v ∧ ∀ s, v ≠ .text s := by
  match o with
  | .literal v => cases v <;> simp [textBuffer?]
  | .variable x => simp [textBuffer?]

theorem inconvertible_text_iff {index : ℕ} {error : MarshalError} :
    Inconvertible index o .text error ↔
      (∃ v, o = .literal v ∧ ∀ s, v ≠ .text s) ∧ error = .notAString index := by
  constructor
  · intro h
    cases h with
    | text hv hnumber => exact ⟨⟨_, hv, hnumber⟩, rfl⟩
    | integer hk => exact absurd hk (by decide)
    | real hk => exact absurd hk (by decide)
  · rintro ⟨⟨v, hv, hnumber⟩, rfl⟩
    exact .text hv hnumber

theorem inconvertible_iff_of_isInteger {index : ℕ} {k : Kind} (hk : k.isInteger = true)
    {error : MarshalError} : Inconvertible index o k error ↔
      (∃ s, o.value = .text s ∧ Numeral.integer? s = none) ∧
        error = .malformedNumber index o.value.toText := by
  constructor
  · intro h
    cases h with
    | text => exact absurd hk (by decide)
    | integer _ hs hbad => exact ⟨⟨_, hs, hbad⟩, by rw [hs]; rfl⟩
    | real hk' => cases k <;> simp_all [Kind.isInteger, Kind.isReal]
  · rintro ⟨⟨s, hs, hbad⟩, rfl⟩
    rw [hs]
    exact .integer hk hs hbad

theorem inconvertible_iff_of_isReal {index : ℕ} {k : Kind} (hk : k.isReal = true)
    {error : MarshalError} : Inconvertible index o k error ↔
      (∃ s, o.value = .text s ∧ Numeral.real? s = none) ∧
        error = .malformedNumber index o.value.toText := by
  constructor
  · intro h
    cases h with
    | text => exact absurd hk (by decide)
    | integer hk' => cases k <;> simp_all [Kind.isInteger, Kind.isReal]
    | real _ hs hbad => exact ⟨⟨_, hs, hbad⟩, by rw [hs]; rfl⟩
  · rintro ⟨⟨s, hs, hbad⟩, rfl⟩
    rw [hs]
    exact .real hk hs hbad

/-- **A value is refused** exactly if it cannot become an argument of its kind. -/
theorem fillArgument_eq_error_iff {index : ℕ} {token : Token} {error : MarshalError} :
    fillArgument site index token o = .error error ↔ Inconvertible index o token.kind error := by
  simp only [fillArgument, Argument.fill]
  split
  · next hk =>
    rw [hk, inconvertible_text_iff, ← @textBuffer?_eq_none_iff o (site.buffer index)]
    cases textBuffer? (site.buffer index) o <;> simp [eq_comm]
  iterate 2
    · next hk =>
      rw [inconvertible_iff_of_isReal (by rw [hk]; rfl), ← toDouble?_eq_none_iff]
      cases o.value.toDouble? <;> simp [eq_comm]
  all_goals
    next hk =>
    rw [inconvertible_iff_of_isInteger (by rw [hk]; rfl),
      ← @integerBits?_eq_none_iff token.isUnsigned]
    cases integerBits? token.isUnsigned o.value <;> simp [eq_comm]

theorem Inconvertible.ne {index : ℕ} {k : Kind} {error : MarshalError}
    (h : Inconvertible index o k error) :
    (∀ i, error ≠ .missingValue i) ∧ ∀ source, error ≠ .invalidReturnType source := by
  cases h <;> simp

/-- A defect is neither a value that is missing nor a bad return token. -/
theorem Defect.ne {index : ℕ} {error : MarshalError} (h : Defect index t o error) :
    (∀ i, error ≠ .missingValue i) ∧ ∀ source, error ≠ .invalidReturnType source := by
  cases h with
  | type => simp
  | value _ hbad => exact hbad.ne

/-- A pair has one defect at most. -/
theorem Defect.unique {index : ℕ} {error error' : MarshalError} (h : Defect index t o error)
    (h' : Defect index t o error') : error' = error := by
  cases h with
  | type hbad =>
    cases h' with
    | type => rfl
    | value hok => exact absurd hok (hbad _)
  | value hok hbad =>
    cases h' with
    | type hbad' => exact absurd hok (hbad' _)
    | value hok' hbad' =>
      obtain rfl := Except.ok.inj (hok.symm.trans hok')
      have hfill := (@fillArgument_eq_error_iff {} ..).mpr hbad
      exact Except.error.inj ((fillArgument_eq_error_iff.mpr hbad').symm.trans hfill)

/-! ## The walk over the pairs -/

/-- The conversions of the first `n` pairs, as they are reported. -/
structure Conversions (operands : List Operand) (n : ℕ) (events : List Event) : Prop where
  length : events.length = n
  event : ∀ i < n, ∃ t o token, PairAt operands i t o ∧ Token.parse t.text = .ok token ∧
    events[i]? = some (.typeConversion o.value.typeName token.kind)

/-- The conversions that a defect of a pair leaves a report of: a bad value is found out while it is
converted, a bad type token before. -/
def MarshalError.reports : MarshalError → ℕ
  | .notAString _ | .malformedNumber .. => 1
  | .invalidReturnType _ | .invalidType .. | .missingValue _ => 0

/-- The leftmost pair with a defect, where the first pair has the given position. -/
structure FirstDefect (index : ℕ) (operands : List Operand) (i : ℕ) (error : MarshalError) :
    Prop where
  defect : ∃ t o, PairAt operands i t o ∧ Defect (index + i) t o error
  before : ∀ j < i, ∀ t o e, PairAt operands j t o → ¬ Defect (index + j) t o e

/-- No pair has a defect, where the first pair has the given position. -/
def Flawless (index : ℕ) (operands : List Operand) : Prop :=
  ∀ i t o error, PairAt operands i t o → ¬ Defect (index + i) t o error

theorem Inconvertible.reports {index : ℕ} {k : Kind} {error : MarshalError}
    (h : Inconvertible index o k error) : error.reports = 1 := by
  cases h <;> rfl

theorem conversions_zero (operands : List Operand) : Conversions operands 0 [] :=
  ⟨rfl, fun _ hi => absurd hi (Nat.not_lt_zero _)⟩

theorem Conversions.cons {token : Token} {n : ℕ} {events : List Event}
    (ht : Token.parse t.text = .ok token) (h : Conversions rest n events) :
    Conversions (t :: o :: rest) (n + 1)
      (.typeConversion o.value.typeName token.kind :: events) := by
  refine ⟨by rw [List.length_cons, h.length], fun i hi => ?_⟩
  cases i with
  | zero => exact ⟨t, o, token, pairAt_zero t o rest, ht, rfl⟩
  | succ i =>
    obtain ⟨t', o', token', hpair, ht', hevent⟩ := h.event i (Nat.lt_of_succ_lt_succ hi)
    exact ⟨t', o', token', pairAt_succ_iff.mpr hpair, ht', hevent⟩

/-- A pair without a defect passes the defects of the rest on. -/
theorem FirstDefect.cons {index i : ℕ} {error : MarshalError}
    (hnone : ∀ e, ¬ Defect index t o e) (h : FirstDefect (index + 1) rest i error) :
    FirstDefect index (t :: o :: rest) (i + 1) error := by
  obtain ⟨⟨t', o', hpair, hdefect⟩, hbefore⟩ := h
  rw [Nat.add_assoc, Nat.add_comm 1 i] at hdefect
  refine ⟨⟨t', o', pairAt_succ_iff.mpr hpair, hdefect⟩, fun j hj t'' o'' e hpair' => ?_⟩
  cases j with
  | zero =>
    obtain ⟨rfl, rfl⟩ := (pairAt_zero t o rest).unique hpair'
    exact hnone e
  | succ j =>
    rw [Nat.add_comm j 1, ← Nat.add_assoc]
    exact hbefore j (Nat.lt_of_succ_lt_succ hj) t'' o'' e (pairAt_succ_iff.mp hpair')

theorem Flawless.cons {index : ℕ} (hnone : ∀ e, ¬ Defect index t o e)
    (h : Flawless (index + 1) rest) : Flawless index (t :: o :: rest) := by
  intro i t' o' e hpair
  cases i with
  | zero =>
    obtain ⟨rfl, rfl⟩ := (pairAt_zero t o rest).unique hpair
    exact hnone e
  | succ i =>
    rw [Nat.add_comm i 1, ← Nat.add_assoc]
    exact h i t' o' e (pairAt_succ_iff.mp hpair)

/-- **The walk over the pairs** ends behind the last one, or at the leftmost defect. On its way it
reports the conversions. -/
theorem marshalPairs_stops (site : Site) (index : ℕ) (operands : List Operand)
    (heven : operands.length % 2 = 0) :
    (∃ as, (marshalPairs site index operands).2 = .ok as ∧ Flawless index operands ∧
      Conversions operands as.length (marshalPairs site index operands).1) ∨
    ∃ i error, (marshalPairs site index operands).2 = .error error ∧
      FirstDefect index operands i error ∧
      Conversions operands (i + error.reports) (marshalPairs site index operands).1 := by
  fun_induction marshalPairs site index operands with
  | case1 index =>
    exact .inl ⟨[], rfl, fun i t o e hpair => absurd hpair.type (by simp), conversions_zero []⟩
  | case2 => exact absurd heven (by simp)
  | case3 index t o rest e ht =>
    obtain ⟨hbad, rfl⟩ := parse_eq_error_iff.mp ht
    exact .inr ⟨0, _, rfl, ⟨⟨t, o, pairAt_zero t o rest, .type hbad⟩,
      fun _ hj => absurd hj (by simp)⟩, conversions_zero _⟩
  | case4 index t o rest token ht converted e hfill =>
    have hbad := fillArgument_eq_error_iff.mp hfill
    have hreports : e.reports = 1 := hbad.reports
    refine .inr ⟨0, e, rfl, ⟨⟨t, o, pairAt_zero t o rest, .value ht hbad⟩,
      fun _ hj => absurd hj (by simp)⟩, ?_⟩
    rw [hreports]
    exact (conversions_zero rest).cons ht
  | case5 index t o rest token ht converted a hfill events r hr ih =>
    have hnone : ∀ e, ¬ Defect index t o e := by
      intro e hdefect
      cases hdefect with
      | type hbad => exact hbad token ht
      | value hok hbad =>
        obtain rfl := Except.ok.inj (ht.symm.trans hok)
        exact absurd (hfill.symm.trans (fillArgument_eq_error_iff.mpr hbad)) (by simp)
    rw [hr] at ih
    have hrest : rest.length % 2 = 0 := by
      simp only [List.length_cons] at heven
      omega
    rcases ih hrest with ⟨as, rfl, hflawless, hevents⟩ | ⟨i, e, rfl, hfirst, hevents⟩
    · exact .inl ⟨a :: as, rfl, hflawless.cons hnone, hevents.cons ht⟩
    · refine .inr ⟨i + 1, e, rfl, hfirst.cons hnone, ?_⟩
      rw [Nat.add_right_comm]
      exact hevents.cons ht

/-! ## Whole lists -/

/-- A plan with one argument for each pair, in their order. -/
structure Plan.Describes (p : Plan) (operands : List Operand) : Prop where
  length : p.arguments.length = operands.length / 2
  /-- Each argument has the declaration of its pair, and a buffer of its own exactly if it is a
  text; then its slot points there. -/
  argument : ∀ i a, p.arguments[i]? = some a → ∃ t o, PairAt operands i t o ∧
    Token.parse t.text = .ok a.token ∧ (a.buffer.isSome = true ↔ a.token.kind = .text) ∧
    ∀ b, a.buffer = some b → a.slot = b.start ∧ b.start = p.site.buffer i

theorem describes_of_marshal {p : Plan} (h : (marshal site operands).2 = .ok p) :
    p.Describes operands := by
  have hsite := (marshal_eq_ok_iff.mp h).2.2
  refine ⟨length_arguments_of_marshal h, fun i a ha => ?_⟩
  obtain ⟨t, o, ht, ho, hparse, hfill⟩ := getElem?_arguments_of_marshal h ha
  obtain ⟨-, htext, hother⟩ := fillArgument_eq_ok hfill
  refine ⟨t, o, ⟨ht, ho⟩, hparse, ?_⟩
  by_cases hk : a.token.kind = .text
  · obtain ⟨b, hb, hmade⟩ := htext hk
    have hbuffer : a.buffer = some b := congrArg Argument.buffer hmade
    refine ⟨by simp [hbuffer, hk], fun b' hb' => ?_⟩
    obtain rfl : b = b' := Option.some.inj (hbuffer.symm.trans hb')
    exact ⟨congrArg Argument.slot hmade, by rw [textBuffer?_start hb, hsite]⟩
  · have hbuffer := hother hk
    exact ⟨by simp [hbuffer, hk], fun b' hb' => absurd (hbuffer.symm.trans hb') (by simp)⟩

/-- The leftmost defect is one, with one error. -/
theorem FirstDefect.unique {index i i' : ℕ} {error error' : MarshalError}
    (h : FirstDefect index operands i error) (h' : FirstDefect index operands i' error') :
    i' = i ∧ error' = error := by
  obtain ⟨⟨t, o, hpair, hdefect⟩, hbefore⟩ := h
  obtain ⟨⟨t', o', hpair', hdefect'⟩, hbefore'⟩ := h'
  obtain hi | rfl | hi := Nat.lt_trichotomy i i'
  · exact absurd hdefect (hbefore' i hi t o error hpair)
  · obtain ⟨rfl, rfl⟩ := hpair.unique hpair'
    exact ⟨rfl, hdefect.unique hdefect'⟩
  · exact absurd hdefect' (hbefore i' hi t' o' error' hpair')

theorem Flawless.not_firstDefect {index i : ℕ} {error : MarshalError}
    (h : Flawless index operands) : ¬ FirstDefect index operands i error := by
  rintro ⟨⟨t, o, hpair, hdefect⟩, -⟩
  exact h i t o error hpair hdefect

theorem firstDefect_splitResult_iff {index i : ℕ} {error : MarshalError} :
    FirstDefect index (splitResult operands).1 i error ↔ FirstDefect index operands i error := by
  constructor
  · rintro ⟨⟨t, o, hpair, hdefect⟩, hbefore⟩
    exact ⟨⟨t, o, pairAt_splitResult_iff.mp hpair, hdefect⟩,
      fun j hj t o e h => hbefore j hj t o e (pairAt_splitResult_iff.mpr h)⟩
  · rintro ⟨⟨t, o, hpair, hdefect⟩, hbefore⟩
    exact ⟨⟨t, o, pairAt_splitResult_iff.mpr hpair, hdefect⟩,
      fun j hj t o e h => hbefore j hj t o e (pairAt_splitResult_iff.mp h)⟩

theorem flawless_splitResult_iff {index : ℕ} :
    Flawless index (splitResult operands).1 ↔ Flawless index operands :=
  ⟨fun h i t o e hpair => h i t o e (pairAt_splitResult_iff.mpr hpair),
    fun h i t o e hpair => h i t o e (pairAt_splitResult_iff.mp hpair)⟩

theorem Conversions.of_splitResult {n : ℕ} {events : List Event}
    (h : Conversions (splitResult operands).1 n events) : Conversions operands n events := by
  refine ⟨h.length, fun i hi => ?_⟩
  obtain ⟨t, o, token, hpair, hevent⟩ := h.event i hi
  exact ⟨t, o, token, pairAt_splitResult_iff.mp hpair, hevent⟩

theorem marshal_of_result_error {e : MarshalError}
    (h : resultToken (splitResult operands).2 = .error e) :
    marshal site operands = ([], .error e) := by
  simp only [marshal, h]

theorem marshal_of_result_ok {r : Token × Convention}
    (h : resultToken (splitResult operands).2 = .ok r) :
    marshal site operands = ((marshalPairs site 0 (splitResult operands).1).1,
      (marshalPairs site 0 (splitResult operands).1).2.map fun arguments =>
        { site, arguments, convention := r.2, result := r.1 }) := by
  simp only [marshal, h]

/-- The three ways in which marshaling ends. -/
theorem marshal_cases (site : Site) (operands : List Operand) :
    (∃ o, BadResult operands o ∧
      marshal site operands = ([], .error (.invalidReturnType ⟨o.text⟩))) ∨
    (∀ o, ¬ BadResult operands o) ∧
      ((∃ i error, FirstDefect 0 operands i error ∧ (marshal site operands).2 = .error error ∧
        Conversions operands (i + error.reports) (marshal site operands).1) ∨
      ∃ p, Flawless 0 operands ∧ (marshal site operands).2 = .ok p ∧
        Conversions operands p.arguments.length (marshal site operands).1) := by
  cases hresult : resultToken (splitResult operands).2 with
  | error e =>
    obtain ⟨o, hbad, rfl⟩ := resultToken_splitResult_eq_error_iff.mp hresult
    exact .inl ⟨o, hbad, marshal_of_result_error hresult⟩
  | ok r =>
    have hgood : ∀ o, ¬ BadResult operands o := by
      intro o hbad
      have herror := resultToken_splitResult_eq_error_iff.mpr ⟨o, hbad, rfl⟩
      exact absurd (hresult.symm.trans herror) (by simp)
    refine .inr ⟨hgood, ?_⟩
    have heven : (splitResult operands).1.length % 2 = 0 := by
      rw [length_splitResult_fst]
      omega
    rw [marshal_of_result_ok hresult]
    rcases marshalPairs_stops site 0 (splitResult operands).1 heven with
      ⟨as, has, hflawless, hevents⟩ | ⟨i, error, herror, hfirst, hevents⟩
    · rw [has]
      exact .inr ⟨_, flawless_splitResult_iff.mp hflawless, rfl, hevents.of_splitResult⟩
    · rw [herror]
      exact .inl ⟨i, error, firstDefect_splitResult_iff.mp hfirst, rfl, hevents.of_splitResult⟩

/-- **What marshaling comes to, for every operand list.** No list lacks a value. The error is the
one of the declared result exactly if there is one and it is no return token, whatever the pairs
are. Otherwise it is the one of the leftmost pair with a defect, and without a defect there is a
plan, which describes the pairs. The conversions up to there are reported: all of them when there is
a plan, the ones up to a bad value, the ones in front of a bad type token, and none when the
declared result is refused. -/
theorem marshal_eq_leftmost_defect (site : Site) (operands : List Operand) :
    (∀ i, (marshal site operands).2 ≠ .error (.missingValue i)) ∧
    (∀ source, (marshal site operands).2 = .error (.invalidReturnType source) ↔
      ∃ o, BadResult operands o ∧ source = ⟨o.text⟩) ∧
    (∀ o, BadResult operands o → (marshal site operands).1 = []) ∧
    ((∀ o, ¬ BadResult operands o) →
      (∀ error, (marshal site operands).2 = .error error ↔ ∃ i, FirstDefect 0 operands i error) ∧
      (∀ i error, FirstDefect 0 operands i error →
        Conversions operands (i + error.reports) (marshal site operands).1) ∧
      ((∃ p, (marshal site operands).2 = .ok p) ↔ Flawless 0 operands) ∧
      ∀ p, (marshal site operands).2 = .ok p →
        p.Describes operands ∧
          Conversions operands (operands.length / 2) (marshal site operands).1) := by
  rcases marshal_cases site operands with ⟨o, hbad, hm⟩ |
    ⟨hgood, ⟨i, error, hfirst, hm, hevents⟩ | ⟨p, hflawless, hm, hevents⟩⟩
  · rw [hm]
    refine ⟨by simp, fun source => ⟨fun h => ?_, ?_⟩, fun _ _ => rfl, fun h => absurd hbad (h o)⟩
    · simp only [Except.error.injEq, MarshalError.invalidReturnType.injEq] at h
      exact ⟨o, hbad, h.symm⟩
    · rintro ⟨o', hbad', rfl⟩
      obtain rfl : o = o' := Option.some.inj (hbad.last.symm.trans hbad'.last)
      rfl
  · obtain ⟨t, o, -, hdefect⟩ := hfirst.defect
    rw [hm]
    refine ⟨fun j h => hdefect.ne.1 j (Except.error.inj h), fun source => ⟨fun h => ?_, ?_⟩,
      fun o hbad => absurd hbad (hgood o), fun _ => ⟨fun error' => ⟨fun h => ?_, ?_⟩, ?_, ⟨?_, ?_⟩,
        fun p h => absurd h (by simp)⟩⟩
    · exact absurd (Except.error.inj h) (hdefect.ne.2 source)
    · rintro ⟨o, hbad, -⟩
      exact absurd hbad (hgood o)
    · obtain rfl := Except.error.inj h
      exact ⟨i, hfirst⟩
    · rintro ⟨i', hfirst'⟩
      rw [(hfirst.unique hfirst').2]
    · intro i' error' hfirst'
      obtain ⟨rfl, rfl⟩ := hfirst.unique hfirst'
      exact hevents
    · rintro ⟨p, h⟩
      exact absurd h (by simp)
    · exact fun hflawless => absurd hfirst hflawless.not_firstDefect
  · have hdescribes := describes_of_marshal hm
    rw [hm]
    refine ⟨by simp, fun source => ⟨fun h => absurd h (by simp), ?_⟩,
      fun o hbad => absurd hbad (hgood o), fun _ => ⟨fun error => ⟨fun h => absurd h (by simp), ?_⟩,
        fun i error hfirst => absurd hfirst hflawless.not_firstDefect,
        ⟨fun _ => hflawless, fun _ => ⟨p, rfl⟩⟩, fun p' h => ?_⟩⟩
    · rintro ⟨o, hbad, -⟩
      exact absurd hbad (hgood o)
    · rintro ⟨i, hfirst⟩
      exact absurd hfirst hflawless.not_firstDefect
    · obtain rfl := Except.ok.inj h
      exact ⟨hdescribes, hdescribes.length ▸ hevents⟩

/-- Three pairs, the second one with a bad value and the third one with a bad type token. -/
def twoDefects : List Operand :=
  [.literal (.text "Int"), .literal (.int 1), .literal (.text "Str"), .literal (.int 12),
    .literal (.text "Blah"), .literal (.int 2)]

/-- The bad value is found first, and its conversion is the last one that is reported. With a bad
return token behind them neither is found. -/
theorem marshal_eq_leftmost_defect_twoDefects :
    (∃ i, FirstDefect 0 twoDefects i (.notAString 1) ∧
      Conversions twoDefects (i + 1) (marshal {} twoDefects).1) ∧
    (marshal {} (twoDefects ++ [.literal (.text "Bogus")])).2 =
      .error (.invalidReturnType ⟨"Bogus"⟩) := by
  have herror : (marshal {} twoDefects).2 = .error (.notAString 1) := by decide
  have hgood : ∀ o, ¬ BadResult twoDefects o := fun o hbad => absurd hbad.odd (by decide)
  obtain ⟨-, -, -, hpairs⟩ := marshal_eq_leftmost_defect {} twoDefects
  obtain ⟨hfirst, hevents, -⟩ := hpairs hgood
  obtain ⟨i, hi⟩ := (hfirst _).mp herror
  refine ⟨⟨i, hi, hevents i _ hi⟩, ?_⟩
  refine ((marshal_eq_leftmost_defect {} (twoDefects ++ [.literal (.text "Bogus")])).2.1 _).mpr ?_
  have hbogus : Token.parseReturn "Bogus" = .error ⟨"Bogus"⟩ := rfl
  exact ⟨.literal (.text "Bogus"), ⟨by decide, rfl, (parseReturn_eq_error_iff.mp hbogus).1⟩, rfl⟩

end ForeignCall
