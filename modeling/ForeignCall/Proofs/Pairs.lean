import ForeignCall.Marshal
import Mathlib.Tactic.Ring

/-!
# The pairs of an operand list

Marshaling walks over pairs of a type token and a value; everything said afterwards about an
argument is said about the pair that it came from. This file fixes that correspondence once: the
argument at position `i` is made of the operands `2 * i` and `2 * i + 1`, whatever stands around
them and whether or not a return token follows.

## Scope

Only successful marshaling is looked at here. Which error a bad list has is a matter of the order
of the checks and is left to the statements that need it.

## Main definitions

* `pairArgument` — the argument that a pair makes

## Main results

* `splitResult_fst_eq_take` — the pairs are the front part of even length
* `marshalPairs_cons` — marshaling one pair and then the rest
* `getElem?_marshalPairs` — the pair behind an argument
* `marshal_eq_ok_iff` — a plan is its arguments and its declared result, each found on its own
* `length_arguments_of_marshal`, `getElem?_arguments_of_marshal` — the same for whole plans
-/

namespace ForeignCall

variable {site : Site} {operands : List Operand}

/-! ## Steps that may fail -/

theorem bind_eq_ok_iff {ε α β : Type} {x : Except ε α} {f : α → Except ε β} {b : β} :
    x.bind f = .ok b ↔ ∃ a, x = .ok a ∧ f a = .ok b := by
  cases x <;> simp [Except.bind]

theorem map_eq_ok_iff {ε α β : Type} {x : Except ε α} {f : α → β} {b : β} :
    x.map f = .ok b ↔ ∃ a, x = .ok a ∧ f a = b := by
  cases x <;> simp [Except.map]

theorem mapError_eq_ok_iff {ε ε' α : Type} {x : Except ε α} {f : ε → ε'} {a : α} :
    x.mapError f = .ok a ↔ x = .ok a := by
  cases x <;> simp [Except.mapError]

/-! ## Splitting off the declared result -/

theorem splitResult_fst_eq_take (operands : List Operand) :
    (splitResult operands).1 = operands.take (2 * (operands.length / 2)) := by
  rw [splitResult]
  split
  · next h =>
    rw [List.dropLast_eq_take, show operands.length - 1 = 2 * (operands.length / 2) by omega]
  · next h => rw [List.take_of_length_le (by omega)]

theorem length_splitResult_fst (operands : List Operand) :
    (splitResult operands).1.length = 2 * (operands.length / 2) := by
  rw [splitResult_fst_eq_take, List.length_take]
  omega

/-- A position that the pairs have is one of the whole list. -/
theorem getElem?_of_splitResult_fst {j : ℕ} {o : Operand}
    (h : (splitResult operands).1[j]? = some o) : operands[j]? = some o := by
  rw [splitResult_fst_eq_take, List.getElem?_take] at h
  split at h
  · exact h
  · exact absurd h (by simp)

/-! ## Single arguments -/

/-- Filling an argument keeps its declaration, and gives it a buffer exactly if it is a text. -/
theorem fillArgument_eq_ok {index : ℕ} {token : Token} {o : Operand} {a : Argument}
    (h : fillArgument site index token o = .ok a) :
    a.token = token ∧ (token.kind = .text → ∃ b, textBuffer? (site.buffer index) o = some b ∧
      a = .ofBuffer token b) ∧ (token.kind ≠ .text → a.buffer = none) := by
  simp only [fillArgument, Argument.fill] at h
  split at h
  · next hk =>
    split at h
    · next b hb =>
      obtain rfl := Except.ok.inj h
      exact ⟨rfl, fun _ => ⟨b, hb, rfl⟩, fun hne => absurd hk hne⟩
    · exact absurd h (by simp)
  all_goals
    next hk =>
    split at h
    · obtain rfl := Except.ok.inj h
      exact ⟨rfl, fun ht => absurd (hk.symm.trans ht) (by simp), fun _ => rfl⟩
    · exact absurd h (by simp)

/-- The buffer of a text argument starts at the address of its position. -/
theorem textBuffer?_start {start : UInt64} {o : Operand} {b : Buffer}
    (h : textBuffer? start o = some b) : b.start = start := by
  unfold textBuffer? at h
  split at h
  · obtain rfl := Option.some.inj h
    rfl
  · exact absurd h (by simp)
  · obtain rfl := Option.some.inj h
    rfl

/-! ## Lists of arguments -/

/-- The argument that a pair makes. -/
def pairArgument (site : Site) (index : ℕ) (t o : Operand) : Except MarshalError Argument :=
  ((Token.parse t.text).mapError (.invalidType index)).bind fun token =>
    fillArgument site index token o

theorem pairArgument_of_parse {index : ℕ} {t o : Operand} {token : Token}
    (ht : Token.parse t.text = .ok token) :
    pairArgument site index t o = fillArgument site index token o := by
  rw [pairArgument, ht]
  rfl

theorem pairArgument_eq_ok_iff {index : ℕ} {t o : Operand} {a : Argument} :
    pairArgument site index t o = .ok a ↔
      ∃ token, Token.parse t.text = .ok token ∧ fillArgument site index token o = .ok a := by
  simp only [pairArgument, bind_eq_ok_iff, mapError_eq_ok_iff]

/-- Marshaling one pair and then the rest. -/
theorem marshalPairs_cons (site : Site) (index : ℕ) (t o : Operand) (rest : List Operand) :
    (marshalPairs site index (t :: o :: rest)).2 =
      (pairArgument site index t o).bind fun a =>
        (marshalPairs site (index + 1) rest).2.map (a :: ·) := by
  rw [marshalPairs, pairArgument]
  cases Token.parse t.text with
  | error e => rfl
  | ok token =>
    simp only [Except.mapError, Except.bind]
    cases fillArgument site index token o <;> rfl

theorem marshalPairs_cons_eq_ok {index : ℕ} {t o : Operand} {rest : List Operand}
    {as : List Argument} (h : (marshalPairs site index (t :: o :: rest)).2 = .ok as) :
    ∃ token a as', Token.parse t.text = .ok token ∧ fillArgument site index token o = .ok a ∧
      (marshalPairs site (index + 1) rest).2 = .ok as' ∧ as = a :: as' := by
  rw [marshalPairs_cons, bind_eq_ok_iff] at h
  obtain ⟨a, ha, hrest⟩ := h
  obtain ⟨token, ht, hfill⟩ := pairArgument_eq_ok_iff.mp ha
  obtain ⟨as', has', rfl⟩ := map_eq_ok_iff.mp hrest
  exact ⟨token, a, as', ht, hfill, has', rfl⟩

/-- There is one argument for each pair. -/
theorem length_marshalPairs {index : ℕ} {as : List Argument}
    (h : (marshalPairs site index operands).2 = .ok as) : operands.length = 2 * as.length := by
  induction as generalizing index operands with
  | nil =>
    match operands with
    | [] => rfl
    | [_] => simp [marshalPairs] at h
    | t :: o :: rest =>
      obtain ⟨_, _, _, _, _, _, has⟩ := marshalPairs_cons_eq_ok h
      exact absurd has (by simp)
  | cons a as ih =>
    match operands with
    | [] => simp [marshalPairs] at h
    | [_] => simp [marshalPairs] at h
    | t :: o :: rest =>
      obtain ⟨_, _, as', _, _, hr, has⟩ := marshalPairs_cons_eq_ok h
      obtain ⟨rfl, rfl⟩ := List.cons.inj has
      have := ih hr
      simp only [List.length_cons]
      omega

/-- **The pair behind an argument.** -/
theorem getElem?_marshalPairs {index i : ℕ} {as : List Argument} {a : Argument}
    (h : (marshalPairs site index operands).2 = .ok as) (ha : as[i]? = some a) :
    ∃ t o, operands[2 * i]? = some t ∧ operands[2 * i + 1]? = some o ∧
      Token.parse t.text = .ok a.token ∧ fillArgument site (index + i) a.token o = .ok a := by
  induction as generalizing index operands i with
  | nil => simp at ha
  | cons b as ih =>
    match operands with
    | [] => simp [marshalPairs] at h
    | [_] => simp [marshalPairs] at h
    | t :: o :: rest =>
      obtain ⟨token, b', as', ht, hb, hr, has⟩ := marshalPairs_cons_eq_ok h
      obtain ⟨rfl, rfl⟩ := List.cons.inj has
      cases i with
      | zero =>
        obtain rfl : b = a := by simpa using ha
        obtain ⟨rfl, -, -⟩ := fillArgument_eq_ok hb
        exact ⟨t, o, rfl, rfl, ht, hb⟩
      | succ i =>
        obtain ⟨t', o', h₁, h₂, h₃, h₄⟩ := ih hr (by simpa using ha)
        refine ⟨t', o', ?_, ?_, h₃, ?_⟩
        · rw [show 2 * (i + 1) = 2 * i + 1 + 1 by ring]
          simpa using h₁
        · rw [show 2 * (i + 1) + 1 = 2 * i + 1 + 1 + 1 by ring]
          simpa using h₂
        · rw [show index + (i + 1) = index + 1 + i by ring]
          exact h₄

/-! ## Whole plans -/

/-- A plan is its arguments and its declared result, each found on its own. -/
theorem marshal_eq_ok_iff {p : Plan} :
    (marshal site operands).2 = .ok p ↔
      resultToken (splitResult operands).2 = .ok (p.result, p.convention) ∧
        (marshalPairs site 0 (splitResult operands).1).2 = .ok p.arguments ∧ p.site = site := by
  simp only [marshal]
  cases resultToken (splitResult operands).2 with
  | error e => simp
  | ok r =>
    obtain ⟨result, convention⟩ := r
    simp only [map_eq_ok_iff, Except.ok.injEq, Prod.mk.injEq]
    constructor
    · rintro ⟨arguments, harguments, rfl⟩
      exact ⟨⟨rfl, rfl⟩, harguments, rfl⟩
    · obtain ⟨site', arguments, convention', result'⟩ := p
      rintro ⟨⟨rfl, rfl⟩, harguments, rfl⟩
      exact ⟨arguments, harguments, rfl⟩

theorem length_arguments_of_marshal {p : Plan} (h : (marshal site operands).2 = .ok p) :
    p.arguments.length = operands.length / 2 := by
  obtain ⟨-, hp, -⟩ := marshal_eq_ok_iff.mp h
  have := length_marshalPairs hp
  rw [length_splitResult_fst] at this
  omega

theorem getElem?_arguments_of_marshal {p : Plan} {i : ℕ} {a : Argument}
    (h : (marshal site operands).2 = .ok p) (ha : p.arguments[i]? = some a) :
    ∃ t o, operands[2 * i]? = some t ∧ operands[2 * i + 1]? = some o ∧
      Token.parse t.text = .ok a.token ∧ fillArgument site i a.token o = .ok a := by
  obtain ⟨-, hp, -⟩ := marshal_eq_ok_iff.mp h
  obtain ⟨t, o, ht, ho, hparse, hfill⟩ := getElem?_marshalPairs hp ha
  rw [Nat.zero_add] at hfill
  exact ⟨t, o, getElem?_of_splitResult_fst ht, getElem?_of_splitResult_fst ho, hparse, hfill⟩

end ForeignCall
