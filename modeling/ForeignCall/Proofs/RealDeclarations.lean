import ForeignCall.Proofs.NumeralGrammar
import ForeignCall.Proofs.Spellings
import Mathlib.Data.List.Basic

/-!
# Integers declared as real numbers

The two readers of numbers share their first steps and then part. The reader of integers looks for
digits before it tries a numeral with a fraction or an exponent, and it refuses what is out of its
range; the reader of real numbers takes every numeral, and rounds. So a text that is an integer is a
real number as well, and where an integer was declared, `Float` or `Double` can be declared instead.
The list of operands then has the errors that it had, and a plan differs in this one argument.

## Main results

* `Numeral.exists_real?_of_integer?` — a text that is an integer is a real number
* `exists_fillArgument_of_isReal` — a text that fills an integer argument fills a real one
* `marshal_set_isReal` — a real number declared in place of an integer
-/

namespace ForeignCall

namespace Number.Numeral

variable {ds : List Char} {s : String} {n : ℤ}

/-- Digits without a fraction or an exponent are a decimal numeral, however many they are. -/
theorem Digits.exists_plain? (h : Digits ds) : ∃ x, plain? ds = some x := by
  have hdecimal : IsDecimal ds := ⟨ds, [], (List.append_nil ds).symm, .whole h, .absent⟩
  exact (plain?_iff (splitSign_of_head hdecimal.head_ne)).mpr hdecimal

/-- What may follow the sign of an integer may follow the sign of a real number. -/
theorem exists_realMagnitude?_of_magnitude? (hne : ds ≠ []) (h : ∃ m, magnitude? ds = some m) :
    ∃ x, realMagnitude? ds = some x := by
  refine realMagnitude?_iff.mpr ?_
  rcases magnitude?_iff.mp h with hhex | ⟨hbody, hall, -⟩ | ⟨hbody, -, x, hx, -⟩
  · exact .inl hhex
  · exact .inr ⟨hbody, Digits.exists_plain? ⟨hne, List.all_eq_true.mp hall⟩⟩
  · exact .inr ⟨hbody, x, hx⟩

/-- **A text that is an integer is a real number.** -/
theorem exists_real?_of_integer? (h : integer? s = some n) : ∃ x, real? s = some x := by
  rcases hsplit : splitSign (Blank.trim s.toList) with ⟨negative, ds⟩
  refine (real?_iff rfl hsplit).mpr ?_
  rcases (integer?_iff rfl hsplit).mp ⟨n, h⟩ with hnil | ⟨hne, hm⟩
  · exact .inl hnil
  · exact .inr (exists_realMagnitude?_of_magnitude? hne hm)

end Number.Numeral

open Number (Numeral.integer? Numeral.real? Numeral.exists_real?_of_integer?)

variable {site : Site} {operands : List Operand} {index i : ℕ} {t t' o : Operand}
  {token token' : Token} {a : Argument} {s : String}

/-- **A text that fills an integer argument fills a real one**, of either precision. -/
theorem exists_fillArgument_of_isReal (hk : token.kind.isInteger = true)
    (hk' : token'.kind.isReal = true) (ho : o.value = .text s)
    (h : fillArgument site index token o = .ok a) :
    ∃ a', fillArgument site index token' o = .ok a' := by
  cases hfill : fillArgument site index token' o with
  | ok a' => exact ⟨a', rfl⟩
  | error e =>
    have hbad := fillArgument_eq_error_iff.mp hfill
    obtain ⟨⟨s', hs', hreal⟩, -⟩ := (inconvertible_iff_of_isReal hk').mp hbad
    obtain rfl : s = s' := Value.text.inj (ho.symm.trans hs')
    cases hint : Numeral.integer? s with
    | none =>
      -- then the text would not have filled the integer argument
      have herror : fillArgument site index token o = .error (.malformedNumber index s) :=
        fillArgument_eq_error_iff.mpr (.integer hk ho hint)
      exact absurd (h.symm.trans herror) (by simp)
    | some n =>
      obtain ⟨x, hx⟩ := Numeral.exists_real?_of_integer? hint
      exact absurd (hreal.symm.trans hx) (by simp)

/-- An error about a number is about the value of its own pair. -/
theorem Defect.eq_of_malformedNumber {j : ℕ} (h : Defect index t o (.malformedNumber j s)) :
    j = index ∧ ∃ token, Token.parse t.text = .ok token ∧
      Inconvertible index o token.kind (.malformedNumber j s) := by
  cases h with
  | @value token _ ht hbad =>
    refine ⟨?_, token, ht, hbad⟩
    generalize token.kind = k at hbad
    cases hbad <;> rfl

/-- **A list is not refused for a number** that fills its argument. -/
theorem marshal_ne_malformedNumber (h : PairAt operands i t o)
    (ht : Token.parse t.text = .ok token) (ha : fillArgument site i token o = .ok a) (s : String) :
    (marshal site operands).2 ≠ .error (.malformedNumber i s) := by
  intro herror
  rcases marshal_cases site operands with ⟨o', -, hm⟩ | ⟨-, ⟨j, e, hfirst, hm, -⟩ | ⟨p, -, hm, -⟩⟩
  · exact absurd (herror.symm.trans (congrArg (·.2) hm)) (by simp)
  · obtain rfl := Except.error.inj (hm.symm.trans herror)
    obtain ⟨t', o', hpair, hdefect⟩ := hfirst.defect
    obtain ⟨hij, token', ht', hbad⟩ := hdefect.eq_of_malformedNumber
    rw [Nat.zero_add] at hij hbad
    subst hij
    obtain ⟨rfl, rfl⟩ := h.unique hpair
    obtain rfl := Except.ok.inj (ht.symm.trans ht')
    exact absurd (ha.symm.trans (fillArgument_eq_error_iff.mpr hbad)) (by simp)
  · exact absurd (herror.symm.trans hm) (by simp)

/-- **A real number declared in place of an integer.** A text that is an integer is a real number.
So take any operand list with an integer token in front of a text that it can be filled with, and
put a token of a real kind there instead: the text fills this argument too, the list marshals as it
did with another argument at that place, and it has the errors that it had, of which none is that
the text is no number. -/
theorem marshal_set_isReal :
    (∀ s, (∃ n, Numeral.integer? s = some n) → ∃ x, Numeral.real? s = some x) ∧
    ∀ (site : Site) (operands : List Operand) (i : ℕ) (t t' o : Operand) (token token' : Token)
        (a : Argument) (s : String),
      PairAt operands i t o → Token.parse t.text = .ok token → token.kind.isInteger = true →
      o.value = .text s → fillArgument site i token o = .ok a →
      Token.parse t'.text = .ok token' → token'.kind.isReal = true →
        (∃ a', fillArgument site i token' o = .ok a' ∧
          ∀ p, (marshal site operands).2 = .ok p →
            (marshal site (operands.set (2 * i) t')).2 =
              .ok { p with arguments := p.arguments.set i a' }) ∧
        (∀ e, (marshal site (operands.set (2 * i) t')).2 = .error e ↔
          (marshal site operands).2 = .error e) ∧
        ∀ text, (marshal site (operands.set (2 * i) t')).2 ≠ .error (.malformedNumber i text) := by
  refine ⟨fun s ⟨n, hn⟩ => Numeral.exists_real?_of_integer? hn,
    fun site operands i t t' o token token' a s hpair ht hk ho ha ht' hk' => ?_⟩
  obtain ⟨a', ha'⟩ := exists_fillArgument_of_isReal hk hk' ho ha
  have hargument : pairArgument site i t' o = (pairArgument site i t o).map fun _ => a' := by
    rw [pairArgument_of_parse ht', pairArgument_of_parse ht, ha, ha']
    rfl
  have hmarshal := marshal_set_type hpair hargument
  have herror : ∀ e, (marshal site (operands.set (2 * i) t')).2 = .error e ↔
      (marshal site operands).2 = .error e := by
    intro e
    rw [hmarshal]
    cases (marshal site operands).2 <;> simp [Except.map]
  refine ⟨⟨a', ha', fun p hp => ?_⟩, herror, fun text h => ?_⟩
  · rw [hmarshal, hp, List.set_eq_modify]
    rfl
  · exact marshal_ne_malformedNumber hpair ht ha text ((herror _).mp h)

/-- Twenty zeros and a minus in front of a digit, declared an `Int` and then a `Float`. -/
theorem marshal_set_isReal_padded :
    let operands : List Operand :=
      [.literal (.text "Int"), .literal (.text "-000000000000000000007")]
    (marshal {} operands).2 =
        .ok { arguments := [{ token := ⟨.int32, false, false⟩, slot := 0xFFFFFFF9 }] } ∧
      (marshal {} (operands.set 0 (.literal (.text "Float")))).2 =
        .ok { arguments := [{ token := ⟨.single, false, false⟩, slot := 0xC0E00000 }] } := by
  intro operands
  have ht : Token.parse (Operand.literal (.text "Int")).text = .ok ⟨.int32, false, false⟩ := rfl
  have ht' : Token.parse (Operand.literal (.text "Float")).text = .ok ⟨.single, false, false⟩ := rfl
  have ha : fillArgument {} 0 ⟨.int32, false, false⟩
      (.literal (.text "-000000000000000000007")) =
        .ok { token := ⟨.int32, false, false⟩, slot := 0xFFFFFFF9 } := by decide +kernel
  have hp : (marshal {} operands).2 =
      .ok { arguments := [{ token := ⟨.int32, false, false⟩, slot := 0xFFFFFFF9 }] } := by
    decide +kernel
  obtain ⟨⟨a', ha', hset⟩, -⟩ := marshal_set_isReal.2 {} operands 0 _ (.literal (.text "Float"))
    _ _ _ _ _ ⟨rfl, rfl⟩ ht rfl rfl ha ht' rfl
  refine ⟨hp, (hset _ hp).trans ?_⟩
  have hvalue : fillArgument {} 0 ⟨.single, false, false⟩
      (.literal (.text "-000000000000000000007")) =
        .ok { token := ⟨.single, false, false⟩, slot := 0xC0E00000 } := by decide +kernel
  obtain rfl := Except.ok.inj (ha'.symm.trans hvalue)
  rfl

end ForeignCall
