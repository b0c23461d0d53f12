import ForeignCall.Proofs.Encoding
import ForeignCall.Proofs.Numerals
import ForeignCall.Proofs.Outputs

/-!
# Texts that native code left alone

A variable that is passed as a text is written into a buffer, and after the call the buffer is read
again, whether native code wrote there or not. That the variable is what it was rests on the round
trip: the text that is read is compared with the text of the variable, and nothing is assigned when
they are the same. So an integer stays an integer, and no capacity grows.

The buffer ends at its first NUL. A text that holds a NUL itself does not come back whole, and is
assigned what came back. Numbers are written without a NUL, so this happens to texts only.

## Main results

* `Value.nul_mem_toText_iff` — only a text can hold a NUL
* `finish_untouched_text` — what becomes of a variable whose argument native code left alone
-/

namespace ForeignCall

/-! ## Numbers are written without a NUL -/

namespace Number

theorem nul_notMem_digits (n : ℕ) : '\x00' ∉ digits n := fun h =>
  absurd (isDigit_of_mem_digits h) (by decide)

theorem nul_notMem_zeros (n : ℕ) : '\x00' ∉ zeros n := fun h =>
  absurd (List.eq_of_mem_replicate h) (by decide)

theorem nul_notMem_take_digits (k n : ℕ) : '\x00' ∉ (digits n).take k := fun h =>
  nul_notMem_digits n (List.mem_of_mem_take h)

theorem nul_notMem_drop_digits (k n : ℕ) : '\x00' ∉ (digits n).drop k := fun h =>
  nul_notMem_digits n (List.mem_of_mem_drop h)

theorem nul_notMem_positional (coefficient : ℕ) (exponent : ℤ) (marked : Bool) :
    '\x00' ∉ positional coefficient exponent marked := by
  simp only [positional]
  split
  · cases marked <;> simp [nul_notMem_digits, nul_notMem_zeros]
  · split
    · simp [nul_notMem_take_digits, nul_notMem_drop_digits]
    · simp [nul_notMem_digits, nul_notMem_zeros]

theorem nul_notMem_scientific {mark : List Char} (hmark : '\x00' ∉ mark) (coefficient : ℕ)
    (exponent : ℤ) : '\x00' ∉ scientific coefficient exponent mark := by
  simp only [scientific, List.mem_append, not_or]
  refine ⟨⟨nul_notMem_take_digits _ _, ?_⟩, ?_⟩
  · split
    · simp
    · exact fun h => (List.mem_cons.mp h).elim (by decide) (nul_notMem_drop_digits _ _)
  · split <;> simp [hmark, nul_notMem_digits]

/-- A layout writes no NUL, unless there is one in the mark of its exponents. -/
theorem Layout.nul_notMem_write {l : Layout} (hmark : '\x00' ∉ l.exponentMark) (x : Double) :
    '\x00' ∉ l.write x := by
  have hsign : '\x00' ∉ if x.isNegative then ['-'] else [] := by split <;> simp
  rw [Layout.write]
  split
  · simp [hsign, nul_notMem_positional]
  · simp only [List.mem_append, not_or]
    refine ⟨hsign, ?_⟩
    split
    · exact nul_notMem_positional _ _ _
    · exact nul_notMem_scientific hmark _ _

end Number

namespace Value

theorem nul_notMem_intText (i : ℤ) : '\x00' ∉ (intText i).toList := by
  rw [intText, String.toList_ofList, List.mem_append, not_or]
  refine ⟨?_, Number.nul_notMem_digits _⟩
  split <;> simp

theorem nul_notMem_realText (x : Number.Double) : '\x00' ∉ (realText x).toList := by
  rw [realText]
  split
  · decide
  · split
    · rw [String.toList_ofList]
      exact Number.Layout.nul_notMem_write (by decide) x
    · split <;> decide

/-- **Only a text can hold a NUL.** -/
theorem nul_mem_toText_iff {v : Value} :
    '\x00' ∈ v.toText.toList ↔ ∃ s, v = .text s ∧ '\x00' ∈ s.toList := by
  cases v with
  | text s => simp
  | int i => simp [toText, nul_notMem_intText]
  | real x => simp [toText, nul_notMem_realText]

end Value

/-! ## The round trip through a buffer -/

variable {site : Site} {params : List Operand} {p p' : Plan} {m : Memory} {r : Invocation} {i : ℕ}
  {a : Argument} {x : Variable}

theorem Variable.hold_toText (x : Variable) : x.hold x.value.toText = x := if_pos rfl

/-- The output of a text argument that was left alone is its text in front of the first NUL. -/
theorem writeOutput_of_marshal (hp : (marshal site params).2 = .ok p)
    (ha : p.arguments[i]? = some a) (hk : a.token.kind = .text)
    (hx : params[2 * i + 1]? = some (.variable x)) (m : Memory) :
    writeOutput m a (.variable x) =
      .variable (x.hold (String.ofList (x.value.toText.toList.takeWhile (· ≠ '\x00')))) := by
  obtain ⟨t, o, -, ho, -, hfill⟩ := getElem?_arguments_of_marshal hp ha
  obtain rfl : Operand.variable x = o := Option.some.inj (hx.symm.trans ho)
  obtain ⟨-, htext, -⟩ := fillArgument_eq_ok hfill
  obtain ⟨b, hb, hmade⟩ := htext hk
  have hbuffer : a.buffer = some b := congrArg Argument.buffer hmade
  have hslot : a.slot = b.start := congrArg Argument.slot hmade
  obtain rfl : Buffer.ofText (site.buffer i) x.value.toText x.capacity = b := Option.some.inj hb
  rw [writeOutput_of_text hk, textOutput?_eq hbuffer, if_pos hslot, Buffer.readText_ofText,
    Option.map_some, Option.getD_some]

/-- **What becomes of a variable whose argument native code left alone.** It is what it was, its
value and its capacity, whatever else was passed and whatever happened to that. Only a text that
holds a NUL is cut off there, when the outputs are written back. -/
theorem finish_untouched_text (hp : (marshal site params).2 = .ok p)
    (ha : p.arguments[i]? = some a) (hk : a.token.kind = .text)
    (hx : params[2 * i + 1]? = some (.variable x)) (ha' : p'.arguments[i]? = some a) :
    ((∀ s, x.value = .text s → '\x00' ∉ s.toList) →
      (finish m r p' params).2.2[2 * i + 1]? = some (.variable x)) ∧
    ∀ s, x.value = .text s → '\x00' ∈ s.toList → r.hasFaulted = false →
      (finish m r p' params).2.2[2 * i + 1]? =
        some (.variable (x.assign (.text (String.ofList (s.toList.takeWhile (· ≠ '\x00')))))) := by
  constructor
  · intro hnul
    have hnul' : '\x00' ∉ x.value.toText.toList := fun h => by
      obtain ⟨s, hs, hmem⟩ := Value.nul_mem_toText_iff.mp h
      exact hnul s hs hmem
    cases hr : r.hasFaulted with
    | true => rw [finish_operands, if_pos hr, hx]
    | false =>
      rw [getElem?_finish_variable hr ha' hx, writeOutput_of_marshal hp ha hk hx,
        Buffer.takeWhile_of_notMem hnul', String.ofList_toList, Variable.hold_toText]
  · intro s hs hnul hr
    have hcut : x.value.toText ≠ String.ofList (s.toList.takeWhile (· ≠ '\x00')) := by
      intro h
      rw [hs, Value.toText_text] at h
      rw [h, String.toList_ofList] at hnul
      simpa using List.mem_takeWhile_imp hnul
    rw [getElem?_finish_variable hr ha' hx, writeOutput_of_marshal hp ha hk hx, hs,
      Value.toText_text, Variable.hold, if_neg hcut]

/-- A variable that holds an integer is passed as a text, and native code only looks at it. -/
theorem finish_untouched_text_int :
    let params : List Operand := [.literal (.text "Str"), .variable ⟨"n", .int 5, 2⟩]
    let a : Argument := ⟨⟨.text, false, false⟩, 0x100100001000, some ⟨0x100100001000, [0x35, 0]⟩⟩
    (marshal {} params).2 = .ok { arguments := [a] } ∧
      (finish [] {} { arguments := [a] } params).2.2[1]? = some (.variable ⟨"n", .int 5, 2⟩) := by
  intro params a
  have hp : (marshal {} params).2 = .ok { arguments := [a] } := by decide +kernel
  exact ⟨hp, (finish_untouched_text (i := 0) hp rfl rfl rfl rfl).1 (by simp)⟩

/-- **A text that holds a NUL does not come back whole.** -/
theorem not_forall_untouched :
    ¬ ∀ (site : Site) (params : List Operand) (p p' : Plan) (m : Memory) (r : Invocation) (i : ℕ)
        (a : Argument) (x : Variable),
      (marshal site params).2 = .ok p → p.arguments[i]? = some a → a.token.kind = .text →
      params[2 * i + 1]? = some (.variable x) → p'.arguments[i]? = some a →
      r.hasFaulted = false →
      (finish m r p' params).2.2[2 * i + 1]? = some (.variable x) := by
  intro h
  let params : List Operand := [.literal (.text "Str"), .variable ⟨"s", .text "a\x00b", 4⟩]
  let a : Argument :=
    ⟨⟨.text, false, false⟩, 0x100100001000, some ⟨0x100100001000, [0x61, 0, 0x62, 0]⟩⟩
  have hp : (marshal {} params).2 = .ok { arguments := [a] } := by decide +kernel
  have hkept := h {} params _ { arguments := [a] } [] {} 0 a _ hp rfl rfl rfl rfl rfl
  exact absurd hkept (by decide +kernel)

end ForeignCall
