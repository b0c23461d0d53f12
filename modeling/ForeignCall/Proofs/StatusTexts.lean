import ForeignCall.Proofs.Spellings
import ForeignCall.Status

/-!
# Statuses that are read back

A script sees the status of a call as a text. The text says everything: which of the statuses it is,
by how many bytes the stack moved, and which signal ended native code. A script needs nothing but
its own reader of integers to get this out again. That reader takes the digits behind an `A` with
their sign, and it takes the code of a fault as it stands, because that is a hexadecimal numeral.

## Why no two texts are the same

The five statuses that carry nothing have texts of their own, none of which starts with an `A` or
with `0x`. In particular the `0` of a success is no code of a fault, since that goes on with an `x`.
Behind the two marks stand the digits of a number, and digits read back.

## Main definitions

* `Status.ofText?` — the status that a text stands for

## Main results

* `Number.Numeral.integer?_codeText` — the code of a fault is read as the number that it is
* `Status.ofText?_text` — the text of a status stands for it
* `Status.text_decodable` — the text of a status tells everything
-/

namespace ForeignCall

open Number (Numeral.integer?)

namespace Number.Numeral

/-! ## Capital digits -/

theorem lower_toUpper_digitChar {d : ℕ} (h : d < 16) :
    Ascii.lower d.digitChar.toUpper = d.digitChar := by
  interval_cases d <;> rfl

/-- Hexadecimal digits are small letters, which their capital forms lead back to. -/
theorem lower_toUpper_of_mem {n : ℕ} {c : Char} (h : c ∈ Nat.toDigits 16 n) :
    Ascii.lower c.toUpper = c := by
  induction n using Nat.strong_induction_on with
  | _ n ih =>
    rw [Nat.toDigits_eq_if (by decide)] at h
    split at h
    · next hn =>
      obtain rfl := List.mem_singleton.mp h
      exact lower_toUpper_digitChar hn
    · rcases List.mem_append.mp h with h | h
      · exact ih _ (by omega) h
      · obtain rfl := List.mem_singleton.mp h
        exact lower_toUpper_digitChar (by omega)

theorem map_lower_map_toUpper (n : ℕ) :
    ((Nat.toDigits 16 n).map Char.toUpper).map Ascii.lower = Nat.toDigits 16 n := by
  rw [List.map_map]
  exact (List.map_congr_left fun c hc => lower_toUpper_of_mem hc).trans (List.map_id _)

theorem toList_codeText (code : UInt32) :
    (codeText code).toList = '0' :: 'x' :: (Nat.toDigits 16 code.toNat).map Char.toUpper := by
  simp [codeText]

/-- **The code of a fault is read as the number that it is.** -/
theorem integer?_codeText (code : UInt32) : integer? (codeText code) = some (code.toNat : ℤ) := by
  have hlt : code.toNat < 2 ^ 64 := lt_trans code.toNat_lt (by decide)
  exact integer?_hexadecimal hlt (.inl rfl) (map_lower_map_toUpper _)
    (toList_codeText code ▸ Blank.Padded.self _)

end Number.Numeral

namespace Status

/-! ## Reading a status -/

/-- The statuses that carry nothing. -/
def plain : List Status :=
  [.success, .invalidInvocation, .invalidDescriptor, .libraryLoadFailure, .symbolResolutionFailure]

/-- The status that a text stands for. -/
def ofText? (t : String) : Option Status :=
  match t.toList with
  | 'A' :: cs =>
    (Numeral.integer? (String.ofList cs)).map fun i => .stackImbalance (Int32.ofInt i)
  | '0' :: 'x' :: _ => (Numeral.integer? t).map fun i => .calleeFault (UInt32.ofNat i.toNat)
  | _ => plain.find? fun s => s.text == t

theorem ofText?_stackImbalance (delta : Int32) :
    ofText? (text (.stackImbalance delta)) = some (.stackImbalance delta) := by
  have hlow := delta.le_toInt
  have hhigh := delta.toInt_lt
  have hlist : (text (.stackImbalance delta)).toList =
      'A' :: (Value.intText delta.toInt).toList := by
    simp [text]
  have hread : Numeral.integer? (Value.intText delta.toInt) = some delta.toInt :=
    integer?_intText (by omega) (.self _)
  rw [ofText?, hlist]
  simp only [String.ofList_toList, hread, Option.map_some, Int32.ofInt_toInt]

theorem ofText?_calleeFault (code : UInt32) :
    ofText? (text (.calleeFault code)) = some (.calleeFault code) := by
  rw [text, ofText?, Number.Numeral.toList_codeText]
  simp only [Number.Numeral.integer?_codeText, Option.map_some, Int.toNat_natCast,
    UInt32.ofNat_toNat]

/-- **The text of a status stands for it.** -/
theorem ofText?_text (s : Status) : ofText? s.text = some s := by
  cases s with
  | success => rfl
  | invalidInvocation => rfl
  | invalidDescriptor => rfl
  | libraryLoadFailure => rfl
  | symbolResolutionFailure => rfl
  | stackImbalance delta => exact ofText?_stackImbalance delta
  | calleeFault code => exact ofText?_calleeFault code

theorem text_injective : Function.Injective text := fun s s' h =>
  Option.some.inj ((ofText?_text s).symm.trans ((congrArg ofText? h).trans (ofText?_text s')))

/-- **The text of a status tells everything.** Two statuses with the same text are the same,
whatever number of bytes or code they carry, and `0` is the text of success alone. A script that has
nothing but the text can read the status out of it: the refusals, an imbalance with its number of
bytes, and a fault with its code. -/
theorem text_decodable :
    (∀ s s' : Status, s.text = s'.text → s = s') ∧ (∀ s : Status, s.text = "0" ↔ s = .success) ∧
      ∀ s : Status, ofText? s.text = some s := by
  refine ⟨fun s s' h => text_injective h, fun s => ?_, ofText?_text⟩
  exact ⟨fun h => text_injective h, fun h => h ▸ rfl⟩

/-- A fault with the code zero is told from a success, and an imbalance is read with its sign. -/
example : text (.calleeFault 0) = "0x0" ∧ ofText? "0x0" = some (.calleeFault 0) ∧
    ofText? "0" = some .success ∧ ofText? "A-8" = some (.stackImbalance (-8)) := by
  decide +kernel

end Status

end ForeignCall
