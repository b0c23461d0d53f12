import ForeignCall.Proofs.DeclaredOrder

/-!
# Room for the arguments

Before a word is written a stack frame sets aside two words for each argument and one for a hidden
return address. No value takes more than two words and an address takes one, so that is enough:
from the first word to the last one the frame keeps the storage that it began with.

## Every point on the way

A value of two words is pushed in two steps, and the frame between them counts as well. So the
arguments of a call are laid out as one list of words in the order in which they are pushed, and
the statements are about each beginning of that list. What one word does to the storage is
`StackFrame.capacity_pushWord`; the rest is counting.

## Main definitions

* `StackFrame.pushWords`, `StackFrame.pushAll` — words one by one, and arguments with what may
  follow them
* `pushedWords` — the words of arguments in the order in which they are pushed

## Main results

* `StackFrame.capacity_pushWords` — as long as the words fit no more is set aside
* `StackFrame.pushAll_eq_pushWords` — arguments are pushed word by word
* `StackFrame.reservation_suffices` — the storage of a frame is never outgrown
-/

namespace ForeignCall

/-! ## Words -/

namespace StackFrame

/-- Pushes words one after the other. -/
def pushWords (f : StackFrame) (ws : List UInt32) : StackFrame :=
  ws.foldl pushWord f

theorem length_layout_pushWords (f : StackFrame) (ws : List UInt32) :
    (f.pushWords ws).layout.length = f.layout.length + ws.length := by
  induction ws generalizing f with
  | nil => rfl
  | cons w ws ih =>
    rw [pushWords, List.foldl_cons, ← pushWords, ih, layout_pushWord, List.length_cons,
      List.length_cons]
    omega

/-- **As long as the words fit, no more is set aside.** -/
theorem capacity_pushWords {f : StackFrame} {ws : List UInt32}
    (h : f.layout.length + ws.length ≤ f.capacity) : (f.pushWords ws).capacity = f.capacity := by
  induction ws generalizing f with
  | nil => rfl
  | cons w ws ih =>
    rw [List.length_cons] at h
    have hstep : (f.pushWord w).capacity = f.capacity := capacity_pushWord (by omega) w
    rw [pushWords, List.foldl_cons, ← pushWords, ih, hstep]
    rw [hstep, layout_pushWord, List.length_cons]
    omega

end StackFrame

/-! ## Arguments as words -/

/-- The words of arguments that are pushed one after the other, and of a hidden return address
behind them. Of two words the high one comes first. -/
def pushedWords (qs : List Push) (hidden : Option UInt64) : List UInt32 :=
  (qs.flatMap fun q => q.words.reverse) ++ hidden.toList.map lowWord

/-- An address takes one word, and a value as many as its kind. -/
theorem Push.length_words (q : Push) : q.words.length = match q with
    | .address _ _ => 1
    | .value a => a.token.kind.stackWords := by
  cases q with
  | address place a => rfl
  | value a =>
    simp only [Push.words]
    cases a.token.kind <;> rfl

theorem Push.length_words_le (q : Push) : q.words.length ≤ 2 := by
  rw [length_words]
  cases q with
  | address place a => exact Nat.le_succ 1
  | value a => exact a.token.kind.stackWords_le

/-- Two words for each argument are enough, and they are all needed exactly if each argument takes
two. -/
theorem length_flatMap_words (qs : List Push) :
    (qs.flatMap fun q => q.words.reverse).length ≤ 2 * qs.length ∧
      ((qs.flatMap fun q => q.words.reverse).length = 2 * qs.length ↔
        ∀ q ∈ qs, q.words.length = 2) := by
  induction qs with
  | nil => exact ⟨Nat.le_refl 0, by simp⟩
  | cons q qs ih =>
    obtain ⟨hle, hiff⟩ := ih
    have hq := q.length_words_le
    rw [List.flatMap_cons, List.length_append, List.length_reverse, List.length_cons,
      List.forall_mem_cons, ← hiff]
    exact ⟨by omega, by omega⟩

theorem length_pushedWords (qs : List Push) (hidden : Option UInt64) :
    (pushedWords qs hidden).length =
      (qs.flatMap fun q => q.words.reverse).length + hidden.toList.length := by
  rw [pushedWords, List.length_append, List.length_map]

theorem length_pushedWords_le (qs : List Push) (hidden : Option UInt64) :
    (pushedWords qs hidden).length ≤ 2 * qs.length + 1 := by
  have hwords := (length_flatMap_words qs).1
  rw [length_pushedWords]
  cases hidden with
  | none => exact Nat.le_succ_of_le hwords
  | some address => exact Nat.succ_le_succ hwords

/-- All the words are needed for arguments of two words and a hidden return address alone. -/
theorem length_pushedWords_eq_iff {qs : List Push} {hidden : Option UInt64} :
    (pushedWords qs hidden).length = 2 * qs.length + 1 ↔
      hidden.isSome = true ∧ ∀ q ∈ qs, q.words.length = 2 := by
  obtain ⟨hle, hiff⟩ := length_flatMap_words qs
  rw [length_pushedWords, ← hiff]
  cases hidden with
  | none =>
    rw [Option.toList_none, List.length_nil]
    exact ⟨fun h => by omega, fun h => Bool.noConfusion h.1⟩
  | some address =>
    rw [Option.toList_some, List.length_singleton]
    exact ⟨fun h => ⟨rfl, by omega⟩, fun h => congrArg (· + 1) h.2⟩

/-- The arguments pushed so far have pushed the words so far. -/
theorem pushedWords_take_prefix (qs : List Push) (hidden : Option UInt64) (k : ℕ) :
    pushedWords (qs.take k) none <+: pushedWords qs hidden := by
  refine ⟨pushedWords (qs.drop k) hidden, ?_⟩
  simp only [pushedWords, Option.toList_none, List.map_nil, List.append_nil, ← List.append_assoc,
    ← List.flatMap_append, List.take_append_drop]

namespace StackFrame

/-- Pushes arguments one after the other, and behind them a hidden return address, if there is
one. -/
def pushAll (f : StackFrame) (qs : List Push) (hidden : Option UInt64) : StackFrame :=
  let f := qs.foldl (fun f q => q.onto f) f
  hidden.elim f f.pushAddress

theorem onto_eq_pushWords (f : StackFrame) (q : Push) : q.onto f = f.pushWords q.words.reverse := by
  rw [pushWords, List.foldl_reverse]
  cases q with
  | value a => rw [← slotWords_eq_words]; rfl
  | address place a => rw [Push.words, ← toUInt32_eq_lowWord]; rfl

/-- **Arguments are pushed word by word.** -/
theorem pushAll_eq_pushWords (f : StackFrame) (qs : List Push) (hidden : Option UInt64) :
    f.pushAll qs hidden = f.pushWords (pushedWords qs hidden) := by
  have harguments : qs.foldl (fun f q => q.onto f) f =
      (qs.flatMap fun q => q.words.reverse).foldl pushWord f := by
    rw [List.foldl_flatMap]
    simp only [onto_eq_pushWords, pushWords]
  rw [pushAll, pushedWords, pushWords, List.foldl_append, ← harguments]
  cases hidden with
  | none => rfl
  | some address => rw [Option.elim_some, pushAddress, toUInt32_eq_lowWord]; rfl

/-! ## The storage of a frame -/

/-- A beginning of the words of a call fits into the frame that was made for it. -/
theorem capacity_of_isPrefix {qs : List Push} {hidden : Option UInt64} {ws : List UInt32}
    (h : ws <+: pushedWords qs hidden) :
    ws.length ≤ 2 * qs.length + 1 ∧
      ((withCapacity qs.length).pushWords ws).capacity = 2 * qs.length + 1 := by
  have hfit : ws.length ≤ 2 * qs.length + 1 :=
    Nat.le_trans h.length_le (length_pushedWords_le qs hidden)
  have hcapacity : (withCapacity qs.length).capacity = 2 * qs.length + 1 := by
    rw [withCapacity, Nat.mul_comm]
  refine ⟨hfit, ?_⟩
  rw [capacity_pushWords, hcapacity]
  rw [hcapacity]
  simpa [withCapacity] using hfit

/-- **The storage of a frame is never outgrown.** Take any number of arguments of any kinds, by
value or by address, with or without a hidden return address behind them, and a frame that was made
for that number. They are pushed word by word, and after each argument a beginning of the words has
been pushed. At every such point, also between the two words of a value, the frame holds `2 * n + 1`
words at most, its storage is the one that it began with, and the words lie inside of it. It is
filled completely exactly by `n` values of two words with a hidden address behind them. -/
theorem reservation_suffices (qs : List Push) (hidden : Option UInt64) :
    let start := withCapacity qs.length
    let words := pushedWords qs hidden
    start.pushAll qs hidden = start.pushWords words ∧
      (∀ k, start.pushAll (qs.take k) none = start.pushWords (pushedWords (qs.take k) none) ∧
        pushedWords (qs.take k) none <+: words) ∧
      (∀ ws, ws <+: words →
        (start.pushWords ws).layout.length = ws.length ∧ ws.length ≤ 2 * qs.length + 1 ∧
          (start.pushWords ws).reservedBytes = 4 * (2 * qs.length + 1) ∧
          (start.pushWords ws).argumentBytes ≤ (start.pushWords ws).reservedBytes) ∧
      ((start.pushAll qs hidden).argumentBytes = (start.pushAll qs hidden).reservedBytes ↔
        hidden.isSome = true ∧ ∀ q ∈ qs, q.words.length = 2) := by
  intro start words
  have hlength : ∀ ws, (start.pushWords ws).layout.length = ws.length := fun ws => by
    rw [length_layout_pushWords]
    exact Nat.zero_add _
  refine ⟨pushAll_eq_pushWords start qs hidden,
    fun k => ⟨pushAll_eq_pushWords start _ none, pushedWords_take_prefix qs hidden k⟩,
    fun ws hws => ?_, ?_⟩
  · obtain ⟨hfit, hcapacity⟩ := capacity_of_isPrefix hws
    refine ⟨hlength ws, hfit, by rw [reservedBytes, hcapacity], ?_⟩
    rw [argumentBytes, reservedBytes, hlength, hcapacity]
    omega
  · obtain ⟨-, hcapacity⟩ := capacity_of_isPrefix (List.prefix_refl words)
    rw [pushAll_eq_pushWords, argumentBytes, reservedBytes, hlength, hcapacity,
      ← length_pushedWords_eq_iff]
    omega

/-- A double and a hidden return address fill the three words that are set aside for one
argument. -/
example :
    let f := (withCapacity 1).pushAll [.value ⟨⟨.double, false, false⟩, 0x3ff8000000000000, none⟩]
      (some 0x1000)
    f.layout = [0x1000, 0, 0x3ff80000] ∧ f.argumentBytes = 12 ∧ f.reservedBytes = 12 := by
  decide +kernel

end StackFrame

end ForeignCall
