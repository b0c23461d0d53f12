import ForeignCall.Proofs.Addresses

/-!
# Command lines read back

A command line can be written from what it asks for, and it reads back. Its options stand in front,
in any order; an option that is given twice counts the second time. A word `--` may close them, and
has to where the first operand looks like an option itself. One word for each operand follows, and
from the first of them on nothing is an option any more.

A word is split at the first `=` and, in front of that, at the first `:`. So these two are kept out
of the names of variables, while the first contents of a variable may hold both, and a `$` as well.

## Main definitions

* `Word.render`, `Word.Writable` — the word for an operand, and the operands that have one
* `Switch`, `Switch.args` — an option, and its arguments on a command line
* `CommandLine.GivenBy` — what the options of a command line come to

## Main results

* `Word.parse_word` — the word for an operand reads back
* `CommandLine.parseFrom_args`, `CommandLine.parseFrom_flatMap_args` — one option, and any number
* `CommandLine.parse_render` — a command line reads back
-/

namespace ForeignCall

open Number (digits ofDigits_digits isDigit_of_mem_digits digits_ne_nil)

/-! ## Words -/

namespace Word

variable {c : Char} {cs ds : List Char} {word : String}

/-- A list is split in front of a character that does not occur earlier. -/
theorem splitFirst?_append (h : c ∉ cs) (ds : List Char) :
    splitFirst? c (cs ++ c :: ds) = some (cs, ds) := by
  have hall : ∀ d ∈ cs, decide (d ≠ c) = true := fun d hd =>
    decide_eq_true fun he => h (he ▸ hd)
  rw [splitFirst?, List.dropWhile_append_of_pos hall, List.takeWhile_append_of_pos hall,
    List.dropWhile_cons_of_neg (by simp), List.takeWhile_cons_of_neg (by simp), List.append_nil]

theorem splitFirst?_of_notMem (h : c ∉ cs) : splitFirst? c cs = none := by
  have hall : ∀ d ∈ cs, decide (d ≠ c) = true := fun d hd =>
    decide_eq_true fun he => h (he ▸ hd)
  rw [splitFirst?, List.dropWhile_eq_nil_iff.mpr hall]

/-- A number of bytes reads back. -/
theorem bytes?_digits {n : ℕ} (h : n < 2 ^ 64) : bytes? (digits n) = some n := by
  have hplus : Number.Numeral.dropPlus (digits n) = digits n := by
    unfold Number.Numeral.dropPlus
    split
    · next hcs =>
      have hmem : '+' ∈ digits n := hcs ▸ List.mem_cons_self ..
      exact absurd (isDigit_of_mem_digits hmem) (by decide)
    · rfl
  have hall : (digits n).all Char.isDigit = true :=
    List.all_eq_true.mpr fun _ => isDigit_of_mem_digits
  rw [bytes?, hplus, if_pos ⟨digits_ne_nil n, hall⟩, Number.Numeral.decimal?, ofDigits_digits,
    Number.Numeral.word?, if_pos (by omega)]

/-- The characters between the name of a variable and its first contents. -/
def sizeChars : Option ℕ → List Char
  | none => ['=']
  | some bytes => ':' :: digits bytes ++ ['=']

/-- The word for an operand: a literal as it is, and a variable as `$name=init` or
`$name:bytes=init`. -/
def render : Word → String
  | .literal text => text
  | .variable name capacity init =>
    String.ofList ('$' :: name.toList ++ sizeChars capacity ++ init.toList)

/-- An operand that can be written as a word. A literal must not look like a variable, the name of a
variable has to end where it seems to, and the size of its buffer is a number of 64 bits. -/
def Writable : Word → Prop
  | .literal text => text.toList.head? ≠ some '$'
  | .variable name capacity _ =>
    name ≠ "" ∧ '=' ∉ name.toList ∧ ':' ∉ name.toList ∧ ∀ bytes ∈ capacity, bytes < 2 ^ 64

instance : DecidablePred Writable
  | .literal _ => inferInstanceAs (Decidable (_ ≠ _))
  | .variable .. => inferInstanceAs (Decidable (_ ≠ _ ∧ _ ∉ _ ∧ _ ∉ _ ∧ ∀ _ ∈ _, _ < _))

/-- What stands in front of the first contents of a variable is its name and its size. -/
theorem parseVariable_render {name init : String} {capacity : Option ℕ}
    (h : (Word.variable name capacity init).Writable) (word : String) :
    parseVariable word (name.toList ++ sizeChars capacity ++ init.toList) =
      .ok (.variable name capacity init) := by
  obtain ⟨hname, hequals, hcolon, hbytes⟩ := h
  have hne : name.toList ≠ [] := fun hnil => hname (String.toList_inj.mp hnil)
  cases capacity with
  | none =>
    rw [sizeChars, List.append_assoc, List.singleton_append, parseVariable,
      splitFirst?_append hequals]
    simp only [Option.getD_some, splitFirst?_of_notMem hcolon, if_neg hne, String.ofList_toList]
  | some bytes =>
    have hdigits : '=' ∉ digits bytes := fun hmem =>
      absurd (isDigit_of_mem_digits hmem) (by decide)
    have hhead : '=' ∉ name.toList ++ ':' :: digits bytes := by
      simp [hequals, hdigits]
    rw [show name.toList ++ sizeChars (some bytes) ++ init.toList =
        (name.toList ++ ':' :: digits bytes) ++ '=' :: init.toList by simp [sizeChars],
      parseVariable, splitFirst?_append hhead]
    simp only [Option.getD_some, splitFirst?_append hcolon, bytes?_digits (hbytes bytes rfl),
      if_neg hne, String.ofList_toList]

/-- **The word for an operand reads back.** -/
theorem parse_word {w : Word} (h : w.Writable) : parse w.render = .ok w := by
  match w, h with
  | .literal text, h => exact parse_literal h
  | .variable name capacity init, h =>
    have hchars : (Word.variable name capacity init).render.toList =
        '$' :: (name.toList ++ sizeChars capacity ++ init.toList) := by
      rw [render, String.toList_ofList, List.cons_append, List.cons_append]
    rw [parse, hchars]
    exact parseVariable_render h _

/-- So does a row of them. -/
theorem mapM_parse {words : List Word} (h : ∀ w ∈ words, w.Writable) :
    (words.map render).mapM parse = .ok words := by
  induction words with
  | nil => rfl
  | cons w words ih =>
    obtain ⟨hw, hwords⟩ := List.forall_mem_cons.mp h
    rw [List.map_cons, List.mapM_cons, parse_word hw, ih hwords]
    rfl

end Word

/-! ## Options -/

/-- An option of the command line. -/
inductive Switch where
  | json
  | logJson
  | config (path : String)
  | logLevel (level : String)
  deriving DecidableEq, Repr

namespace Switch

/-- The arguments that an option consists of. -/
def args : Switch → List String
  | .json => ["--json"]
  | .logJson => ["--log-json"]
  | .config path => ["--config", path]
  | .logLevel level => ["--log-level", level]

/-- The path that an option gives. -/
def path? : Switch → Option String
  | .config path => some path
  | _ => none

/-- The log level that an option gives. -/
def level? : Switch → Option String
  | .logLevel level => some level
  | _ => none

/-- What holds of all log levels that options give. -/
theorem forall_level_cons_iff (p : String → Prop) (s : Switch) (options : List Switch) :
    (∀ level ∈ (s :: options).filterMap level?, p level) ↔
      (∀ level ∈ s.level?, p level) ∧ ∀ level ∈ options.filterMap level?, p level := by
  cases hs : s.level? with
  | none => simp [hs]
  | some level => simp [hs]

/-- A command line with an option taken into account. -/
def apply (c : CommandLine) : Switch → CommandLine
  | .json => { c with json := true }
  | .logJson => { c with logJson := true }
  | .config path => { c with configPath := some path }
  | .logLevel level => { c with logLevel := some level }

end Switch

namespace CommandLine

/-- What the options of a command line come to: a flag is set if it was given at all, of several
paths and of several log levels the last one counts, and all log levels are known. -/
structure GivenBy (c : CommandLine) (options : List Switch) : Prop where
  json : c.json = true ↔ .json ∈ options
  logJson : c.logJson = true ↔ .logJson ∈ options
  configPath : c.configPath = (options.filterMap Switch.path?).getLast?
  logLevel : c.logLevel = (options.filterMap Switch.level?).getLast?
  known : ∀ level ∈ options.filterMap Switch.level?, (Level.parse? level).isSome = true

variable {c : CommandLine} {options : List Switch}

/-- **One option.** -/
theorem parseFrom_args {s : Switch}
    (h : ∀ level ∈ s.level?, (Level.parse? level).isSome = true) (c : CommandLine)
    (rest : List String) : parseFrom c (s.args ++ rest) = parseFrom (s.apply c) rest := by
  cases s with
  | json | logJson | config path =>
    simp only [Switch.args, List.cons_append, List.nil_append]
    conv_lhs => unfold parseFrom
    simp [Switch.apply]
  | logLevel level =>
    have hknown : (Level.parse? level).isNone = false := by
      simpa [Option.isSome_iff_ne_none] using h level rfl
    simp only [Switch.args, List.cons_append, List.nil_append]
    conv_lhs => unfold parseFrom
    simp [Switch.apply, hknown]

/-- **Any number of options**, by induction on them. -/
theorem parseFrom_flatMap_args
    (h : ∀ level ∈ options.filterMap Switch.level?, (Level.parse? level).isSome = true)
    (c : CommandLine) (rest : List String) :
    parseFrom c (options.flatMap Switch.args ++ rest) =
      parseFrom (options.foldl Switch.apply c) rest := by
  induction options generalizing c with
  | nil => rfl
  | cons s options ih =>
    obtain ⟨hs, hoptions⟩ := (Switch.forall_level_cons_iff _ s options).mp h
    rw [List.flatMap_cons, List.append_assoc, parseFrom_args hs, ih hoptions, List.foldl_cons]

/-- Without options nothing is set. -/
theorem givenBy_nil : ({} : CommandLine).GivenBy [] :=
  ⟨by simp, by simp, rfl, rfl, by simp⟩

/-- What one more option adds. -/
theorem GivenBy.apply {s : Switch} (h : c.GivenBy options)
    (hs : ∀ level ∈ s.level?, (Level.parse? level).isSome = true) :
    (s.apply c).GivenBy (options ++ [s]) := by
  have hknown : ∀ level ∈ (options ++ [s]).filterMap Switch.level?,
      (Level.parse? level).isSome = true := by
    rw [List.filterMap_append, List.forall_mem_append]
    exact ⟨h.known, (Switch.forall_level_cons_iff _ s []).mpr ⟨hs, by simp⟩⟩
  cases s <;> refine ⟨?_, ?_, ?_, ?_, hknown⟩ <;>
    simp [Switch.apply, Switch.path?, Switch.level?, h.json, h.logJson, h.configPath, h.logLevel]

/-- **What any number of options come to**, one after the other. -/
theorem givenBy_foldl
    (h : ∀ level ∈ options.filterMap Switch.level?, (Level.parse? level).isSome = true) :
    (options.foldl Switch.apply {}).GivenBy options := by
  induction options using List.reverseRecOn with
  | nil => exact givenBy_nil
  | append_singleton options s ih =>
    rw [List.filterMap_append, List.forall_mem_append] at h
    rw [List.foldl_append]
    exact (ih h.1).apply ((Switch.forall_level_cons_iff _ s []).mp h.2).1

/-- Options settle all of a command line but its words and the request for help. -/
theorem GivenBy.unique {c' : CommandLine} (h : c.GivenBy options) (h' : c'.GivenBy options)
    (hhelp : c.help = c'.help) (hwords : c.words = c'.words) : c = c' := by
  have hjson : c.json = c'.json := Bool.eq_iff_iff.mpr (h.json.trans h'.json.symm)
  have hlogJson : c.logJson = c'.logJson := Bool.eq_iff_iff.mpr (h.logJson.trans h'.logJson.symm)
  have hpath := h.configPath.trans h'.configPath.symm
  have hlevel := h.logLevel.trans h'.logLevel.symm
  cases c
  cases c'
  simp_all

/-- The flags of a command line. -/
def flags (c : CommandLine) : List Switch :=
  (if c.json then [.json] else []) ++ if c.logJson then [.logJson] else []

/-- The options with an argument, each once at most. -/
def settings (c : CommandLine) : List Switch :=
  (c.configPath.map Switch.config).toList ++ (c.logLevel.map Switch.logLevel).toList

/-- Flags have no argument. -/
theorem filterMap_flags {f : Switch → Option String} (hjson : f .json = none)
    (hlogJson : f .logJson = none) (c : CommandLine) : c.flags.filterMap f = [] := by
  rw [flags]
  split <;> split <;> simp [hjson, hlogJson]

theorem paths_flags_settings (c : CommandLine) :
    (c.flags ++ c.settings).filterMap Switch.path? = c.configPath.toList := by
  rw [List.filterMap_append, filterMap_flags rfl rfl, List.nil_append, settings]
  cases c.configPath <;> cases c.logLevel <;> rfl

theorem levels_flags_settings (c : CommandLine) :
    (c.flags ++ c.settings).filterMap Switch.level? = c.logLevel.toList := by
  rw [List.filterMap_append, filterMap_flags rfl rfl, List.nil_append, settings]
  cases c.configPath <;> cases c.logLevel <;> rfl

/-- Every command line is given by some options. -/
theorem givenBy_flags_settings (h : ∀ level ∈ c.logLevel, (Level.parse? level).isSome = true) :
    c.GivenBy (c.flags ++ c.settings) where
  json := by simp [flags, settings]
  logJson := by simp [flags, settings]
  configPath := by
    rw [paths_flags_settings]
    cases c.configPath <;> rfl
  logLevel := by
    rw [levels_flags_settings]
    cases c.logLevel <;> rfl
  known := by
    rw [levels_flags_settings]
    exact fun level hl => h level (Option.mem_toList.mp hl)

/-! ## Whole command lines -/

theorem help_foldl (options : List Switch) (c : CommandLine) :
    (options.foldl Switch.apply c).help = c.help := by
  induction options generalizing c with
  | nil => rfl
  | cons s options ih =>
    rw [List.foldl_cons, ih]
    cases s <;> rfl

/-- Words are taken over as they are. -/
theorem withWords_render {words : List Word} (hne : words ≠ [])
    (h : ∀ w ∈ words, w.Writable) (c : CommandLine) :
    c.withWords (words.map Word.render) = .ok { c with words } := by
  rw [withWords, Word.mapM_parse h]
  cases words with
  | nil => exact absurd rfl hne
  | cons w words => rfl

/-- A closing word ends the options. -/
theorem parseFrom_cons_closing (c : CommandLine) (args : List String) :
    parseFrom c ("--" :: args) = c.withWords args := by
  conv_lhs => unfold parseFrom
  simp

/-- Two dashes in front make an option. -/
theorem isOption_eq_false {s : String} (h : ¬ ['-', '-'] <+: s.toList) : isOption s = false := by
  rw [isOption]
  split
  · next rest hs => exact absurd ⟨rest, hs.symm⟩ h
  · rfl

/-- **A command line reads back.** Take what a command line asks for, other than help: some
operands, each of which can be written as a word, and a known log level, if any. Give it by options
in any order, some of them more than once, close these with `--`, and add one word for each operand.
Then this is what is read. The `--` can be left out where the first word does not look like an
option. And there are such options. -/
theorem parse_render (hhelp : c.help = false) (hwords : c.words ≠ [])
    (hlevel : ∀ level ∈ c.logLevel, (Level.parse? level).isSome = true)
    (hwritable : ∀ w ∈ c.words, w.Writable) :
    (∃ options, c.GivenBy options) ∧ ∀ options, c.GivenBy options →
      parse (options.flatMap Switch.args ++ "--" :: c.words.map Word.render) = .ok c ∧
        ∀ first, (c.words.map Word.render).head? = some first → ¬ ['-', '-'] <+: first.toList →
          first ≠ "-h" →
          parse (options.flatMap Switch.args ++ c.words.map Word.render) = .ok c := by
  refine ⟨⟨_, givenBy_flags_settings hlevel⟩, fun options hoptions => ?_⟩
  have hread : (options.foldl Switch.apply {}).withWords (c.words.map Word.render) = .ok c := by
    have hfold := givenBy_foldl hoptions.known
    rw [withWords_render hwords hwritable]
    refine congrArg Except.ok (Eq.symm (hoptions.unique ?_ ?_ ?_))
    · exact ⟨hfold.json, hfold.logJson, hfold.configPath, hfold.logLevel, hfold.known⟩
    · exact hhelp.trans (help_foldl options {}).symm
    · rfl
  refine ⟨?_, fun first hfirst hdashes hh => ?_⟩
  · rw [parse, parseFrom_flatMap_args hoptions.known, parseFrom_cons_closing, hread]
  · obtain ⟨rest, hrest⟩ := List.head?_eq_some_iff.mp hfirst
    rw [hrest] at hread ⊢
    rw [parse, parseFrom_flatMap_args hoptions.known,
      parseFrom_cons_of_not_isOption (isOption_eq_false hdashes) hh, hread]

/-- A command line whose words and paths look like options, and whose variable starts with what
words are split at. -/
def tricky : CommandLine where
  configPath := some "--"
  json := true
  logLevel := some " Trace"
  words :=
    [.literal "f", .literal "--json", .literal "-h", .literal "--", .literal "-5",
      .variable "buf" (some 64) "a=b:$c", .variable "n" none ""]

/-- It is read from a line on which two of the options are given twice. -/
theorem parse_render_tricky :
    parse (["--log-level", "warn", "--json", "--config", "--", "--log-level", " Trace", "--json"] ++
      ["f", "--json", "-h", "--", "-5", "$buf:64=a=b:$c", "$n="]) = .ok tricky := by
  have hoptions : tricky.GivenBy
      [.logLevel "warn", .json, .config "--", .logLevel " Trace", .json] :=
    ⟨by decide, by decide, rfl, rfl, by decide⟩
  exact ((parse_render rfl (by decide) (by decide) (by decide)).2 _ hoptions).2 "f" rfl (by decide)
    (by decide)

end CommandLine

end ForeignCall
