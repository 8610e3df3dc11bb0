import LoadingCheck.Proofs.CommandLine.Words
import LoadingCheck.Proofs.Number.Decimal
import Mathlib.Data.List.Pairwise
import Mathlib.Data.List.Perm.Basic

set_option relaxedAutoImplicit false
set_option autoImplicit false

/-!
# What a command line gives

A command line gives values for some options, each in one word with an equals sign, and some of the flags. In
whatever order the words stand, they are accepted, and the check that they ask for has exactly these values. A
path is any bytes, text or not. All else is as in a check that nothing is given for, although the command keeps
its usual values apart from those of a check.

## Main definitions

* `LoadingCheck.CommandLine.ValueOption.Value` — the values that an option can have.
* `LoadingCheck.CommandLine.Choice` — what one word gives.
* `LoadingCheck.CommandLine.Given` — what a command line gives: `Given.words`, `Given.config`.

## Main results

* `LoadingCheck.CommandLine.State.takes_choice` — how the word of a choice is taken.
* `LoadingCheck.CommandLine.State.addWords_choices` — the words of several choices.
* `LoadingCheck.CommandLine.parse_of_perm` — a command line in any order.
-/

namespace LoadingCheck.CommandLine

/-! ### Values of options -/

namespace ValueOption

/-- The values that an option can have: any text as a url, any path but the empty one, a browser, and a number up
to a limit in writing. -/
@[reducible]
def Value : ValueOption → Type
  | .url => String
  | .screenshot | .modules => { p : Path // p.bytes ≠ [] }
  | .browser => Browser
  | .viewportWidth | .viewportHeight => Decimal.Numeral maxViewport
  | .delay | .settle => Decimal.Numeral Decimal.maxWord

/-- A value as it is written. -/
def written : (o : ValueOption) → o.Value → List UInt8
  | .url, s => wordOf s
  | .screenshot, p | .modules, p => p.val.bytes
  | .browser, b => wordOf b.name
  | .viewportWidth, n | .viewportHeight, n | .delay, n | .settle, n => Utf8.encode n.text

/-- The arguments with a value for an option; without a value they stay as they are. -/
def give : (o : ValueOption) → Option o.Value → Arguments → Arguments
  | .url, s, a => { a with url := s.getD a.url }
  | .screenshot, p, a => { a with screenshot := (p.map (·.val)).getD a.screenshot }
  | .browser, b, a => { a with browser := b.getD a.browser }
  | .viewportWidth, n, a => { a with viewportWidth := (n.map (·.value)).getD a.viewportWidth }
  | .viewportHeight, n, a => { a with viewportHeight := (n.map (·.value)).getD a.viewportHeight }
  | .delay, n, a => { a with delay := (n.map (·.value)).getD a.delay }
  | .settle, n, a => { a with settle := (n.map (·.value)).getD a.settle }
  | .modules, p, a => { a with modules := (p.map (·.val)).getD a.modules }

lemma give_none (o : ValueOption) (a : Arguments) : o.give none a = a := by
  cases o <;> rfl

end ValueOption

lemma readViewport_text (n : Decimal.Numeral maxViewport) :
    readViewport (String.ofList n.text) = .ok n.value := by
  rw [readViewport, String.toList_ofList, Decimal.readSigned_text n (by decide)]
  exact if_pos ⟨Int.natCast_nonneg _, Int.ofNat_le.mpr n.value_le⟩

lemma readMillis_text (n : Decimal.Numeral Decimal.maxWord) :
    readMillis (String.ofList n.text) = .ok n.value := by
  rw [readMillis, String.toList_ofList, Decimal.readWord_text]

lemma decode?_wordOf (s : String) : Utf8.decode? (wordOf s) = some s.toList :=
  Utf8.decode?_encode s.toList

/-- An option takes each of its values from the writing of it. -/
lemma ValueOption.put_written (o : ValueOption) (v : o.Value) (a : Arguments) :
    o.put (o.written v) a = .ok (o.give (some v) a) := by
  cases o with
  | url =>
    simp only [put, written, decode?_wordOf, String.ofList_toList]
    rfl
  | screenshot | modules =>
    obtain ⟨p, nonempty⟩ := v
    rw [written, put]
    simp only [if_neg nonempty]
    rfl
  | browser => cases v <;> rfl
  | viewportWidth | viewportHeight =>
    simp only [put, written, Utf8.decode?_encode, bind, Except.bind, readViewport_text v]
    rfl
  | delay | settle =>
    simp only [put, written, Utf8.decode?_encode, bind, Except.bind, readMillis_text v]
    rfl

/-- Different options have nothing to do with each other. -/
lemma ValueOption.give_comm {o o' : ValueOption} (differ : o ≠ o') (v : Option o.Value)
    (v' : Option o'.Value) (a : Arguments) : o'.give v' (o.give v a) = o.give v (o'.give v' a) := by
  cases o <;> cases o' <;> first | rfl | exact absurd rfl differ

/-- Options have nothing to do with flags. -/
lemma ValueOption.raise_give (o : ValueOption) (v : Option o.Value) (f : Flag) (a : Arguments) :
    (o.give v a).raise f = o.give v (a.raise f) := by
  cases o <;> cases f <;> rfl

lemma Arguments.raise_comm (f g : Flag) (a : Arguments) : (a.raise f).raise g = (a.raise g).raise f := by
  cases f <;> cases g <;> rfl

/-! ### Choices -/

/-- What one word gives: a value for an option, or a flag. -/
inductive Choice where
  | option (o : ValueOption) (v : o.Value)
  | flag (f : Flag)

namespace Choice

/-- The word of a choice. -/
def word : Choice → List UInt8
  | .option o v => wordOf ("--" ++ o.name ++ "=") ++ o.written v
  | .flag f => wordOf f.display

/-- The option or flag that is chosen. -/
def chosen : Choice → ValueOption ⊕ Flag
  | .option o _ => .inl o
  | .flag f => .inr f

/-- The arguments with a choice. -/
def apply : Choice → Arguments → Arguments
  | .option o v, a => o.give (some v) a
  | .flag f, a => a.raise f

/-- Choices are of different things. -/
def Apart (c d : Choice) : Prop :=
  c.chosen ≠ d.chosen

instance : Std.Symm Apart :=
  ⟨fun _ _ differ => differ.symm⟩

/-- Choices of different things can be made in any order. -/
lemma apply_comm {c d : Choice} (differ : c.Apart d) (a : Arguments) :
    d.apply (c.apply a) = c.apply (d.apply a) := by
  cases c with
  | option o v =>
    cases d with
    | option o' v' => exact ValueOption.give_comm (fun same => differ (congrArg Sum.inl same)) _ _ a
    | flag f => exact ValueOption.raise_give o _ f a
  | flag f =>
    cases d with
    | option o v => exact (ValueOption.raise_give o _ f a).symm
    | flag g => exact Arguments.raise_comm f g a

end Choice

/-- A name and a value in one word, with an equals sign between them. -/
lemma Word.ofBytes_attached {name : List UInt8} (nonempty : name ≠ []) (noEquals : equals ∉ name)
    (value : List UInt8) :
    Word.ofBytes (hyphen :: hyphen :: (name ++ equals :: value)) = .long name (some value) := by
  have plain : ∀ b ∈ name, decide (b ≠ equals) = true := by
    intro b mem
    exact decide_eq_true fun same => noEquals (same ▸ mem)
  have front : (name ++ equals :: value).takeWhile (· ≠ equals) = name := by
    rw [List.takeWhile_append_of_pos plain, List.takeWhile_cons_of_neg (by simp), List.append_nil]
  have back : (name ++ equals :: value).dropWhile (· ≠ equals) = equals :: value := by
    rw [List.dropWhile_append_of_pos plain, List.dropWhile_cons_of_neg (by simp)]
  have more : name ++ equals :: value ≠ [] := List.append_ne_nil_of_left_ne_nil nonempty _
  rw [Word.ofBytes, if_neg (not_not.mpr rfl), if_neg (not_not.mpr rfl), if_neg more, splitLong, back, front]

lemma ValueOption.ofBytes_word (o : ValueOption) (v : o.Value) :
    Word.ofBytes (Choice.option o v).word = .long (wordOf o.name) (some (o.written v)) := by
  have form : (Choice.option o v).word = hyphen :: hyphen :: (wordOf o.name ++ equals :: o.written v) := by
    have sign : wordOf "=" = [equals] := by decide
    rw [Choice.word, wordOf_append, wordOf_append, wordOf_hyphens, sign, List.append_assoc, List.append_assoc]
    rfl
  rw [form]
  exact Word.ofBytes_attached (by cases o <;> decide) (by cases o <;> decide) _

lemma flagOf?_display (f : Flag) : flagOf? (wordOf f.display) = some f := by
  cases f <;> decide

/-! ### Taking the words of choices -/

namespace State

variable {s : State}

/-- A choice is new to what is known, and does not end the command. -/
def Allows (s : State) : Choice → Prop
  | .option o _ => o ∉ s.options
  | .flag f => f ∉ s.flags ∧ f ≠ .help ∧ f ≠ .version

/-- What is known after a choice. -/
def choose (s : State) : Choice → State
  | .option o v => { s with arguments := o.give (some v) s.arguments, options := o :: s.options }
  | .flag f => { s with arguments := s.arguments.raise f, flags := f :: s.flags }

lemma arguments_choose (s : State) (c : Choice) : (s.choose c).arguments = c.apply s.arguments := by
  cases c <;> rfl

lemma waiting_choose (s : State) (c : Choice) : (s.choose c).waiting = s.waiting := by
  cases c <;> rfl

/-- After a choice, other choices are as new as before. -/
lemma Allows.choose {c d : Choice} (h : s.Allows d) (differ : c.Apart d) :
    (s.choose c).Allows d := by
  cases c with
  | option o v =>
    cases d with
    | option o' v' =>
      exact List.not_mem_cons_of_ne_of_not_mem (fun same => differ (congrArg Sum.inl same.symm)) h
    | flag f => exact h
  | flag f =>
    cases d with
    | option o v => exact h
    | flag g =>
      exact ⟨List.not_mem_cons_of_ne_of_not_mem (fun same => differ (congrArg Sum.inr same.symm)) h.1, h.2⟩

/-- **One choice.** The word of a choice that is new is taken as that choice. -/
lemma takes_choice {c : Choice} (nothing : s.waiting = none) (new : s.Allows c) :
    s.Takes c.word (s.choose c) := by
  cases c with
  | option o v =>
    refine .option (o.ofBytes_word v) (settle_of_waiting nothing) ?_
    exact addOption_eq_ok.mpr ⟨new, _, o.put_written v s.arguments, rfl⟩
  | flag f =>
    refine .flag (flagOf?_display f) ?_
    exact addFlag_eq_ok.mpr ⟨s, settle_of_waiting nothing, new.2.1, new.2.2, new.1, rfl⟩

/-- **Several choices.** The words of choices of different things are accepted, and the choices are made one
after the other.

**Proof sketch.** Induction on the choices. The first word is taken as its choice, and the other choices are
then as new as before. -/
theorem addWords_choices {cs : List Choice} (nothing : s.waiting = none) (new : ∀ c ∈ cs, s.Allows c)
    (differ : cs.Pairwise Choice.Apart) :
    ∃ r, s.addWords (cs.map Choice.word) = .ok r ∧
      r.arguments = cs.foldl (fun a c => c.apply a) s.arguments := by
  induction cs generalizing s with
  | nil => exact ⟨s, settle_of_waiting nothing, rfl⟩
  | cons c rest ih =>
    obtain ⟨first, others⟩ := List.pairwise_cons.mp differ
    have later : ∀ d ∈ rest, (s.choose c).Allows d := fun d mem =>
      (new d (List.mem_cons_of_mem c mem)).choose (first d mem)
    obtain ⟨r, accepted, arguments⟩ := ih ((waiting_choose s c).trans nothing) later others
    refine ⟨r, ?_, ?_⟩
    · rw [List.map_cons, (takes_choice nothing (new c List.mem_cons_self)).addWords_eq, accepted]
    · rw [arguments, arguments_choose, List.foldl_cons]

end State

/-! ### Whole command lines -/

/-- What a command line gives: values for some of the options, and some of the flags. -/
structure Given where
  value : (o : ValueOption) → Option o.Value
  headed : Bool
  strict : Bool
  verbose : Bool

namespace Given

/-- Whether a flag is given. -/
def has (g : Given) : Flag → Bool
  | .headed => g.headed
  | .strict => g.strict
  | .verbose => g.verbose
  | .help | .version => false

/-- The flags that are given. -/
def flags (g : Given) : List Flag :=
  Flag.all.filter g.has

/-- What is given, option by option and flag by flag. -/
def choices (g : Given) : List Choice :=
  (ValueOption.all.filterMap fun o => (g.value o).map (Choice.option o)) ++ g.flags.map Choice.flag

/-- The words of a command line that gives all this, in one of their orders. -/
def words (g : Given) : List (List UInt8) :=
  g.choices.map Choice.word

/-- The check that is asked for: what is given, and all else as in a check that nothing is given for. -/
def config (g : Given) : Config :=
  let usual : Config := {}
  { settings :=
      { usual.settings with
        browser := (g.value .browser).getD usual.settings.browser
        headless := !g.headed
        viewportWidth :=
          ((g.value .viewportWidth).map Decimal.Numeral.value).getD usual.settings.viewportWidth
        viewportHeight :=
          ((g.value .viewportHeight).map Decimal.Numeral.value).getD usual.settings.viewportHeight
        modules := ((g.value .modules).map (·.val)).getD usual.settings.modules }
    options :=
      { usual.options with
        url := (g.value .url).getD usual.options.url
        bridge :=
          { usual.options.bridge with
            delay := ((g.value .delay).map (Duration.ofMillis ·.value)).getD usual.options.bridge.delay }
        settle := ((g.value .settle).map (Duration.ofMillis ·.value)).getD usual.options.settle
        screenshot := ((g.value .screenshot).map (·.val)).getD usual.options.screenshot } }

/-- The choices are of different things. -/
lemma pairwise_choices (g : Given) : g.choices.Pairwise Choice.Apart := by
  have options : ValueOption.all.Pairwise (· ≠ ·) := by decide
  have flags : Flag.all.Pairwise (· ≠ ·) := by decide
  rw [choices, List.pairwise_append]
  refine ⟨options.filterMap _ ?_, ?_, ?_⟩
  · intro o o' differ c hc d hd
    obtain ⟨v, _, rfl⟩ := Option.map_eq_some_iff.mp hc
    obtain ⟨v', _, rfl⟩ := Option.map_eq_some_iff.mp hd
    exact fun same => differ (Sum.inl.inj same)
  · rw [List.pairwise_map]
    exact (flags.filter _).imp fun differ same => differ (Sum.inr.inj same)
  · intro c hc d hd
    obtain ⟨o, _, value⟩ := List.mem_filterMap.mp hc
    obtain ⟨v, _, rfl⟩ := Option.map_eq_some_iff.mp value
    obtain ⟨f, _, rfl⟩ := List.mem_map.mp hd
    exact Sum.inl_ne_inr

/-- At the start of a command line all choices are new. -/
lemma allows_choices (g : Given) : ∀ c ∈ g.choices, State.Allows {} c := by
  intro c mem
  cases c with
  | option o v => exact List.not_mem_nil
  | flag f =>
    have given : f ∈ Flag.all ∧ g.has f = true := by simpa [choices, flags] using mem
    refine ⟨List.not_mem_nil, ?_, ?_⟩ <;> rintro rfl <;> cases given.2

/-- The arguments with the values that are given for options. -/
def withValues (g : Given) (a : Arguments) : Arguments :=
  ValueOption.all.foldl (fun a o => o.give (g.value o) a) a

lemma foldl_values (g : Given) (os : List ValueOption) (a : Arguments) :
    (os.filterMap fun o => (g.value o).map (Choice.option o)).foldl (fun a c => c.apply a) a =
      os.foldl (fun a o => o.give (g.value o) a) a := by
  induction os generalizing a with
  | nil => rfl
  | cons o rest ih =>
    rw [List.foldl_cons, ← ih]
    cases given : g.value o with
    | none => rw [List.filterMap_cons_none (by rw [given]; rfl), o.give_none]
    | some v =>
      rw [List.filterMap_cons_some (by rw [given]; rfl), List.foldl_cons]
      rfl

/-- The choices, made one after the other: first the options and then the flags. -/
lemma foldl_choices (g : Given) :
    g.choices.foldl (fun a c => c.apply a) {} =
      (g.withValues {}).withFlags g.headed g.strict g.verbose := by
  rw [choices, List.foldl_append, foldl_values, List.foldl_map, flags]
  change (Flag.all.filter g.has).foldl Arguments.raise (g.withValues {}) = _
  obtain ⟨value, headed, strict, verbose⟩ := g
  cases headed <;> cases strict <;> cases verbose <;> rfl

/-- The command keeps its usual values apart from those of a check, but they are the same. -/
lemma config_withValues (g : Given) :
    ((g.withValues {}).withFlags g.headed g.strict g.verbose).config = g.config := by
  have millis (n : Option (Decimal.Numeral Decimal.maxWord)) (usual : ℕ) :
      Duration.ofMillis ((n.map (·.value)).getD usual) =
        (n.map (Duration.ofMillis ·.value)).getD (.ofMillis usual) := by
    cases n <;> rfl
  have delay := millis (g.value .delay) 2000
  have settle := millis (g.value .settle) 500
  simp only [withValues, ValueOption.all, List.foldl_cons, List.foldl_nil, ValueOption.give,
    Arguments.withFlags, Arguments.config, delay, settle]
  rfl

end Given

/-- **Command lines in any order.** The words for what is given are accepted in every order. The check that they
ask for has exactly the values that are given, with the delay and the wait in milliseconds and without a window
unless `--headed` is given, and all else as in a check that nothing is given for.

**Proof sketch.** Words in another order are the words of the same choices in another order. They are taken as
these choices, one after the other (`LoadingCheck.CommandLine.State.addWords_choices`), and the order in which
different things are chosen does not matter (`LoadingCheck.CommandLine.Choice.apply_comm`). -/
theorem parse_of_perm {g : Given} {words : List (List UInt8)} (order : words.Perm g.words) :
    ∃ a, parse words = .run a ∧ a.config = g.config ∧ a.strict = g.strict ∧ a.verbose = g.verbose := by
  -- the words are those of the same choices in another order
  have written : List.Forall₂ (fun w c => w = Choice.word c) g.words g.choices :=
    List.forall₂_map_left_iff.mpr (List.forall₂_refl g.choices)
  obtain ⟨cs, same, perm⟩ := List.perm_comp_forall₂ order written
  obtain rfl : words = cs.map Choice.word := by
    rw [← List.forall₂_eq_eq_eq]
    exact List.forall₂_map_right_iff.mpr same
  have differ : cs.Pairwise Choice.Apart :=
    (perm.pairwise_iff fun h => h.symm).mpr g.pairwise_choices
  have commute : ∀ c ∈ cs, ∀ d ∈ cs, ∀ a, d.apply (c.apply a) = c.apply (d.apply a) := by
    intro c hc d hd a
    by_cases equal : c = d
    · rw [equal]
    · exact Choice.apply_comm (differ.forall hc hd equal) a
  obtain ⟨r, accepted, arguments⟩ := State.addWords_choices (s := {}) rfl
    (fun c mem => g.allows_choices c (perm.mem_iff.mp mem)) differ
  rw [perm.foldl_eq' commute, g.foldl_choices] at arguments
  refine ⟨r.arguments, ?_, ?_, ?_, ?_⟩
  · rw [parse, accepted]
  · rw [arguments, g.config_withValues]
  · rw [arguments]
    rfl
  · rw [arguments]
    rfl

/-- A path that is no text and looks like an option. -/
def strayShot : Path :=
  ⟨wordOf "--strict=" ++ [0xFF]⟩

/-- Values that look like options, have an equals sign in them, are no text, or are at the limits of their numbers,
with zeros and a plus in front. -/
def lookalikes : Given where
  value
    | .url => some "--url=a=b"
    | .screenshot => some ⟨strayShot, by decide⟩
    | .viewportWidth =>
      some ⟨true, "004294967295".toList, by decide, List.all_eq_true.mp (by decide), by decide⟩
    | .delay => some (.ofNat 18446744073709551615 (by decide))
    | _ => none
  headed := true
  strict := false
  verbose := true

/-- A command line that gives these, not in the usual order. -/
def lookalikeWords : List (List UInt8) :=
  [wordOf "--verbose", wordOf "--ipc-delay-ms=18446744073709551615", wordOf "--screenshot=--strict=" ++ [0xFF],
    wordOf "--headed", wordOf "--viewport-width=+004294967295", wordOf "--url=--url=a=b"]

/-- It is accepted, and asks for a check with these values and no others. -/
theorem parse_lookalikes :
    lookalikeWords.Perm lookalikes.words ∧
      ∃ a, parse lookalikeWords = .run a ∧
        a.config =
          { settings := { headless := false, viewportWidth := 4294967295 },
            options :=
              { url := "--url=a=b", bridge := .withDelay (.ofMillis 18446744073709551615),
                screenshot := strayShot } } ∧
        a.strict = false ∧ a.verbose = true := by
  have order : lookalikeWords.Perm lookalikes.words := by decide +kernel
  obtain ⟨a, accepted, config, strict, verbose⟩ := parse_of_perm order
  refine ⟨order, a, accepted, config.trans ?_, strict, verbose⟩
  decide +kernel

end LoadingCheck.CommandLine
