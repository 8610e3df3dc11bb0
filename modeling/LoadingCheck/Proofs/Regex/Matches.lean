import LoadingCheck.Proofs.Regex.Places

set_option relaxedAutoImplicit false
set_option autoImplicit false

/-!
# What an expression matches

An expression matches parts of a text, each of which goes from one place to another. Which parts these are is
said here without sets of places, by recursion on the expression, and the search in a text finds out exactly
whether there is one.

## Main definitions

* `LoadingCheck.Regex.Look.Holds` — a condition holds at a place.
* `LoadingCheck.Regex.Expr.Matches` — an expression matches the part of a text between two places.

## Main results

* `LoadingCheck.Regex.Expr.carries` — a sweep takes places to where matches from them end.
* `LoadingCheck.Regex.Expr.isMatch_iff` — the search finds a match if there is one.
-/

namespace LoadingCheck.Regex

/-! ### Conditions -/

/-- Whether the character behind a place satisfies `p`. -/
def isBefore (p : Char → Bool) (text : List Char) (i : ℕ) : Bool :=
  text[i]?.any p

/-- Whether the character in front of a place satisfies `p`. -/
def isAfter (p : Char → Bool) (text : List Char) : ℕ → Bool
  | 0 => false
  | i + 1 => text[i]?.any p

/-- Whether a place stands in front of a word character. -/
def beforeWord (text : List Char) (i : ℕ) : Bool :=
  isBefore Unicode.Property.wordCharacter.contains text i

/-- Whether a place stands behind a word character. -/
def afterWord (text : List Char) (i : ℕ) : Bool :=
  isAfter Unicode.Property.wordCharacter.contains text i

/-- A condition holds at a place of a text. -/
def Look.Holds (text : List Char) : Look → ℕ → Prop
  | .start, i => i = 0
  | .stop, i => i = text.length
  | .word, i => afterWord text i ≠ beforeWord text i
  | .notWord, i => afterWord text i = beforeWord text i
  | .wordStart, i => afterWord text i = false ∧ beforeWord text i = true
  | .wordEnd, i => afterWord text i = true ∧ beforeWord text i = false
  | .wordStartHalf, i => afterWord text i = false
  | .wordEndHalf, i => beforeWord text i = false

variable {text : List Char} {i : ℕ}

lemma testBit_placesBefore (p : Char → Bool) : (placesBefore p text).testBit i = isBefore p text i := by
  induction text generalizing i with
  | nil => simp [placesBefore, isBefore]
  | cons c rest ih =>
    rw [placesBefore, isBefore]
    cases i with
    | zero => cases h : p c <;> simp [h]
    | succ i =>
      have half : ((if p c then 1 else 0) + 2 * placesBefore p rest) / 2 = placesBefore p rest := by
        split <;> omega
      rw [Nat.testBit_succ, half, ih]
      rfl

lemma testBit_two_mul_placesBefore (p : Char → Bool) :
    (2 * placesBefore p text).testBit i = isAfter p text i := by
  cases i with
  | zero => simp [isAfter]
  | succ i =>
    rw [Nat.testBit_succ, Nat.mul_div_cancel_left _ (by decide), testBit_placesBefore]
    rfl

lemma testBit_allPlaces : (allPlaces text).testBit i = decide (i ≤ text.length) := by
  have power : allPlaces text = 2 ^ (text.length + 1) - 1 := rfl
  rw [power, Nat.testBit_two_pow_sub_one, decide_eq_decide, Nat.lt_succ_iff]

/-- The places that are worked out for a condition are those where it holds. -/
lemma Look.testBit_places (l : Look) (h : i ≤ text.length) :
    (l.places text).testBit i = true ↔ l.Holds text i := by
  cases l with
  | start => rw [places, Holds, Nat.testBit_one_eq_true_iff_self_eq_zero]
  | stop =>
    have power : Look.places text .stop = 2 ^ text.length := rfl
    rw [power, Holds, Nat.testBit_two_pow, decide_eq_true_eq, eq_comm]
  | _ =>
    simp only [places, Holds, beforeWord, afterWord, Nat.testBit_xor, Nat.testBit_and,
      testBit_placesBefore, testBit_two_mul_placesBefore, testBit_allPlaces, h, decide_true]
    cases isAfter Unicode.Property.wordCharacter.contains text i <;>
      cases isBefore Unicode.Property.wordCharacter.contains text i <;> decide

/-! ### Expressions -/

mutual

/-- An expression matches the part of a text from one place to another. A repetition is at least `least` matches
one behind the other, and at most `most` unless that is less. -/
def Expr.Matches (text : List Char) : Expr → (start stop : ℕ) → Prop
  | .empty, i, j => i = j
  | .chars set, i, j => isBefore set.contains text i = true ∧ j = i + 1
  | .look l, i, j => l.Holds text i ∧ i = j
  | .repetition least most inner, i, j =>
    ∃ times, least ≤ times ∧ (∀ m ∈ most, times ≤ max least m) ∧ Steps (inner.Matches text) times i j
  | .capture inner, i, j => inner.Matches text i j
  | .concat parts, i, j => Expr.MatchRow text parts i j
  | .alternation choices, i, j => Expr.MatchOne text choices i j

/-- Expressions match the part of a text one behind the other. -/
def Expr.MatchRow (text : List Char) : List Expr → (start stop : ℕ) → Prop
  | [], i, j => i = j
  | e :: rest, i, j => ∃ k, e.Matches text i k ∧ Expr.MatchRow text rest k j

/-- One of several expressions matches the part of a text. -/
def Expr.MatchOne (text : List Char) : List Expr → (start stop : ℕ) → Prop
  | [], _, _ => False
  | e :: rest, i, j => e.Matches text i j ∨ Expr.MatchOne text rest i j

end

/-- The places behind a character of a text. -/
lemma carries_chars (text : List Char) (set : CharSet) :
    Carries text.length (fun s => (s &&& placesBefore set.contains text) <<< 1)
      (Expr.Matches text (.chars set)) := by
  have here : Carries text.length (fun s => s &&& placesBefore set.contains text)
      fun i j => isBefore set.contains text i = true ∧ i = j :=
    carries_and fun i _ => by rw [testBit_placesBefore]
  refine carries_shift here ?_
  simp [isBefore]

/-- A repetition goes so many steps, and then as many more as it may. -/
lemma carries_repetition {n : ℕ} {f : ℕ → ℕ} {r : ℕ → ℕ → Prop} (h : Carries n f r) (least : ℕ)
    (most : Option ℕ) :
    Carries n
      (fun s =>
        match most with
        | some most => reachable f (most - least) (iterate f least s)
        | none => reachable f (n + 1) (iterate f least s))
      fun i j => ∃ times, least ≤ times ∧ (∀ m ∈ most, times ≤ max least m) ∧ Steps r times i j := by
  cases most with
  | some most =>
    refine ((carries_iterate h least).comp (carries_reachable h (most - least))).congr fun i j _ => ?_
    constructor
    · rintro ⟨k, first, more, le, second⟩
      refine ⟨least + more, Nat.le_add_right _ _, ?_, steps_add.mpr ⟨k, first, second⟩⟩
      rintro _ ⟨⟩
      omega
    · rintro ⟨times, le, bound, steps⟩
      obtain ⟨more, rfl⟩ := Nat.exists_eq_add_of_le le
      obtain ⟨k, first, second⟩ := steps_add.mp steps
      have := bound most rfl
      exact ⟨k, first, more, by omega, second⟩
  | none =>
    refine ((carries_iterate h least).comp (carries_closure h)).congr fun i j _ => ?_
    constructor
    · rintro ⟨k, first, more, second⟩
      exact ⟨least + more, Nat.le_add_right _ _, nofun, steps_add.mpr ⟨k, first, second⟩⟩
    · rintro ⟨times, le, _, steps⟩
      obtain ⟨more, rfl⟩ := Nat.exists_eq_add_of_le le
      obtain ⟨k, first, second⟩ := steps_add.mp steps
      exact ⟨k, first, more, second⟩

mutual

/-- **One expression.** The sweep of an expression takes each set of places to those where matches end that start
from one of them. -/
theorem Expr.carries (text : List Char) :
    (e : Expr) → Carries text.length ((e.sweep text).run (text.length + 1)) (e.Matches text)
  | .empty => carries_id text.length
  | .chars set => carries_chars text set
  | .look l => carries_and fun _ => l.testBit_places
  | .repetition least most inner => carries_repetition (Expr.carries text inner) least most
  | .capture inner => Expr.carries text inner
  | .concat parts => Expr.carries_row text parts
  | .alternation choices => Expr.carries_choice text choices

/-- Expressions one behind the other. -/
theorem Expr.carries_row (text : List Char) : (parts : List Expr) →
    Carries text.length (Sweep.runRow (text.length + 1) (Expr.sweeps text parts)) (Expr.MatchRow text parts)
  | [] => carries_id text.length
  | e :: rest => (Expr.carries text e).comp (Expr.carries_row text rest)

/-- Expressions of which one is to match. -/
theorem Expr.carries_choice (text : List Char) : (choices : List Expr) →
    Carries text.length (Sweep.runChoice (text.length + 1) (Expr.sweeps text choices))
      (Expr.MatchOne text choices)
  | [] => carries_zero text.length
  | e :: rest => (Expr.carries text e).union (Expr.carries_choice text rest)

end

/-- **The search in a text.** The search for an expression succeeds exactly if it matches some part of the text.

**Proof sketch.** The sweep starts from all places, so it ends at some place exactly if there is a match from
some place (`Expr.carries`). -/
theorem Expr.isMatch_iff (e : Expr) (text : List Char) :
    e.isMatch text = true ↔ ∃ i j, i ≤ text.length ∧ e.Matches text i j := by
  have all : Within text.length (allPlaces text) := by
    intro i hi
    rwa [testBit_allPlaces, decide_eq_true_eq] at hi
  have ends (s : ℕ) : s ≠ 0 ↔ ∃ j, s.testBit j = true := by
    refine ⟨Nat.exists_testBit_of_ne_zero, ?_⟩
    rintro ⟨j, hj⟩ rfl
    simp at hj
  rw [Expr.isMatch, bne_iff_ne, ends]
  simp only [(e.carries text).mem_iff all, testBit_allPlaces, decide_eq_true_eq]
  exact exists_comm

end LoadingCheck.Regex
