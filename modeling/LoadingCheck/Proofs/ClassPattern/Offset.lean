import LoadingCheck.Proofs.ClassPattern.Escapes
import Mathlib.Algebra.Ring.Parity
import Mathlib.Data.List.DropRight
import Mathlib.Data.Nat.Find
import Mathlib.Order.Bounds.Basic

set_option relaxedAutoImplicit false
set_option autoImplicit false

/-!
# Where the first refused group starts

The scan of a pattern carries one bit from byte to byte. What the bit tells about a place is how many
backslashes stand in front of it without a gap: the place is escaped exactly if their number is odd. So the
offset that the scan gives can be told without a scan, and it is always the place of a character.

## Main definitions

* `LoadingCheck.ClassPattern.backslashesAtEnd` — how many backslashes some bytes end with.
* `LoadingCheck.ClassPattern.RefusedAt` — a refused group starts at an offset.

## Main results

* `LoadingCheck.ClassPattern.escapedAfter_eq_true_iff` — the bit of the scan is a parity.
* `LoadingCheck.ClassPattern.unportableFrom_eq_some_iff` — the scan from any place on.
* `LoadingCheck.ClassPattern.unportableGroup?_isLeast` — the offset that a whole pattern is refused for.
-/

namespace LoadingCheck

namespace ClassPattern

/-! ### Runs of backslashes -/

/-- How many backslashes some bytes end with. -/
def backslashesAtEnd (bytes : List UInt8) : ℕ :=
  (bytes.rtakeWhile (· == 0x5C)).length

lemma backslashesAtEnd_concat (bytes : List UInt8) (b : UInt8) :
    backslashesAtEnd (bytes ++ [b]) = if b = 0x5C then backslashesAtEnd bytes + 1 else 0 := by
  by_cases backslash : b = 0x5C
  · rw [if_pos backslash, backslashesAtEnd, List.rtakeWhile_concat_pos _ _ _ (by simp [backslash])]
    simp [backslashesAtEnd]
  · rw [if_neg backslash, backslashesAtEnd, List.rtakeWhile_concat_neg _ _ _ (by simp [backslash])]
    rfl

/-- **The bit of the scan.** The byte behind some bytes is escaped exactly if these end with an odd number of
backslashes.

**Proof sketch.** Induction on the bytes from their end. A backslash changes the bit and the parity, and any
other byte ends the run and clears the bit. -/
theorem escapedAfter_eq_true_iff (bytes : List UInt8) :
    escapedAfter false bytes = true ↔ Odd (backslashesAtEnd bytes) := by
  induction bytes using List.reverseRecOn with
  | nil => simp [escapedAfter, backslashesAtEnd]
  | append_singleton bytes b ih =>
    have last : escapedAfter false (bytes ++ [b]) = (b == 0x5C && !escapedAfter false bytes) := by
      rw [escapedAfter_append]
      rfl
    rw [last, backslashesAtEnd_concat]
    by_cases backslash : b = 0x5C
    · rw [if_pos backslash, Nat.odd_add_one, ← ih]
      simp [backslash]
    · simp [backslash]

/-! ### The first place that the scan stops at -/

/-- The scan of some bytes would stop at an offset, if it came so far. -/
def StopsAt (escaped : Bool) (bytes : List UInt8) (i : ℕ) : Prop :=
  escapedAfter escaped (bytes.take i) = false ∧ opensUnportable (bytes.drop i) = true

lemma not_stopsAt_nil (escaped : Bool) (i : ℕ) : ¬ StopsAt escaped [] i := by
  rintro ⟨_, opens⟩
  rw [List.drop_nil] at opens
  cases opens

lemma stopsAt_zero {escaped : Bool} {bytes : List UInt8} :
    StopsAt escaped bytes 0 ↔ (!escaped && opensUnportable bytes) = true := by
  simp [StopsAt, escapedAfter]

lemma stopsAt_succ {escaped : Bool} {b : UInt8} {rest : List UInt8} {i : ℕ} :
    StopsAt escaped (b :: rest) (i + 1) ↔ StopsAt (b == 0x5C && !escaped) rest i :=
  Iff.rfl

/-- **The scan from any place on** gives the first offset that it would stop at.

**Proof sketch.** Induction on the bytes. Either the scan stops at the first of them, or it goes on behind it
with the bit that the byte leaves. -/
theorem unportableFrom_eq_some_iff {offset k : ℕ} {escaped : Bool} {bytes : List UInt8} :
    unportableFrom offset escaped bytes = some k ↔
      ∃ i, k = offset + i ∧ StopsAt escaped bytes i ∧ ∀ j < i, ¬ StopsAt escaped bytes j := by
  induction bytes generalizing offset escaped with
  | nil => simp [unportableFrom, not_stopsAt_nil]
  | cons b rest ih =>
    rw [unportableFrom]
    by_cases stops : StopsAt escaped (b :: rest) 0
    · rw [if_pos (stopsAt_zero.mp stops), Option.some.injEq]
      constructor
      · rintro rfl
        exact ⟨0, rfl, stops, fun j below => absurd below (Nat.not_lt_zero j)⟩
      · rintro ⟨i, rfl, _, first⟩
        rcases Nat.eq_zero_or_pos i with rfl | pos
        · rfl
        · exact absurd stops (first 0 pos)
    · rw [if_neg (mt stopsAt_zero.mpr stops), ih]
      constructor
      · rintro ⟨i, rfl, here, first⟩
        refine ⟨i + 1, by omega, stopsAt_succ.mpr here, fun j below => ?_⟩
        cases j with
        | zero => exact stops
        | succ j => exact mt stopsAt_succ.mp (first j (by omega))
      · rintro ⟨i, rfl, here, first⟩
        cases i with
        | zero => exact absurd here stops
        | succ i =>
          exact ⟨i, by omega, stopsAt_succ.mp here,
            fun j below => mt stopsAt_succ.mpr (first (j + 1) (by omega))⟩

/-! ### Refused groups of a whole pattern -/

/-- A letter of ASCII or a hyphen. -/
def IsGroupSign (b : UInt8) : Prop :=
  (0x41 ≤ b ∧ b ≤ 0x5A) ∨ (0x61 ≤ b ∧ b ≤ 0x7A) ∨ b = 0x2D

/-- A refused group starts at an offset: a parenthesis and a question mark stand there with a letter or a
hyphen behind them, and the number of backslashes right in front of them is even. -/
structure RefusedAt (bytes : List UInt8) (i : ℕ) : Prop where
  paren : bytes[i]? = some 0x28
  mark : bytes[i + 1]? = some 0x3F
  sign : ∃ b, bytes[i + 2]? = some b ∧ IsGroupSign b
  unescaped : Even (backslashesAtEnd (bytes.take i))

/-- What starts a refused group, in terms of the first three bytes. -/
lemma opensUnportable_iff {bytes : List UInt8} :
    opensUnportable bytes = true ↔
      bytes[0]? = some 0x28 ∧ bytes[1]? = some 0x3F ∧ ∃ b, bytes[2]? = some b ∧ IsGroupSign b := by
  match bytes with
  | [] | [_] | [_, _] => simp [opensUnportable]
  | paren :: mark :: b :: _ => simp [opensUnportable, IsGroupSign, and_assoc, or_assoc]

lemma stopsAt_iff_refusedAt {bytes : List UInt8} {i : ℕ} :
    StopsAt false bytes i ↔ RefusedAt bytes i := by
  rw [StopsAt, opensUnportable_iff, ← Bool.not_eq_true, escapedAfter_eq_true_iff, Nat.not_odd_iff_even]
  simp only [List.getElem?_drop, Nat.add_zero]
  exact ⟨fun ⟨unescaped, paren, mark, sign⟩ => ⟨paren, mark, sign, unescaped⟩,
    fun ⟨paren, mark, sign, unescaped⟩ => ⟨unescaped, paren, mark, sign⟩⟩

lemma unportableGroup?_eq_some_iff {source : String} {i : ℕ} :
    unportableGroup? source = some i ↔ IsLeast {i | RefusedAt (Utf8.encode source.toList) i} i := by
  rw [unportableGroup?, unportableFrom_eq_some_iff]
  simp only [Nat.zero_add, stopsAt_iff_refusedAt, exists_eq_left']
  refine and_congr_right fun _ => ⟨fun first j refused => ?_, fun least j below refused => ?_⟩
  · exact Nat.le_of_not_lt fun below => first j below refused
  · exact Nat.not_lt_of_le (least refused) below

/-- **The offset of the first refused group.** The scan gives the least offset at which a refused group starts,
in bytes, and gives none exactly if there is no such offset. The offset is always the place of a character.

**Proof sketch.** The scan gives the first offset that it would stop at (`unportableFrom_eq_some_iff`), and it
would stop where a refused group starts, because its bit is the parity of a run of backslashes
(`escapedAfter_eq_true_iff`). A parenthesis is a byte below 0x80, and these are characters of their own. -/
theorem unportableGroup?_isLeast (source : String) :
    (∀ i, unportableGroup? source = some i ↔
      IsLeast {i | RefusedAt (Utf8.encode source.toList) i} i) ∧
    (unportableGroup? source = none ↔ ∀ i, ¬ RefusedAt (Utf8.encode source.toList) i) ∧
    (∀ i, unportableGroup? source = some i →
      ∃ front back, source.toList = front ++ back ∧ (Utf8.encode front).length = i) := by
  refine ⟨fun i => unportableGroup?_eq_some_iff, ?_, fun i found => ?_⟩
  · rw [Option.eq_none_iff_forall_ne_some]
    simp only [ne_eq, unportableGroup?_eq_some_iff]
    constructor
    · -- if there were such offsets, the least of them would be found
      intro none i refused
      classical
      have some : ∃ i, RefusedAt (Utf8.encode source.toList) i := ⟨i, refused⟩
      exact none (Nat.find some) ⟨Nat.find_spec some, fun j hj => Nat.find_min' some hj⟩
    · exact fun none i least => none i least.1
  · have refused := (unportableGroup?_eq_some_iff.mp found).1
    exact Utf8.exists_split_of_ascii refused.paren (by decide)

/-- Two backslashes leave the parenthesis behind them as it is, three escape it; what counts are bytes. -/
example : unportableGroup? "é\\\\(?i)\\\\\\(?i)" = some 4 := by decide

end ClassPattern

end LoadingCheck
