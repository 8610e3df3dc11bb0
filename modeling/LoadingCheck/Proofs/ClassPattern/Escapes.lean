import LoadingCheck.ClassPattern
import LoadingCheck.Proofs.Text.Utf8

set_option relaxedAutoImplicit false
set_option autoImplicit false

/-!
# Escapes in the scan of a pattern

The scan for refused groups knows one thing about the bytes in front of it: whether the last of them is a
backslash that escapes the next one. So it can be taken up anywhere in a pattern, and wherever it stands
without an escape it refuses a group that starts there.

## Main definitions

* `LoadingCheck.ClassPattern.escapedAfter` — whether the byte behind some bytes is escaped.
* `LoadingCheck.ClassPattern.Leaves` — a text is what is left of another one, and its first character is
  not escaped there.

## Main results

* `LoadingCheck.ClassPattern.unportableFrom_append` — the scan taken up behind some bytes.
* `LoadingCheck.ClassPattern.leaves_of_suffix`, `LoadingCheck.ClassPattern.leaves_escape` — what stands
  behind a character that is no backslash, or behind an escape, is not escaped.
* `LoadingCheck.ClassPattern.not_opens_of_leaves` — no refused group starts where nothing is escaped.
-/

namespace LoadingCheck.ClassPattern

/-! ### The scan of bytes -/

/-- Whether the byte behind some bytes is escaped; `escaped` tells whether the first of them is. -/
def escapedAfter (escaped : Bool) (bytes : List UInt8) : Bool :=
  bytes.foldl (fun e b => b == 0x5C && !e) escaped

lemma escapedAfter_append (escaped : Bool) (xs ys : List UInt8) :
    escapedAfter escaped (xs ++ ys) = escapedAfter (escapedAfter escaped xs) ys :=
  List.foldl_append

lemma unportableFrom_cons_eq_none {offset : ℕ} {escaped : Bool} {b : UInt8} {rest : List UInt8} :
    unportableFrom offset escaped (b :: rest) = none ↔
      (escaped = false → opensUnportable (b :: rest) = false) ∧
        unportableFrom (offset + 1) (b == 0x5C && !escaped) rest = none := by
  rw [unportableFrom]
  cases escaped <;> cases opensUnportable (b :: rest) <;> simp

/-- A scan that finds nothing finds nothing either when it is taken up behind some of the bytes. -/
theorem unportableFrom_append {offset : ℕ} {escaped : Bool} {xs ys : List UInt8}
    (h : unportableFrom offset escaped (xs ++ ys) = none) :
    unportableFrom (offset + xs.length) (escapedAfter escaped xs) ys = none := by
  induction xs generalizing offset escaped with
  | nil => exact h
  | cons b xs ih =>
    have later := ih (unportableFrom_cons_eq_none.mp h).2
    rwa [Nat.add_assoc, Nat.add_comm 1] at later

/-! ### The scan of a text -/

/-- The bytes of a character that is no backslash end any escape. -/
lemma escapedAfter_encode_concat (escaped : Bool) (u : List Char) {c : Char} (h : c ≠ '\\') :
    escapedAfter escaped (Utf8.encode (u ++ [c])) = false := by
  have notBackslash : ∀ b ∈ Utf8.encode [c], b ≠ 0x5C := by
    rintro b hb rfl
    have same := List.mem_singleton.mp (Utf8.ofNat_mem_of_mem_encode hb (by decide))
    exact h same.symm
  have split : Utf8.encode (u ++ [c]) = Utf8.encode u ++ Utf8.encode [c] := List.flatMap_append
  rw [split, escapedAfter_append]
  rcases (Utf8.encode [c]).eq_nil_or_concat with empty | ⟨front, b, bytes⟩
  · have back := Utf8.decodeLossy_encode [c]
    rw [empty] at back
    cases back
  · rw [List.concat_eq_append] at bytes
    have last : b ≠ 0x5C := notBackslash b (by rw [bytes]; simp)
    rw [bytes, escapedAfter_append]
    simp [escapedAfter, last]

/-- The text `t` is what is left of `s`, and its first character is not escaped there. -/
def Leaves (s t : List Char) : Prop :=
  ∃ u, s = u ++ t ∧ escapedAfter false (Utf8.encode u) = false

lemma Leaves.refl (s : List Char) : Leaves s s :=
  ⟨[], rfl, rfl⟩

lemma Leaves.trans {s t r : List Char} (h : Leaves s t) (h' : Leaves t r) : Leaves s r := by
  obtain ⟨u, rfl, first⟩ := h
  obtain ⟨v, rfl, second⟩ := h'
  refine ⟨u ++ v, (List.append_assoc u v r).symm, ?_⟩
  have split : Utf8.encode (u ++ v) = Utf8.encode u ++ Utf8.encode v := List.flatMap_append
  rw [split, escapedAfter_append, first, second]

lemma Leaves.suffix {s t : List Char} (h : Leaves s t) : t <:+ s := by
  obtain ⟨u, rfl, _⟩ := h
  exact List.suffix_append u t

/-- Behind a character that is no backslash nothing is escaped. -/
theorem leaves_of_suffix {c : Char} {s t : List Char} (h : c :: t <:+ s) (plain : c ≠ '\\') :
    Leaves s t := by
  obtain ⟨u, rfl⟩ := h
  exact ⟨u ++ [c], by simp, escapedAfter_encode_concat false u plain⟩

/-- Behind a backslash and the character that it escapes nothing is escaped. -/
theorem leaves_escape (c : Char) (t : List Char) : Leaves ('\\' :: c :: t) t := by
  by_cases plain : c = '\\'
  · rw [plain]
    exact ⟨['\\', '\\'], rfl, by decide⟩
  · exact leaves_of_suffix (List.suffix_cons '\\' (c :: t)) plain

/-- A letter or a hyphen is one byte, which is no more than the scan looks for behind a question mark. -/
lemma opensUnportable_encode {c : Char} (h : c.isAlpha = true ∨ c = '-') (t : List Char) :
    opensUnportable (Utf8.encode ('(' :: '?' :: c :: t)) = true := by
  have bounds : 0x41 ≤ c.toNat ∧ c.toNat ≤ 0x5A ∨ 0x61 ≤ c.toNat ∧ c.toNat ≤ 0x7A ∨ c.toNat = 0x2D := by
    rcases h with alpha | rfl
    · have ranges : (decide (c.val ≥ 'A'.val ∧ c.val ≤ 'Z'.val) ||
          decide (c.val ≥ 'a'.val) && decide (c.val ≤ 'z'.val)) = true := alpha
      simp only [Bool.or_eq_true, Bool.and_eq_true, decide_eq_true_eq, ge_iff_le,
        UInt32.le_iff_toNat_le] at ranges
      have val : c.val.toNat = c.toNat := rfl
      rw [val] at ranges
      exact ranges.imp_right .inl
    · exact .inr (.inr rfl)
  have byte : (UInt8.ofNat c.toNat).toNat = c.toNat := Utf8.toNat_ofNat (by omega)
  have bytes : Utf8.encode ('(' :: '?' :: c :: t) =
      0x28 :: 0x3F :: UInt8.ofNat c.toNat :: Utf8.encode t := by
    rw [Utf8.encode_cons, Utf8.encode_cons, Utf8.encode_cons, Utf8.encodeChar_eq c]
    dsimp only
    rw [if_pos (by omega)]
    rfl
  rw [bytes, opensUnportable]
  simp only [beq_self_eq_true, Bool.true_and, Bool.or_eq_true, Bool.and_eq_true, decide_eq_true_eq,
    beq_iff_eq, UInt8.le_iff_toNat_le, ← UInt8.toNat_inj, byte]
  simpa [or_assoc] using bounds

/-- In a pattern in which the scan finds nothing, no refused group starts where nothing is escaped. -/
theorem not_opens_of_leaves {source : String} (clean : unportableGroup? source = none) {c : Char}
    {t : List Char} (h : Leaves source.toList ('(' :: '?' :: c :: t)) :
    c.isAlpha = false ∧ c ≠ '-' := by
  obtain ⟨u, split, unescaped⟩ := h
  have parts : Utf8.encode source.toList =
      Utf8.encode u ++ Utf8.encode ('(' :: '?' :: c :: t) := by
    rw [split]
    exact List.flatMap_append
  rw [unportableGroup?, parts] at clean
  have later := unportableFrom_append clean
  rw [unescaped] at later
  have closed : ¬ (c.isAlpha = true ∨ c = '-') := by
    intro opens
    have found := opensUnportable_encode opens t
    rw [Utf8.encode_cons] at later found
    have none := (unportableFrom_cons_eq_none.mp later).1 rfl
    exact Bool.false_ne_true (none.symm.trans found)
  rw [not_or, Bool.not_eq_true] at closed
  exact closed

end LoadingCheck.ClassPattern
