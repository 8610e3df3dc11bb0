import LoadingCheck.Text.Search
import Mathlib.Data.List.Infix

set_option relaxedAutoImplicit false
set_option autoImplicit false

/-!
# Pieces on both sides of a mark

A piece of text cannot reach across a character that it does not have. So a search in two texts with such a
character between them is a search in the one and then in the other.

## Main definitions

* `LoadingCheck.Text.occurrences` — how many times a piece occurs in a text.

## Main results

* `LoadingCheck.Text.before?_append_cons` — a search goes through one side and then through the other.
* `LoadingCheck.Text.not_infix_of_before?` — what stands before the first occurrence has no occurrence in it.
-/

namespace LoadingCheck.Text

variable {α : Type} {piece s : List α} {c : α}

/-- A piece at the start of a text ends before a character that it does not have. -/
lemma prefix_append_cons_iff (h : c ∉ piece) (t : List α) : piece <+: s ++ c :: t ↔ piece <+: s := by
  induction s generalizing piece with
  | nil =>
    cases piece with
    | nil => simp
    | cons d piece =>
      have other : d ≠ c := fun same => h (same ▸ List.mem_cons_self)
      simp [List.cons_prefix_cons, other]
  | cons d s ih =>
    cases piece with
    | nil => simp
    | cons e piece =>
      have rest : c ∉ piece := fun mem => h (List.mem_cons_of_mem _ mem)
      rw [List.cons_append, List.cons_prefix_cons, List.cons_prefix_cons, ih rest]

/-- A piece does not start at a character that it does not have. -/
lemma not_prefix_cons (present : piece ≠ []) (h : c ∉ piece) (t : List α) : ¬ piece <+: c :: t := by
  have nowhere := prefix_append_cons_iff (s := []) h t
  rw [List.nil_append, List.prefix_nil] at nowhere
  exact fun start => present (nowhere.mp start)

variable [DecidableEq α]

/-- **A search goes through one side of a mark and then through the other**, if the piece does not have the
mark in it. -/
theorem before?_append_cons (present : piece ≠ []) (h : c ∉ piece) (t : List α) :
    before? piece (s ++ c :: t) =
      (before? piece s).or ((before? piece t).map fun b => s ++ c :: b) := by
  induction s with
  | nil =>
    have skipped : before? piece (c :: t) = (before? piece t).map (c :: ·) := by
      rw [before?]
      exact if_neg fun start => not_prefix_cons present h t (List.isPrefixOf_iff_prefix.mp start)
    rw [List.nil_append, skipped, before?, if_neg present, Option.none_or]
    rfl
  | cons d s ih =>
    have start := prefix_append_cons_iff (s := d :: s) h t
    rw [List.cons_append] at start
    rw [List.cons_append, before?, before?, ih]
    by_cases first : piece <+: d :: s
    · rw [if_pos (List.isPrefixOf_iff_prefix.mpr first),
        if_pos (List.isPrefixOf_iff_prefix.mpr (start.mpr first)), Option.some_or]
    · rw [if_neg fun short => first (List.isPrefixOf_iff_prefix.mp short),
        if_neg fun long => first (start.mp (List.isPrefixOf_iff_prefix.mp long))]
      cases before? piece s with
      | some b => rfl
      | none => simp [Function.comp_def]

/-- What stands before the first occurrence is the start of the text. -/
lemma prefix_of_before? {b : List α} (h : before? piece s = some b) : b <+: s := by
  induction s generalizing b with
  | nil =>
    rw [before?] at h
    split_ifs at h
    rw [← Option.some.inj h]
  | cons c s ih =>
    rw [before?] at h
    split_ifs at h
    · rw [← Option.some.inj h]
      exact List.nil_prefix
    · obtain ⟨b', rest, rfl⟩ := Option.map_eq_some_iff.mp h
      exact List.cons_prefix_cons.mpr ⟨rfl, ih rest⟩

/-- **What stands before the first occurrence has no occurrence in it.** -/
theorem not_infix_of_before? (present : piece ≠ []) {b : List α} (h : before? piece s = some b) :
    ¬ piece <:+: b := by
  induction s generalizing b with
  | nil =>
    rw [before?, if_neg present] at h
    cases h
  | cons c s ih =>
    rw [before?] at h
    split_ifs at h with first
    · rw [← Option.some.inj h, List.infix_nil]
      exact present
    · obtain ⟨b', rest, rfl⟩ := Option.map_eq_some_iff.mp h
      rw [List.infix_cons_iff]
      rintro (start | later)
      · -- an occurrence at the start would be one in the whole text
        have longer : c :: b' <+: c :: s := List.cons_prefix_cons.mpr ⟨rfl, prefix_of_before? rest⟩
        exact first (List.isPrefixOf_iff_prefix.mpr (start.trans longer))
      · exact ih rest later

/-! ### How often a piece occurs -/

/-- The number of places in a text where a piece starts. -/
def occurrences (piece s : List α) : ℕ :=
  s.tails.countP piece.isPrefixOf

lemma occurrences_nil (present : piece ≠ []) : occurrences piece [] = 0 := by
  cases piece with
  | nil => exact absurd rfl present
  | cons d piece => rfl

lemma occurrences_cons (s : List α) :
    occurrences piece (c :: s) = occurrences piece s + if piece.isPrefixOf (c :: s) then 1 else 0 := by
  unfold occurrences
  rw [List.tails_cons, List.countP_cons]

/-- A piece occurs on one side of a character that it does not have, or on the other. -/
theorem occurrences_append_cons (present : piece ≠ []) (h : c ∉ piece) (t : List α) :
    occurrences piece (s ++ c :: t) = occurrences piece s + occurrences piece t := by
  induction s with
  | nil =>
    have apart : ¬ piece.isPrefixOf (c :: t) = true := by
      rw [List.isPrefixOf_iff_prefix]
      exact not_prefix_cons present h t
    rw [List.nil_append, occurrences_cons, if_neg apart, occurrences_nil present]
    omega
  | cons d s ih =>
    have start : piece.isPrefixOf (d :: s ++ c :: t) = piece.isPrefixOf (d :: s) := by
      rw [Bool.eq_iff_iff, List.isPrefixOf_iff_prefix, List.isPrefixOf_iff_prefix]
      exact prefix_append_cons_iff h t
    rw [List.cons_append] at start ⊢
    rw [occurrences_cons, occurrences_cons, start, ih]
    omega

/-- A piece occurs in one of two texts if the second one starts with a character that it does not have. -/
lemma occurrences_append (present : piece ≠ []) {t : List α} (h : ∀ c ∈ t.head?, c ∉ piece) :
    occurrences piece (s ++ t) = occurrences piece s + occurrences piece t := by
  cases t with
  | nil => rw [List.append_nil, occurrences_nil present, Nat.add_zero]
  | cons c t =>
    have other : c ∉ piece := h c rfl
    have alone := occurrences_append_cons (s := []) present other t
    rw [List.nil_append, occurrences_nil present, Nat.zero_add] at alone
    rw [occurrences_append_cons present other, alone]

/-- A piece does not occur in a text without its characters. -/
lemma occurrences_eq_zero (present : piece ≠ []) (h : ∀ c ∈ s, c ∉ piece) : occurrences piece s = 0 := by
  induction s with
  | nil => exact occurrences_nil present
  | cons c s ih =>
    have first := occurrences_append_cons (s := []) present (h c List.mem_cons_self) s
    rw [List.nil_append, occurrences_nil present, Nat.zero_add] at first
    rw [first]
    exact ih fun d hd => h d (List.mem_cons_of_mem _ hd)

end LoadingCheck.Text
