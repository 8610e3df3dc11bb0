import LoadingCheck.Proofs.ClassPattern.Foreign.Search
import LoadingCheck.Proofs.ClassPattern.Foreign.Syntax

set_option relaxedAutoImplicit false
set_option autoImplicit false

/-!
# Foreign escapes

The search for foreign syntax looks at one escape at a time. It finds an escape foreign exactly if the parser
reads it as something foreign, and otherwise both stand at the same place behind it.

## Main definitions

* `LoadingCheck.Regex.ReadsEscape` — an escape as the search sees it.

## Main results

* `LoadingCheck.Regex.parseEscape_reads` — one escape.
-/

namespace LoadingCheck.Regex

open ForeignSearch

variable {c c' : Cursor}

/-! ### Escapes -/

lemma hexFixed_reads {start first n value : ℕ} {l : Literal}
    (h : hexFixed start first n value c = .ok (l, c')) :
    l.kind = .hexFixed ∧ l.span = ⟨start, c.pos + n⟩ ∧ c'.rest = c.rest.drop n := by
  induction n generalizing value c with
  | zero =>
    rw [hexFixed] at h
    split at h <;> cases h
    exact ⟨rfl, rfl, rfl⟩
  | succ n ih =>
    rw [hexFixed] at h
    split at h
    · cases h
    · rename_i d t rest
      split at h
      · obtain ⟨kind, span, behind⟩ := ih h
        refine ⟨kind, ?_, ?_⟩
        · rw [span, Cursor.next, Nat.add_right_comm, Nat.add_assoc]
        · rw [behind, Cursor.next_rest rest, rest, List.drop_succ_cons]
      · cases h

lemma hexBraced_kind {start : ℕ} {l : Literal} (h : hexBraced start c = .ok (l, c')) :
    l.kind = .hexBrace := by
  rw [hexBraced] at h
  dsimp only at h
  split at h
  · cases h
  · split_ifs at h
    · cases h
    · split at h <;> cases h
      rfl
  · cases h

/-- An escape as the search sees it: the piece `p` is read from the letter and what follows it, up to
`behind`. -/
structure ReadsEscape (letter : Char) (rest : List Char) (p : Primitive) (behind : List Char) : Prop where
  foreign : p.Foreign ↔ escape letter rest = true
  behind : escape letter rest = false → behind = behindEscape letter rest
  not_verbatim : ∀ span char, p ≠ .literal ⟨span, .verbatim, char⟩

variable {letter : Char} {rest behind : List Char} {p : Primitive}

lemma ReadsEscape.of_foreign (foreign : p.Foreign) (found : escape letter rest = true)
    (not_verbatim : ∀ span char, p ≠ .literal ⟨span, .verbatim, char⟩) : ReadsEscape letter rest p behind :=
  ⟨iff_of_true foreign found, fun h => absurd (found.symm.trans h) (by decide), not_verbatim⟩

lemma ReadsEscape.of_not_foreign (foreign : ¬ p.Foreign) (found : escape letter rest = false)
    (here : behind = behindEscape letter rest)
    (not_verbatim : ∀ span char, p ≠ .literal ⟨span, .verbatim, char⟩) : ReadsEscape letter rest p behind :=
  ⟨iff_of_false foreign (by rw [found]; decide), fun _ => here, not_verbatim⟩

lemma eq_of_hexDigitsOf? {digits : ℕ} (h : hexDigitsOf? letter = some digits) :
    letter = 'x' ∧ digits = 2 ∨ letter = 'u' ∧ digits = 4 ∨ letter = 'U' ∧ digits = 8 := by
  rw [hexDigitsOf?.eq_def] at h
  split at h <;> cases h
  · exact .inl ⟨rfl, rfl⟩
  · exact .inr (.inl ⟨rfl, rfl⟩)
  · exact .inr (.inr ⟨rfl, rfl⟩)

/-- A code point by its digits. -/
lemma hexEscape_reads {start digits : ℕ} {l : Literal} (known : hexDigitsOf? letter = some digits)
    (pos : c.pos = start + 2) (head : c.rest = rest) (h : hexEscape start digits c = .ok (l, c')) :
    ReadsEscape letter rest (.literal l) c'.rest := by
  rw [hexEscape] at h
  split at h
  · cases h
  · rename_i t brace
    have kind := hexBraced_kind h
    refine .of_foreign (.inl kind) ?_ fun span char same => ?_
    · rw [← head, brace]
      rcases eq_of_hexDigitsOf? known with ⟨rfl, _⟩ | ⟨rfl, _⟩ | ⟨rfl, _⟩ <;> rfl
    · cases same
      cases kind
  · rename_i _ notBrace
    obtain ⟨kind, span, here⟩ := hexFixed_reads h
    have notVerbatim (span : Span) (char : Char) : Primitive.literal l ≠ .literal ⟨span, .verbatim, char⟩ := by
      rintro ⟨⟩
      cases kind
    have braceless : rest.head? ≠ some '\x7b' := by
      intro brace
      rw [← head] at brace
      obtain ⟨t, cons⟩ := List.head?_eq_some_iff.mp brace
      exact notBrace t cons
    have short (few : digits ≠ 8) : ¬ (Primitive.literal l).Foreign := by
      rintro (braced | ⟨_, long⟩ | ⟨special, _⟩)
      · rw [kind] at braced
        cases braced
      · rw [span, pos] at long
        dsimp only at long
        omega
      · rw [kind] at special
        cases special
    rw [head] at here
    rcases eq_of_hexDigitsOf? known with ⟨rfl, rfl⟩ | ⟨rfl, rfl⟩ | ⟨rfl, rfl⟩
    · exact .of_not_foreign (short (by decide)) (beq_eq_false_iff_ne.mpr braceless) here notVerbatim
    · exact .of_not_foreign (short (by decide)) (beq_eq_false_iff_ne.mpr braceless) here notVerbatim
    · refine .of_foreign (.inr (.inl ⟨kind, ?_⟩)) rfl notVerbatim
      rw [span, pos]

/-- What follows `\b` in braces: it is the name of a special boundary, or it is left to be read as bounds. -/
lemma specialBoundary_reads {start : ℕ} {t : List Char} (brace : c.rest = '\x7b' :: t) {kind : Option Assertion}
    (h : specialBoundary start c = .ok (kind, c')) (span : Span) :
    ReadsEscape 'b' c.rest (.assertion span (kind.getD .wordBoundary)) c'.rest := by
  rw [specialBoundary] at h
  dsimp only at h
  split at h
  · cases h
  · rename_i first t' inside
    rw [Cursor.next_rest brace] at inside
    subst inside
    split_ifs at h with name
    · have found : escape 'b' c.rest = true := by
        rw [brace]
        exact name
      split at h
      · split at h <;> cases h <;> exact .of_foreign trivial found nofun
      · cases h
    · cases h
      have plain : escape 'b' c.rest = false := by
        rw [brace]
        exact Bool.not_eq_true _ ▸ name
      exact .of_not_foreign id plain rfl nofun

/-- The letters of escapes that the search takes note of. -/
def notedLetters : List Char :=
  ['x', 'u', 'b', 'A', 'z', 'a', 'p', 'P', 'U', '<', '>']

lemma escape_of_not_noted (h : letter ∉ notedLetters) (rest : List Char) :
    escape letter rest = false ∧ behindEscape letter rest = rest := by
  simp only [notedLetters, List.mem_cons, List.not_mem_nil, or_false, not_or] at h
  rw [escape.eq_def, behindEscape.eq_def]
  constructor
  · split <;> simp_all
  · split <;> simp_all

/-- An escape of a letter that the search takes no note of, if it ends there. -/
lemma ReadsEscape.of_not_noted (h : letter ∉ notedLetters) (foreign : ¬ p.Foreign) (here : behind = rest)
    (not_verbatim : ∀ span char, p ≠ .literal ⟨span, .verbatim, char⟩) : ReadsEscape letter rest p behind := by
  obtain ⟨found, stays⟩ := escape_of_not_noted h rest
  exact .of_not_foreign foreign found (here.trans stays.symm) not_verbatim

/-- A letter of another kind than those that the search takes note of. -/
lemma not_noted_of (kind : Char → Bool) (other : notedLetters.any kind = false) (h : kind letter = true) :
    letter ∉ notedLetters := by
  intro noted
  have found : notedLetters.any kind = true := List.any_eq_true.mpr ⟨letter, noted, h⟩
  exact absurd (found.symm.trans other) (by decide)

lemma not_noted_of_shorthandOf? {kind : Shorthand × Bool} (h : shorthandOf? letter = some kind) :
    letter ∉ notedLetters := by
  refine not_noted_of (fun l => (shorthandOf? l).isSome) (by decide) ?_
  rw [h, Option.isSome_some]

lemma not_noted_of_controlOf? {char : Char} (h : controlOf? letter = some char) (notBell : letter ≠ 'a') :
    letter ∉ notedLetters := by
  refine not_noted_of (fun l => (controlOf? l).isSome && l != 'a') (by decide) ?_
  rw [h, Option.isSome_some, Bool.true_and, bne_iff_ne]
  exact notBell

/-- A control character by its letter. -/
lemma control_reads {span : Span} {char : Char} (known : controlOf? letter = some char) (rest : List Char) :
    ReadsEscape letter rest (.literal ⟨span, .special, char⟩) rest := by
  by_cases bell : letter = 'a'
  · subst bell
    cases known
    exact .of_foreign (.inr (.inr ⟨rfl, rfl⟩)) rfl nofun
  · refine .of_not_noted (not_noted_of_controlOf? known bell) ?_ rfl nofun
    rintro (braced | ⟨fixed, _⟩ | ⟨_, same⟩)
    · cases braced
    · cases fixed
    · cases same
      rw [controlOf?.eq_def] at known
      split at known <;> cases known
      exact bell rfl

/-- An assertion by its letter, if it is no boundary with a brace behind it. -/
lemma assertion_reads {span : Span} {kind : Assertion} (known : assertionOf? letter = some kind)
    (braceless : letter = 'b' → rest.head? ≠ some '\x7b') :
    ReadsEscape letter rest (.assertion span kind) rest := by
  by_cases boundary : letter = 'b'
  · have plain : escape letter rest = false := by
      rw [boundary, escape]
      rintro first t rfl
      exact braceless boundary rfl
    subst boundary
    cases known
    exact .of_not_foreign id plain rfl nofun
  · rw [assertionOf?.eq_def] at known
    split at known <;> cases known
    · exact .of_foreign trivial rfl nofun
    · exact .of_foreign trivial rfl nofun
    · exact absurd rfl boundary
    · exact .of_not_foreign id rfl rfl nofun
    · exact .of_foreign trivial rfl nofun
    · exact .of_foreign trivial rfl nofun

/-- **One escape.** The search finds an escape foreign exactly if the parser reads it as something foreign,
and otherwise both stand at the same place behind it.

**Proof sketch.** The choices of the parser in their order. Code points, `\a`, assertions and properties are
looked at one by one; the letters of the other escapes are none that the search takes note of. -/
theorem parseEscape_reads (head : c.rest = '\\' :: letter :: rest) (h : parseEscape c = .ok (p, c')) :
    ReadsEscape letter rest p c'.rest := by
  have first : c.next.rest = letter :: rest := Cursor.next_rest head
  have after : c.next.next.rest = rest := Cursor.next_rest first
  rw [parseEscape] at h
  dsimp only at h
  split at h
  · cases h
  rename_i e t same
  obtain ⟨rfl, rfl⟩ : letter = e ∧ rest = t := by simpa [first] using same
  split at h
  · cases h
  split at h
  · rename_i digits known
    obtain ⟨⟨l, c₂⟩, read, done⟩ := bind_eq_ok.mp h
    cases done
    exact hexEscape_reads known rfl after read
  split at h
  · rename_i property
    obtain ⟨⟨l, c₂⟩, read, done⟩ := bind_eq_ok.mp h
    cases done
    refine .of_foreign trivial ?_ nofun
    rcases property with rfl | rfl <;> rfl
  split at h
  · rename_i kind negated known
    cases h
    exact .of_not_noted (not_noted_of_shorthandOf? known) id after nofun
  split at h
  · rename_i known
    cases h
    have other := not_noted_of isMeta (by decide) known
    exact .of_not_noted other (Literal.not_foreign (.inr (.inl rfl))) after nofun
  split at h
  · rename_i known
    cases h
    have other := not_noted_of isEscapable (by decide) known
    exact .of_not_noted other (Literal.not_foreign (.inr (.inr rfl))) after nofun
  split at h
  · rename_i char known
    cases h
    rw [after]
    exact control_reads known rest
  split at h
  · rename_i kind known
    split at h
    · rename_i t brace
      have boundary : letter = 'b' := by
        rw [assertionOf?.eq_def] at known
        split at known <;> cases known
        rfl
      obtain ⟨⟨special, c₂⟩, read, done⟩ := bind_eq_ok.mp h
      rw [boundary, ← after]
      cases special <;> cases done <;> exact specialBoundary_reads brace read _
    · rename_i braceless
      cases h
      rw [after]
      refine assertion_reads known fun boundary brace => ?_
      obtain ⟨t, brace⟩ := List.head?_eq_some_iff.mp brace
      subst boundary
      cases known
      exact braceless t rfl (after.trans brace)
  · cases h

end LoadingCheck.Regex
