import LoadingCheck.Proofs.ClassPattern.Escapes
import LoadingCheck.Proofs.Fallible

set_option relaxedAutoImplicit false
set_option autoImplicit false

/-!
# How far the readers of a pattern go

Each reader of the parser goes forward in the pattern. It stops behind a character that is no backslash, or
behind an escape of a backslash and one more character. So the parser and the scan for refused groups agree
about escapes wherever the parser starts to read a part of the pattern.

## Main results

* `LoadingCheck.Regex.parseEscape_leaves` — escapes.
* `LoadingCheck.Regex.parseClass_bracketed` — brackets, which end at a closing one.
* `LoadingCheck.Regex.parseOpening_leaves` — openings of groups.
* `LoadingCheck.Regex.repeatBySign_leaves`, `LoadingCheck.Regex.repeatByCount_leaves` — repetitions.
-/

namespace LoadingCheck.Regex

open ClassPattern (Leaves leaves_of_suffix leaves_escape)

/-! ### Cursors -/

lemma Cursor.next_suffix (c : Cursor) : c.next.rest <:+ c.rest :=
  List.tail_suffix c.rest

lemma Cursor.takeWhile_suffix (p : Char → Bool) (c : Cursor) : (c.takeWhile p).2.rest <:+ c.rest :=
  List.dropWhile_suffix p

lemma Cursor.next_rest {c : Cursor} {char : Char} {t : List Char} (h : c.rest = char :: t) :
    c.next.rest = t := by
  rw [Cursor.next, h, List.tail_cons]

/-- The place after a character that is no backslash. -/
lemma Cursor.next_leaves {c : Cursor} {char : Char} {t : List Char} (h : c.rest = char :: t)
    (plain : char ≠ '\\') : Leaves c.rest c.next.rest := by
  rw [next_rest h, h]
  exact leaves_of_suffix (List.suffix_refl _) plain

/-! ### Escapes -/

variable {c c' : Cursor}

lemma hexFixed_leaves {start first n value : ℕ} {l : Literal}
    (h : hexFixed start first n value c = .ok (l, c')) : Leaves c.rest c'.rest := by
  induction n generalizing value c with
  | zero =>
    rw [hexFixed] at h
    split at h <;> cases h
    exact Leaves.refl _
  | succ n ih =>
    rw [hexFixed] at h
    split at h
    · cases h
    · rename_i d t rest
      split at h
      · rename_i v digit
        have plain : d ≠ '\\' := by
          rintro rfl
          cases digit
        exact (Cursor.next_leaves rest plain).trans (ih h)
      · cases h

lemma hexBraced_suffix {start : ℕ} {l : Literal} (h : hexBraced start c = .ok (l, c')) :
    '\x7d' :: c'.rest <:+ c.rest := by
  rw [hexBraced] at h
  dsimp only at h
  split at h
  · cases h
  · rename_i t rest
    split_ifs at h with empty
    · cases h
    · split at h
      · cases h
        rw [Cursor.next_rest rest, ← rest]
        exact Cursor.takeWhile_suffix _ c
      · cases h
  · cases h

lemma hexEscape_leaves {start digits : ℕ} {l : Literal} (h : hexEscape start digits c = .ok (l, c')) :
    Leaves c.rest c'.rest := by
  rw [hexEscape] at h
  split at h
  · cases h
  · exact leaves_of_suffix ((hexBraced_suffix h).trans c.next_suffix) (by decide)
  · exact hexFixed_leaves h

lemma propertyEscape_leaves {start : ℕ} {negated : Bool} {p : PropertyClass}
    (h : propertyEscape start negated c = .ok (p, c')) : Leaves c.rest c'.rest := by
  rw [propertyEscape.eq_def] at h
  split at h
  · cases h
  · rename_i t rest
    dsimp only at h
    split at h
    · cases h
    · rename_i brace t' rest'
      cases h
      have closing : brace = '\x7d' := by
        have stop := List.head?_dropWhile_not (fun d => decide (d ≠ '\x7d')) c.next.rest
        have left : c.next.rest.dropWhile (fun d => decide (d ≠ '\x7d')) = brace :: t' := rest'
        rw [left] at stop
        simpa using stop
      rw [Cursor.next_rest rest']
      refine leaves_of_suffix (c := brace) ?_ (by rw [closing]; decide)
      rw [← rest']
      exact (Cursor.takeWhile_suffix _ _).trans c.next_suffix
  · cases h
  · rename_i name t notBrace notBackslash rest
    cases h
    exact Cursor.next_leaves rest notBackslash

lemma specialBoundary_leaves {start : ℕ} {kind : Option Assertion}
    (h : specialBoundary start c = .ok (kind, c')) : Leaves c.rest c'.rest := by
  rw [specialBoundary] at h
  dsimp only at h
  split at h
  · cases h
  · split_ifs at h
    · split at h
      · rename_i t rest
        have closed : c' = (c.next.takeWhile isBoundaryName).2.next := by
          split at h <;> cases h <;> rfl
        rw [closed, Cursor.next_rest rest]
        refine leaves_of_suffix (c := '\x7d') ?_ (by decide)
        rw [← rest]
        exact (Cursor.takeWhile_suffix _ _).trans c.next_suffix
      · cases h
    · cases h
      exact Leaves.refl _

/-- An escape has a character behind its backslash, and takes more only up to a character that is no
backslash. -/
lemma parseEscape_behind {p : Primitive} (h : parseEscape c = .ok (p, c')) :
    ∃ letter t, c.next.rest = letter :: t ∧ Leaves t c'.rest := by
  rw [parseEscape] at h
  dsimp only at h
  split at h
  · cases h
  · rename_i letter t rest
    refine ⟨letter, t, rest, ?_⟩
    rw [← Cursor.next_rest rest]
    -- the choices of a reader in their order: all but four of them end here
    split at h
    · cases h
    split at h
    · obtain ⟨⟨l, c₂⟩, read, done⟩ := bind_eq_ok.mp h
      cases done
      exact hexEscape_leaves read
    split at h
    · obtain ⟨⟨l, c₂⟩, read, done⟩ := bind_eq_ok.mp h
      cases done
      exact propertyEscape_leaves read
    split at h
    · cases h
      exact Leaves.refl _
    split at h
    · cases h
      exact Leaves.refl _
    split at h
    · cases h
      exact Leaves.refl _
    split at h
    · cases h
      exact Leaves.refl _
    split at h
    · split at h
      · obtain ⟨⟨special, c₂⟩, read, done⟩ := bind_eq_ok.mp h
        cases special <;> cases done <;> exact specialBoundary_leaves read
      · cases h
        exact Leaves.refl _
    · cases h

/-- An escape takes its backslash and the character behind it, and more only up to a character that is no
backslash. -/
theorem parseEscape_leaves {t : List Char} (backslash : c.rest = '\\' :: t) {p : Primitive}
    (h : parseEscape c = .ok (p, c')) : Leaves c.rest c'.rest := by
  obtain ⟨letter, t', rest, behind⟩ := parseEscape_behind h
  rw [Cursor.next_rest backslash] at rest
  rw [backslash, rest]
  exact (leaves_escape letter t').trans behind

/-- A piece that does not start with a backslash is one character. -/
lemma parsePrimitive_leaves {char : Char} {t : List Char} (head : c.rest = char :: t) {p : Primitive}
    (h : parsePrimitive c char = .ok (p, c')) : Leaves c.rest c'.rest := by
  rw [parsePrimitive.eq_def] at h
  split at h
  · exact parseEscape_leaves head h
  · cases h
    exact Cursor.next_leaves head (by decide)
  · cases h
    exact Cursor.next_leaves head (by decide)
  · cases h
    exact Cursor.next_leaves head (by decide)
  · rename_i plain _ _ _
    cases h
    exact Cursor.next_leaves head plain

/-! ### Brackets -/

lemma parseClassPrimitive_suffix {char : Char} {t : List Char} (head : c.rest = char :: t)
    {p : Primitive} (h : parseClassPrimitive c char = .ok (p, c')) : c'.rest <:+ c.rest := by
  rw [parseClassPrimitive] at h
  split_ifs at h with backslash
  · rw [backslash] at head
    exact (parseEscape_leaves head h).suffix
  · cases h
    exact c.next_suffix

lemma unclosedClass_ne_ok {α : Type} (stack : List OpenSet) (a : α) : unclosedClass stack ≠ .ok a := by
  induction stack with
  | nil => exact fun h => by cases h
  | cons open' stack ih =>
    cases open' with
    | brackets before span negated => exact fun h => by cases h
    | operation op left => exact ih

lemma parseClassRange_suffix {stack : List OpenSet} {char : Char} {t : List Char}
    (head : c.rest = char :: t) {item : ClassItem}
    (h : parseClassRange stack c char = .ok (item, c')) : c'.rest <:+ c.rest := by
  rw [parseClassRange, bind_eq_ok] at h
  obtain ⟨⟨first, c₁⟩, read, h⟩ := h
  refine List.IsSuffix.trans ?_ (parseClassPrimitive_suffix head read)
  dsimp only at h
  split at h
  · exact absurd h (unclosedClass_ne_ok _ _)
  · exact absurd h (unclosedClass_ne_ok _ _)
  · rename_i last t' _ rest
    split_ifs at h
    · obtain ⟨item', _, done⟩ := bind_eq_ok.mp h
      cases done
      exact List.suffix_refl _
    · obtain ⟨⟨p, c₂⟩, readLast, h⟩ := bind_eq_ok.mp h
      obtain ⟨low, _, h⟩ := bind_eq_ok.mp h
      obtain ⟨high, _, h⟩ := bind_eq_ok.mp h
      split_ifs at h
      · cases h
        exact (parseClassPrimitive_suffix (Cursor.next_rest rest) readLast).trans c₁.next_suffix
      · cases h
  · obtain ⟨item', _, done⟩ := bind_eq_ok.mp h
    cases done
    exact List.suffix_refl _

lemma leadingHyphens_suffix (fuel : ℕ) (row : ItemRow) (c : Cursor) :
    (leadingHyphens fuel row c).2.rest <:+ c.rest := by
  induction fuel generalizing row c with
  | zero => exact List.suffix_refl _
  | succ fuel ih =>
    rw [leadingHyphens]
    split
    · exact (ih _ _).trans c.next_suffix
    · exact List.suffix_refl _

lemma openBrackets_suffix {before row : ItemRow} {opened : OpenSet}
    (h : openBrackets before c = .ok (opened, row, c')) : c'.rest <:+ c.rest := by
  rw [openBrackets] at h
  split at h
  rename_i negated inside caret
  have opening : inside.rest <:+ c.rest := by
    split at caret
    · cases caret
      exact c.next.next_suffix.trans c.next_suffix
    · cases caret
      exact c.next_suffix
  split at h
  · cases h
  · cases h
  have hyphens := leadingHyphens_suffix inside.rest.length ⟨inside.here, []⟩ inside
  dsimp only at h
  split at h
  · cases h
  · split_ifs at h
    · cases h
    · cases h
      exact (Cursor.next_suffix _).trans (hyphens.trans opening)
  · cases h
    exact hyphens.trans opening

lemma asciiClass?_suffix {cls : AsciiClass} (h : asciiClass? c = some (cls, c')) :
    c'.rest <:+ c.rest := by
  rw [asciiClass?] at h
  split at h
  · rename_i t rest
    extract_lets inside at h
    split at h
    rename_i negated named caret
    have opening : named.rest <:+ c.rest := by
      rw [rest]
      split at caret
      · cases caret
        exact inside.next_suffix.trans ⟨['[', ':'], rfl⟩
      · cases caret
        exact ⟨['[', ':'], rfl⟩
    dsimp only at h
    split at h
    · cases h
      exact (Cursor.next_suffix _).trans
        ((Cursor.next_suffix _).trans ((Cursor.takeWhile_suffix _ _).trans opening))
    · cases h
  · cases h

/-- Brackets are read as brackets, up to a closing one.

**Proof sketch.** Induction on the turns of the loop over their inside: each turn goes forward, and the last
one stands at the closing bracket. -/
theorem parseClass_bracketed {fuel : ℕ} {stack : List OpenSet} {row : ItemRow} {a : Ast}
    (h : parseClass fuel stack row c = .ok (a, c')) :
    (∃ span negated set, a = .bracketed span negated set) ∧ ']' :: c'.rest <:+ c.rest := by
  induction fuel generalizing stack row c with
  | zero => exact absurd h (unclosedClass_ne_ok _ _)
  | succ fuel ih =>
    rw [parseClass.eq_def] at h
    dsimp only at h
    split at h
    · exact absurd h (unclosedClass_ne_ok _ _)
    · split at h
      · rename_i cls c₂ named
        split_ifs at named
        exact (ih h).imp_right (·.trans (asciiClass?_suffix named))
      · obtain ⟨⟨opened, row₂, c₂⟩, opening, inside⟩ := bind_eq_ok.mp h
        exact (ih inside).imp_right (·.trans (openBrackets_suffix opening))
    · rename_i t closing
      split at h
      · split_ifs at h
        · cases h
          rw [Cursor.next_rest closing, closing]
          exact ⟨⟨_, _, _, rfl⟩, List.suffix_refl _⟩
        · exact (ih h).imp_right (·.trans c.next_suffix)
      · exact absurd h (unclosedClass_ne_ok _ _)
    · rename_i char t notOpening notClosing head
      split at h
      · exact (ih h).imp_right (·.trans (c.next.next_suffix.trans c.next_suffix))
      · obtain ⟨⟨item, c₂⟩, range, inside⟩ := bind_eq_ok.mp h
        exact (ih inside).imp_right (·.trans (parseClassRange_suffix head range))

/-! ### Groups -/

/-- Flags are read up to a colon or a closing parenthesis. -/
lemma parseFlags_closed {fuel : ℕ} {seen : List (FlagItem × Span)} {items : List FlagItem}
    (h : parseFlags fuel seen c = .ok (items, c')) :
    ∃ char t, c'.rest = char :: t ∧ (char = ':' ∨ char = ')') ∧ c'.rest <:+ c.rest := by
  induction fuel generalizing seen c with
  | zero => cases h
  | succ fuel ih =>
    rw [parseFlags.eq_def] at h
    dsimp only at h
    split at h
    · cases h
    · rename_i char t head
      split at h
      · rename_i closing
        split at h
        · cases h
        · cases h
          exact ⟨char, t, head, closing, List.suffix_refl _⟩
      · split at h
        · cases h
        · split at h
          · cases h
          · obtain ⟨stop, t', rest, closing, suffix⟩ := ih h
            exact ⟨stop, t', rest, closing, suffix.trans c.next_suffix⟩

lemma isAlpha_of_flagOf? {char : Char} {flag : Flag} (h : flagOf? char = some flag) :
    char.isAlpha = true := by
  rw [flagOf?.eq_def] at h
  split at h <;> first | decide | cases h

/-- The first of some flags is the next character. -/
lemma parseFlags_first {fuel : ℕ} {items : List FlagItem} (h : parseFlags fuel [] c = .ok (items, c'))
    (nonempty : items ≠ []) : ∃ char t, c.rest = char :: t ∧ (char.isAlpha = true ∨ char = '-') := by
  cases fuel with
  | zero => cases h
  | succ fuel =>
    rw [parseFlags.eq_def] at h
    dsimp only at h
    split at h
    · cases h
    · rename_i char t head
      refine ⟨char, t, head, ?_⟩
      split at h
      · cases h
        exact absurd rfl nonempty
      · split at h
        · cases h
        · rename_i item known
          split at known
          · rename_i hyphen
            exact .inr hyphen
          · obtain ⟨flag, letter, _⟩ := Option.map_eq_some_iff.mp known
            exact .inl (isAlpha_of_flagOf? letter)

/-- The name of a group ends at an angle bracket. -/
lemma parseGroupName_suffix {start fuel : ℕ} {name : List Char} {named : String × Span}
    (h : parseGroupName start fuel name c = .ok (named, c')) : '>' :: c'.rest <:+ c.rest := by
  induction fuel generalizing name c with
  | zero => cases h
  | succ fuel ih =>
    rw [parseGroupName] at h
    split at h
    · cases h
    · rename_i char t head
      split at h
      · rename_i closing
        split at h
        · cases h
        · cases h
          exact ⟨[], by rw [List.nil_append, Cursor.next_rest head, head, closing]⟩
      · -- one more character of the name, which may be the first one
        split at h
        · split at h
          · exact (ih h).trans c.next_suffix
          · cases h
        · split at h
          · exact (ih h).trans c.next_suffix
          · cases h

/-- An opening of a group takes its parenthesis and more only up to a character that is no backslash. -/
theorem parseOpening_leaves {t : List Char} (paren : c.rest = '(' :: t) {opening : Opening}
    (h : parseOpening c = .ok (opening, c')) : Leaves c.rest c'.rest := by
  have inside : Leaves c.rest c.next.rest := Cursor.next_leaves paren (by decide)
  rw [parseOpening] at h
  dsimp only at h
  split at h
  · cases h
  · split at h
    · obtain ⟨⟨name, c₂⟩, read, done⟩ := bind_eq_ok.mp h
      cases done
      refine inside.trans (leaves_of_suffix ((parseGroupName_suffix read).trans ?_) (by decide))
      exact (Cursor.next_suffix _).trans ((Cursor.next_suffix _).trans (Cursor.next_suffix _))
    · obtain ⟨⟨name, c₂⟩, read, done⟩ := bind_eq_ok.mp h
      cases done
      refine inside.trans (leaves_of_suffix ((parseGroupName_suffix read).trans ?_) (by decide))
      exact (Cursor.next_suffix _).trans (Cursor.next_suffix _)
    · cases h
    · obtain ⟨⟨items, c₂⟩, read, h⟩ := bind_eq_ok.mp h
      obtain ⟨stop, t', rest, closing, suffix⟩ := parseFlags_closed read
      have closed : c'.rest = t' := by
        rw [← Cursor.next_rest rest]
        dsimp only at h
        split at h
        · split at h <;> cases h
          rfl
        · cases h
          rfl
      have plain : stop ≠ '\\' := by rcases closing with rfl | rfl <;> decide
      rw [rest] at suffix
      rw [closed]
      exact inside.trans (leaves_of_suffix (suffix.trans c.next.next_suffix) plain)
    · cases h
      exact inside

/-! ### Repetitions -/

/-- A question mark behind a repetition is no backslash. -/
lemma lazyMark_leaves (c : Cursor) : Leaves c.rest (lazyMark c).2.rest := by
  rw [lazyMark]
  split
  · rename_i t mark
    exact Cursor.next_leaves mark (by decide)
  · exact Leaves.refl _

lemma afterDecimal_suffix (c : Cursor) : (afterDecimal c).rest <:+ c.rest :=
  (Cursor.takeWhile_suffix _ _).trans ((Cursor.takeWhile_suffix _ _).trans (Cursor.takeWhile_suffix _ _))

lemma parseDecimal_suffix {n : ℕ} (h : parseDecimal c = .ok (n, c')) : c'.rest <:+ c.rest := by
  rw [parseDecimal] at h
  dsimp only at h
  split at h
  · cases h
  · split at h
    · cases h
      exact afterDecimal_suffix c
    · cases h

lemma parseBounds_suffix {start : ℕ} {bounds : ℕ × Option ℕ}
    (h : parseBounds start c = .ok (bounds, c')) : c'.rest <:+ c.rest := by
  rw [parseBounds] at h
  split at h
  · cases h
  dsimp only at h
  split at h
  · cases h
  · refine List.IsSuffix.trans ?_ ((Cursor.next_suffix _).trans (afterDecimal_suffix c))
    split at h
    · cases h
    · obtain ⟨_, _, done⟩ := bind_eq_ok.mp h
      cases done
      exact List.suffix_refl _
    · obtain ⟨_, _, h⟩ := bind_eq_ok.mp h
      obtain ⟨⟨max, c₂⟩, read, done⟩ := bind_eq_ok.mp h
      cases done
      exact parseDecimal_suffix read
  · obtain ⟨_, _, done⟩ := bind_eq_ok.mp h
    cases done
    exact afterDecimal_suffix c

variable {row row' : Row}

/-- A repetition by a sign. -/
theorem repeatBySign_leaves {char : Char} {t : List Char} (sign : c.rest = char :: t)
    (plain : char ≠ '\\') {min : ℕ} {max : Option ℕ}
    (h : repeatBySign row c min max = .ok (row', c')) : Leaves c.rest c'.rest := by
  rw [repeatBySign] at h
  obtain ⟨_, _, done⟩ := bind_eq_ok.mp h
  cases done
  exact (Cursor.next_leaves sign plain).trans (lazyMark_leaves c.next)

/-- A repetition with bounds ends at a closing brace, or at the question mark behind it. -/
theorem repeatByCount_leaves (h : repeatByCount row c = .ok (row', c')) : Leaves c.rest c'.rest := by
  rw [repeatByCount] at h
  obtain ⟨_, _, h⟩ := bind_eq_ok.mp h
  obtain ⟨⟨⟨min, max⟩, c₂⟩, bounds, h⟩ := bind_eq_ok.mp h
  dsimp only at h
  split at h
  · rename_i t brace
    split at h
    · cases h
      refine Leaves.trans (t := c₂.next.rest) ?_ (lazyMark_leaves c₂.next)
      have braces := (parseBounds_suffix bounds).trans c.next_suffix
      rw [brace] at braces
      rw [Cursor.next_rest brace]
      exact leaves_of_suffix braces (by decide)
    · cases h
  · cases h

end LoadingCheck.Regex
