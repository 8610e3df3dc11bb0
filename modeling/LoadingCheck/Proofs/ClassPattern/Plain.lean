import LoadingCheck.Proofs.ClassPattern.Portable
import LoadingCheck.Proofs.Regex.Matches
import Mathlib.Data.List.Infix

set_option relaxedAutoImplicit false
set_option autoImplicit false

/-!
# Plain patterns

A pattern is plain if no character in it has a meaning of its own outside brackets. Its expression is the row of
its characters, which matches the part of a text that has these characters one behind the other. So the search
for a plain pattern is the search for a piece of text.

## Main definitions

* `LoadingCheck.Regex.IsPlain` — a character that stands for itself.
* `LoadingCheck.Regex.Expr.character` — the expression of one character.
* `LoadingCheck.Regex.Progress.Spells` — what holds of a parser that has read such characters only.

## Main results

* `LoadingCheck.Regex.matchRow_characters` — what characters one behind the other match.
* `LoadingCheck.Regex.parsePart_spells`, `LoadingCheck.Regex.parseParts_spells` — one step of the parser, and all
  of them.
* `LoadingCheck.ClassPattern.isMatch_iff_piece` — accepted patterns.
-/

namespace LoadingCheck

namespace Regex

/-! ### Characters one behind the other -/

/-- The expression of one character. -/
def Expr.character (c : Char) : Expr :=
  .chars (.singleton c)

lemma contains_singleton_iff {c d : Char} : (CharSet.singleton c).contains d = true ↔ d = c := by
  rw [← Char.toNat_inj]
  simp only [CharSet.contains, CharSet.containsCode, CharSet.singleton, List.any_cons, List.any_nil,
    Bool.or_false, Bool.and_eq_true, decide_eq_true_eq]
  omega

variable {text cs : List Char} {i j : ℕ}

/-- One character is in a text at a place, and others are behind it. -/
lemma cons_prefix_drop_iff {c : Char} :
    c :: cs <+: text.drop i ↔ text[i]? = some c ∧ cs <+: text.drop (i + 1) := by
  rw [← List.head?_drop, ← List.tail_drop]
  cases text.drop i with
  | nil => simp
  | cons d rest => simp [List.cons_prefix_cons, eq_comm]

lemma matches_character {c : Char} :
    (Expr.character c).Matches text i j ↔ text[i]? = some c ∧ j = i + 1 := by
  rw [Expr.character, Expr.Matches, isBefore, Option.any_eq_true]
  simp only [contains_singleton_iff, exists_eq_right]

/-- Characters one behind the other match the part of a text that is made of them. -/
theorem matchRow_characters :
    Expr.MatchRow text (cs.map .character) i j ↔ cs <+: text.drop i ∧ j = i + cs.length := by
  induction cs generalizing i with
  | nil => simp [Expr.MatchRow, eq_comm]
  | cons c cs ih =>
    simp only [List.map_cons, Expr.MatchRow, matches_character, ih, cons_prefix_drop_iff]
    constructor
    · rintro ⟨_, ⟨here, rfl⟩, behind, rfl⟩
      exact ⟨⟨here, behind⟩, by rw [List.length_cons]; omega⟩
    · rintro ⟨⟨here, behind⟩, rfl⟩
      exact ⟨i + 1, ⟨here, rfl⟩, behind, by rw [List.length_cons]; omega⟩

/-- A piece of a text starts at a place in it. -/
lemma exists_prefix_drop_iff : (∃ i ≤ text.length, cs <+: text.drop i) ↔ cs <:+: text := by
  rw [List.infix_iff_prefix_suffix]
  constructor
  · rintro ⟨i, _, start⟩
    exact ⟨_, start, List.drop_suffix i text⟩
  · rintro ⟨t, start, stop⟩
    rw [List.suffix_iff_eq_drop.mp stop] at start
    exact ⟨_, Nat.sub_le _ _, start⟩

/-- The search for characters one behind the other is the search for a piece of text. -/
lemma isMatch_of_matchRow {e : Expr}
    (h : ∀ i j, e.Matches text i j ↔ Expr.MatchRow text (cs.map .character) i j) :
    e.isMatch text = true ↔ cs <:+: text := by
  simp only [Expr.isMatch_iff, h, matchRow_characters, ← exists_prefix_drop_iff]
  constructor
  · rintro ⟨i, _, le, start, _⟩
    exact ⟨i, le, start⟩
  · rintro ⟨i, le, start⟩
    exact ⟨i, _, le, start, rfl⟩

/-! ### Expressions of rows -/

lemma toExprs_append {as bs : List Ast} {es fs : List Expr} (first : Ast.toExprs as = .ok es)
    (second : Ast.toExprs bs = .ok fs) : Ast.toExprs (as ++ bs) = .ok (es ++ fs) := by
  induction as generalizing es with
  | nil =>
    cases first
    exact second
  | cons a as ih =>
    rw [Ast.toExprs] at first
    obtain ⟨e, one, first⟩ := bind_eq_ok.mp first
    obtain ⟨more, others, done⟩ := bind_eq_ok.mp first
    cases done
    rw [List.cons_append, Ast.toExprs, one, ih others]
    rfl

/-- The expression of a row matches what its parts match one behind the other, also if there is only one of
them. -/
lemma matches_row {row : Row} {es : List Expr} (parts : Ast.toExprs row.parts.reverse = .ok es) {stop : ℕ}
    {e : Expr} (h : (row.toAst stop).toExpr = .ok e) : e.Matches text i j ↔ Expr.MatchRow text es i j := by
  rw [Row.toAst.eq_def] at h
  split at h
  · rename_i none
    rw [none] at parts
    cases parts
    cases h
    rfl
  · rename_i a single
    rw [single, List.reverse_singleton, Ast.toExprs, h] at parts
    cases parts
    simp [Expr.MatchRow]
  · rw [Ast.toExpr, parts] at h
    cases h
    rfl

/-! ### Plain characters -/

/-- A character without a meaning of its own outside brackets. -/
def IsPlain (c : Char) : Prop :=
  c ∉ ['\\', '.', '+', '*', '?', '(', ')', '|', '[', ']', '\x7b', '\x7d', '^', '$']

instance : DecidablePred IsPlain := fun _ => inferInstanceAs (Decidable (_ ∉ _))

variable {p : Progress} {c : Char} {t : List Char}

/-- What holds of a parser that has read plain characters only: no group is open, and the expressions of the row
are those of the characters. -/
structure Progress.Spells (read : List Char) (p : Progress) : Prop where
  stack : p.stack = []
  row : Ast.toExprs p.row.parts.reverse = .ok (read.map .character)

/-- A plain character is put into the row as it is. -/
lemma parsePart_plain (plain : IsPlain c) (p : Progress) :
    parsePart p c =
      .ok { p with
        row := { p.row with parts := .literal ⟨p.cursor.charSpan, .verbatim, c⟩ :: p.row.parts }
        cursor := p.cursor.next } := by
  have primitive : parsePrimitive p.cursor c =
      .ok (.literal ⟨p.cursor.charSpan, .verbatim, c⟩, p.cursor.next) := by
    rw [parsePrimitive.eq_def]
    split <;> first | rfl | exact absurd plain (by decide)
  rw [parsePart.eq_def]
  split
  -- each sign that starts a part of another kind is not plain; what is left is any other character
  all_goals first | exact absurd plain (by decide) | exact bind_eq_ok.mpr ⟨_, primitive, rfl⟩

/-- **One plain character.** What has been read is spelled with this character at its end. -/
theorem parsePart_spells {read : List Char} (hp : p.Spells read) (plain : IsPlain c)
    (head : p.cursor.rest = c :: t) :
    ∃ p', parsePart p c = .ok p' ∧ p'.Spells (read ++ [c]) ∧ p'.cursor.rest = t := by
  refine ⟨_, parsePart_plain plain p, ⟨hp.stack, ?_⟩, Cursor.next_rest head⟩
  rw [List.reverse_cons, List.map_append]
  exact toExprs_append hp.row rfl

/-- **A plain text.** The parser reads the row of its characters.

**Proof sketch.** Induction on the characters that are left, with `LoadingCheck.Regex.parsePart_spells` for one. -/
theorem parseParts_spells {read rest : List Char} (hp : p.Spells read) (left : p.cursor.rest = rest)
    (plain : ∀ c ∈ rest, IsPlain c) {fuel : ℕ} (enough : rest.length < fuel) :
    ∃ row stop, parseParts fuel p = .ok (Row.toAst row stop) ∧
      Ast.toExprs row.parts.reverse = .ok ((read ++ rest).map .character) := by
  induction rest generalizing p read fuel with
  | nil =>
    obtain ⟨fuel, rfl⟩ := Nat.exists_eq_succ_of_ne_zero enough.ne'
    refine ⟨p.row, p.cursor.pos, ?_, ?_⟩
    · rw [parseParts, left, closePattern.eq_def, hp.stack]
    · rw [List.append_nil]
      exact hp.row
  | cons c rest ih =>
    rw [List.forall_mem_cons] at plain
    obtain ⟨fuel, rfl⟩ := Nat.exists_eq_succ_of_ne_zero (Nat.ne_zero_of_lt enough)
    obtain ⟨p', part, spells, left'⟩ := parsePart_spells hp plain.1 left
    obtain ⟨row, stop, parsed, parts⟩ := ih spells left' plain.2 (Nat.lt_of_succ_lt_succ enough)
    refine ⟨row, stop, ?_, ?_⟩
    · rw [parseParts, left]
      exact bind_eq_ok.mpr ⟨p', part, parsed⟩
    · rwa [List.append_assoc] at parts

/-- The expression of a plain text matches its characters one behind the other. -/
lemma matches_parse {source : List Char} (plain : ∀ c ∈ source, IsPlain c) {a : Ast}
    (parsed : parse source = .ok a) {e : Expr} (meaning : a.toExpr = .ok e) :
    e.Matches text i j ↔ Expr.MatchRow text (source.map .character) i j := by
  rw [parse] at parsed
  obtain ⟨a', read, parsed⟩ := bind_eq_ok.mp parsed
  obtain ⟨_, _, done⟩ := bind_eq_ok.mp parsed
  cases done
  have start : Progress.Spells [] ⟨[], ⟨0, []⟩, [], ⟨0, source⟩⟩ := ⟨rfl, rfl⟩
  obtain ⟨row, stop, read', parts⟩ := parseParts_spells start rfl plain (Nat.lt_succ_self source.length)
  rw [read] at read'
  cases read'
  exact matches_row parts meaning

end Regex

/-! ### Accepted patterns -/

namespace ClassPattern

open Regex (IsPlain)

/-- **The search for a plain pattern is the search for a piece of text.** A text that is accepted as a pattern and
has none of the characters with a meaning of their own matches exactly those values of a `class` attribute that
it is a piece of, at whatever place, character by character.

**Proof sketch.** The pattern means what the parser reads (`LoadingCheck.ClassPattern.readPortably`), which is the
row of its characters (`LoadingCheck.Regex.parseParts_spells`). The search finds a match of this row if there is
one (`LoadingCheck.Regex.Expr.isMatch_iff`), and the row matches its own characters only
(`LoadingCheck.Regex.matchRow_characters`). -/
theorem isMatch_iff_piece {source : String} {p : ClassPattern} (accepted : ofString source = .ok p)
    (plain : ∀ c ∈ source.toList, IsPlain c) (classes : String) :
    p.isMatch classes = true ↔ source.toList <:+: classes.toList := by
  have same := source_of_ofString accepted
  subst same
  obtain ⟨a, parsed, meaning, _⟩ := p.readPortably
  exact Regex.isMatch_of_matchRow fun _ _ => Regex.matches_parse plain parsed meaning

/-- The start of a pattern is found again inside a failed attempt, a letter in the other case is another
character, an empty attribute has no piece, and characters may take more than one byte. -/
theorem isMatch_plain :
    (∃ p, ofString "aab" = .ok p ∧ (∀ c ∈ "aab".toList, IsPlain c) ∧
      p.isMatch "aaab" = true ∧ p.isMatch "aaAb" = false ∧ p.isMatch "" = false) ∧
    (∃ p, ofString "größe" = .ok p ∧ (∀ c ∈ "größe".toList, IsPlain c) ∧
      p.isMatch "btn größe" = true ∧ p.isMatch "btn grösse" = false) := by
  obtain ⟨p, first⟩ := exists_ok (x := ofString "aab") (by decide)
  obtain ⟨q, second⟩ := exists_ok (x := ofString "größe") (by decide)
  have plain : ∀ c ∈ "aab".toList, IsPlain c := by simp [IsPlain]
  have plain' : ∀ c ∈ "größe".toList, IsPlain c := by simp [IsPlain]
  refine ⟨⟨p, first, plain, ?_, ?_, ?_⟩, ⟨q, second, plain', ?_, ?_⟩⟩
  · exact (isMatch_iff_piece first plain _).mpr (by decide)
  · rw [← Bool.not_eq_true, isMatch_iff_piece first plain]
    decide
  · rw [← Bool.not_eq_true, isMatch_iff_piece first plain]
    decide
  · exact (isMatch_iff_piece second plain' _).mpr (by decide)
  · rw [← Bool.not_eq_true, isMatch_iff_piece second plain']
    decide

end ClassPattern

end LoadingCheck
