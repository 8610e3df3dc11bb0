import LoadingCheck.Proofs.ClassPattern.Foreign.Brackets
import Mathlib.Data.List.Basic

set_option relaxedAutoImplicit false
set_option autoImplicit false

/-!
# Patterns that a browser reads differently

A pattern is accepted for what it means here, and handed on as it is written. The scan for refused groups
looks at parentheses only, so escapes and brackets that a browser reads differently get past it. Whether an
accepted pattern has any can be told from its text, by a search of one pass.

## Main definitions

* `LoadingCheck.Regex.HasForeign` — what the parser has read so far has foreign syntax in it.
* `LoadingCheck.Regex.Progress.Foreign` — so has this, or what is left of the pattern.
* `LoadingCheck.ClassPattern.Reads` — the expression that a pattern is read as.

## Main results

* `LoadingCheck.Regex.parsePart_foreign`, `LoadingCheck.Regex.parseParts_foreign` — one step of the parser, and
  all of them.
* `LoadingCheck.ClassPattern.foreign_iff_found` — accepted patterns.
* `LoadingCheck.ClassPattern.foreign_accepted` — some with foreign syntax.
-/

namespace LoadingCheck

namespace Regex

open ForeignSearch

/-! ### What the parser has read so far -/

/-- An expression of a row is foreign. -/
def Row.Foreign (r : Row) : Prop :=
  ∃ a ∈ r.parts, a.Foreign

/-- What stands before an open group, or a choice that is done, is foreign. -/
def OpenGroup.Foreign : OpenGroup → Prop
  | .group before _ _ => before.Foreign
  | .choices _ done => ∃ a ∈ done, a.Foreign

/-- The expressions of a row or of what is open around it are foreign. -/
def HasForeign (stack : List OpenGroup) (row : Row) : Prop :=
  row.Foreign ∨ ∃ g ∈ stack, g.Foreign

variable {row : Row} {stack : List OpenGroup} {c c' : Cursor} {a : Ast}

lemma Row.not_foreign_nil (start : ℕ) : ¬ (⟨start, []⟩ : Row).Foreign := by
  rintro ⟨_, mem, _⟩
  exact List.not_mem_nil mem

lemma Row.foreign_cons : ({ row with parts := a :: row.parts } : Row).Foreign ↔ a.Foreign ∨ row.Foreign :=
  List.exists_mem_cons_iff _ _ _

lemma Row.foreign_toAst (row : Row) (stop : ℕ) : (row.toAst stop).Foreign ↔ row.Foreign := by
  rw [Row.toAst.eq_def, Row.Foreign]
  split
  · rename_i none
    rw [none]
    exact iff_of_false (Ast.not_foreign_empty _) (Row.not_foreign_nil row.start)
  · rename_i a single
    rw [single]
    simp only [List.mem_singleton, exists_eq_left]
  · rw [Ast.foreign_concat]
    simp only [List.mem_reverse]

lemma foreign_choicesToAst (start stop : ℕ) (done : List Ast) :
    (choicesToAst start stop done).Foreign ↔ ∃ a ∈ done, a.Foreign := by
  rw [choicesToAst.eq_def]
  split
  · simp only [List.mem_singleton, exists_eq_left]
  · rw [Ast.foreign_alternation]
    simp only [List.mem_reverse]

lemma hasForeign_nil : HasForeign [] row ↔ row.Foreign := by
  refine or_iff_left ?_
  rintro ⟨_, mem, _⟩
  exact List.not_mem_nil mem

lemma hasForeign_cons {g : OpenGroup} :
    HasForeign (g :: stack) row ↔ row.Foreign ∨ g.Foreign ∨ ∃ g ∈ stack, g.Foreign := by
  rw [HasForeign, List.exists_mem_cons_iff]

/-- A part that is read goes to the end of the row. -/
lemma hasForeign_part :
    HasForeign stack { row with parts := a :: row.parts } ↔ a.Foreign ∨ HasForeign stack row := by
  rw [HasForeign, Row.foreign_cons, or_assoc, HasForeign]

lemma hasForeign_pushChoice (start pos : ℕ) :
    HasForeign (pushChoice row pos stack) ⟨start, []⟩ ↔ HasForeign stack row := by
  rw [pushChoice.eq_def]
  split
  · rw [hasForeign_cons, hasForeign_cons, or_iff_right (Row.not_foreign_nil _), OpenGroup.Foreign,
      OpenGroup.Foreign, List.exists_mem_cons_iff, Row.foreign_toAst, or_assoc]
  · rw [hasForeign_cons, or_iff_right (Row.not_foreign_nil _), HasForeign, OpenGroup.Foreign]
    simp only [List.mem_singleton, exists_eq_left, Row.foreign_toAst]

lemma hasForeign_closeGroup {closed : List OpenGroup × Row} (h : closeGroup stack row c = .ok closed) :
    HasForeign closed.1 closed.2 ↔ HasForeign stack row := by
  rw [closeGroup.eq_def] at h
  dsimp only at h
  split at h
  · cases h
    rw [hasForeign_part, Ast.foreign_group, Row.foreign_toAst, hasForeign_cons, OpenGroup.Foreign, HasForeign]
  · cases h
    rw [hasForeign_part, Ast.foreign_group, foreign_choicesToAst, List.exists_mem_cons_iff, Row.foreign_toAst,
      hasForeign_cons, List.exists_mem_cons_iff, OpenGroup.Foreign, OpenGroup.Foreign, HasForeign, or_assoc]
  · cases h

lemma foreign_closePattern {pos : ℕ} (h : closePattern stack row pos = .ok a) :
    a.Foreign ↔ HasForeign stack row := by
  rw [closePattern.eq_def] at h
  split at h
  · cases h
    rw [Row.foreign_toAst, hasForeign_nil]
  · cases h
    rw [foreign_choicesToAst, List.exists_mem_cons_iff, Row.foreign_toAst, HasForeign]
    simp only [List.mem_singleton, exists_eq_left, OpenGroup.Foreign]
  all_goals cases h

/-! ### Repetitions -/

/-- A repetition is as foreign as what it repeats. -/
lemma Row.foreign_repeated {rest : List Ast} (h : repeated row c = .ok (a, rest)) (span : Span) (min : ℕ)
    (max : Option ℕ) (greedy : Bool) :
    ({ row with parts := .repetition span min max greedy a :: rest } : Row).Foreign ↔ row.Foreign := by
  rw [Row.Foreign, Row.Foreign, parts_of_repeated h, List.exists_mem_cons_iff, List.exists_mem_cons_iff,
    Ast.foreign_repetition]

variable {row' : Row}

lemma foreign_repeatBySign {min : ℕ} {max : Option ℕ} (h : repeatBySign row c min max = .ok (row', c')) :
    row'.Foreign ↔ row.Foreign := by
  rw [repeatBySign] at h
  obtain ⟨⟨a, rest⟩, last, done⟩ := bind_eq_ok.mp h
  cases done
  exact Row.foreign_repeated last _ _ _ _

lemma foreign_repeatByCount (h : repeatByCount row c = .ok (row', c')) : row'.Foreign ↔ row.Foreign := by
  rw [repeatByCount] at h
  obtain ⟨⟨a, rest⟩, last, h⟩ := bind_eq_ok.mp h
  obtain ⟨⟨⟨min, max⟩, c₂⟩, _, h⟩ := bind_eq_ok.mp h
  dsimp only at h
  split at h
  · split at h
    · cases h
      exact Row.foreign_repeated last _ _ _ _
    · cases h
  · cases h

lemma Cursor.next_passes {char : Char} {t : List Char} (h : c.rest = char :: t) (plain : IsPlain char) :
    Passes c.rest c.next.rest := by
  rw [Cursor.next_rest h, h]
  exact passes_plain plain t

lemma lazyMark_passes (c : Cursor) : Passes c.rest (lazyMark c).2.rest := by
  rw [lazyMark]
  split
  · rename_i t mark
    exact Cursor.next_passes mark (by decide)
  · exact .refl _

lemma repeatBySign_passes {min : ℕ} {max : Option ℕ} (h : repeatBySign row c min max = .ok (row', c')) :
    Passes c.next.rest c'.rest := by
  rw [repeatBySign] at h
  obtain ⟨_, _, done⟩ := bind_eq_ok.mp h
  cases done
  exact lazyMark_passes c.next

/-- A class of characters without those that mean something to the search. -/
lemma takeWhile_passes {p : Char → Bool} (plain : p '\\' = false ∧ p '[' = false ∧ p '(' = false) (c : Cursor) :
    Passes c.rest (c.takeWhile p).2.rest := by
  refine passes_dropWhile (fun char holds => ?_) c.rest
  have ne {other : Char} (without : p other = false) : char ≠ other := by
    rintro rfl
    exact absurd (holds.symm.trans without) (by decide)
  exact ⟨ne plain.1, ne plain.2.1, ne plain.2.2⟩

lemma afterDecimal_passes (c : Cursor) : Passes c.rest (afterDecimal c).rest :=
  (takeWhile_passes (by decide) c).trans
    ((takeWhile_passes (by decide) _).trans (takeWhile_passes (by decide) _))

lemma parseDecimal_passes {n : ℕ} (h : parseDecimal c = .ok (n, c')) : Passes c.rest c'.rest := by
  rw [parseDecimal] at h
  dsimp only at h
  split at h
  · cases h
  · split at h
    · cases h
      exact afterDecimal_passes c
    · cases h

lemma parseBounds_passes {start : ℕ} {bounds : ℕ × Option ℕ} (h : parseBounds start c = .ok (bounds, c')) :
    Passes c.rest c'.rest := by
  rw [parseBounds] at h
  split at h
  · cases h
  have first := afterDecimal_passes c
  dsimp only at h
  split at h
  · cases h
  · rename_i t comma
    refine first.trans ((Cursor.next_passes comma (by decide)).trans ?_)
    split at h
    · cases h
    · obtain ⟨_, _, done⟩ := bind_eq_ok.mp h
      cases done
      exact .refl _
    · obtain ⟨_, _, h⟩ := bind_eq_ok.mp h
      obtain ⟨⟨max, c₂⟩, read, done⟩ := bind_eq_ok.mp h
      cases done
      exact parseDecimal_passes read
  · obtain ⟨_, _, done⟩ := bind_eq_ok.mp h
    cases done
    exact first

lemma repeatByCount_passes (h : repeatByCount row c = .ok (row', c')) : Passes c.next.rest c'.rest := by
  rw [repeatByCount] at h
  obtain ⟨_, _, h⟩ := bind_eq_ok.mp h
  obtain ⟨⟨⟨min, max⟩, c₂⟩, bounds, h⟩ := bind_eq_ok.mp h
  dsimp only at h
  split at h
  · rename_i t brace
    split at h
    · cases h
      have behind := Cursor.next_passes brace (by decide)
      exact (parseBounds_passes bounds).trans (behind.trans (lazyMark_passes c₂.next))
    · cases h
  · cases h

/-! ### Openings -/

lemma parseFlags_passes {fuel : ℕ} {seen : List (FlagItem × Span)} {items : List FlagItem}
    (h : parseFlags fuel seen c = .ok (items, c')) : Passes c.rest c'.rest := by
  induction fuel generalizing seen c with
  | zero => cases h
  | succ fuel ih =>
    rw [parseFlags.eq_def] at h
    dsimp only at h
    split at h
    · cases h
    · rename_i char t head
      split at h
      · split at h
        · cases h
        · cases h
          exact .refl _
      · split at h
        · cases h
        · rename_i item known
          split at h
          · cases h
          · have plain : IsPlain char := by
              split at known
              · rename_i hyphen
                rw [hyphen]
                decide
              · obtain ⟨flag, letter, _⟩ := Option.map_eq_some_iff.mp known
                rw [flagOf?.eq_def] at letter
                split at letter <;> cases letter <;> decide
            exact (Cursor.next_passes head plain).trans (ih h)

lemma parseGroupName_behind {start fuel : ℕ} {name : List Char} {named : String × Span}
    (h : parseGroupName start fuel name c = .ok (named, c')) : c'.rest = behindName c.rest := by
  induction fuel generalizing name c with
  | zero => cases h
  | succ fuel ih =>
    rw [parseGroupName] at h
    split at h
    · cases h
    · rename_i char t head
      split at h
      · rename_i closing
        split at h
        · cases h
        · cases h
          rw [Cursor.next_rest head, head, closing]
          rfl
      · rename_i notClosing
        have goes : behindName c.rest = behindName c.next.rest := by
          have other : decide (char ≠ '>') = true := decide_eq_true notClosing
          rw [Cursor.next_rest head, head, behindName, behindName, List.dropWhile_cons, if_pos other]
        rw [goes]
        -- one more character of the name, which may be the first one
        split at h
        · split at h
          · exact ih h
          · cases h
        · split at h
          · exact ih h
          · cases h

/-- What stands behind the opening of a group, and behind its name if it has one, is searched as such. -/
lemma parseOpening_passes {t : List Char} (paren : c.rest = '(' :: t) {opening : Opening}
    (h : parseOpening c = .ok (opening, c')) : Passes (behindParen t) c'.rest := by
  have inside : c.next.rest = t := Cursor.next_rest paren
  rw [parseOpening] at h
  dsimp only at h
  split at h
  · cases h
  · split at h
    · rename_i t' mark
      obtain ⟨⟨name, c₂⟩, read, done⟩ := bind_eq_ok.mp h
      cases done
      have start : c.next.next.next.next.rest = t' := by
        rw [Cursor.next_rest (Cursor.next_rest (Cursor.next_rest mark))]
      rw [← inside, mark, parseGroupName_behind read, start]
      exact .refl _
    · rename_i t' mark
      obtain ⟨⟨name, c₂⟩, read, done⟩ := bind_eq_ok.mp h
      cases done
      have start : c.next.next.next.rest = t' := by rw [Cursor.next_rest (Cursor.next_rest mark)]
      rw [← inside, mark, parseGroupName_behind read, start]
      exact .refl _
    · cases h
    · rename_i t' notNamedP notNamed _ mark
      obtain ⟨⟨items, c₂⟩, read, h⟩ := bind_eq_ok.mp h
      have unnamed : behindParen t = '?' :: t' := by
        rw [← inside, mark]
        exact behindParen_unnamed notNamedP notNamed
      obtain ⟨stop, t'', rest, closing, _⟩ := parseFlags_closed read
      have closed : c'.rest = t'' := by
        rw [← Cursor.next_rest rest]
        dsimp only at h
        split at h
        · split at h <;> cases h
          rfl
        · cases h
          rfl
      have plain : IsPlain stop := by rcases closing with rfl | rfl <;> decide
      have flags := parseFlags_passes read
      rw [Cursor.next_rest mark, rest] at flags
      rw [unnamed, closed]
      exact (passes_plain (by decide) t').trans (flags.trans (passes_plain plain t''))
    · rename_i capture
      cases h
      have unnamed : behindParen t = t := by
        rw [behindParen.eq_def]
        split <;> simp_all
      rw [unnamed, inside]
      exact .refl _

/-! ### The parser at work -/

/-- The parser has read something foreign, or there is foreign syntax in what is left of the pattern. -/
def Progress.Foreign (p : Progress) : Prop :=
  HasForeign p.stack p.row ∨ outside p.cursor.rest = true

variable {p p' : Progress} {char : Char} {t : List Char}

/-- A reader that keeps what is foreign and leaves all that the search has in front of it. -/
lemma Progress.foreign_of_passes {u : List Char} (names : List (String × Span))
    (shorter : u.length < p.cursor.rest.length) (search : outside p.cursor.rest = outside u)
    (behind : Passes u c.rest) (read : HasForeign stack row ↔ HasForeign p.stack p.row) :
    c.rest.length < p.cursor.rest.length ∧ (Progress.Foreign ⟨stack, row, names, c⟩ ↔ p.Foreign) := by
  refine ⟨Nat.lt_of_le_of_lt behind.2 shorter, ?_⟩
  rw [Progress.Foreign, Progress.Foreign, read, search, behind.1]

/-- A reader of one expression, which is foreign if the search has something foreign less behind it. -/
lemma Progress.foreign_of_part (names : List (String × Span)) (shorter : c.rest.length < p.cursor.rest.length)
    (part : a.Foreign ∨ outside c.rest = true ↔ outside p.cursor.rest = true) :
    c.rest.length < p.cursor.rest.length ∧
      (Progress.Foreign ⟨p.stack, { p.row with parts := a :: p.row.parts }, names, c⟩ ↔ p.Foreign) := by
  refine ⟨shorter, ?_⟩
  rw [Progress.Foreign, Progress.Foreign, ← part, hasForeign_part, or_assoc, or_left_comm]

lemma openGroup_foreign (paren : p.cursor.rest = '(' :: t) (h : openGroup p = .ok p') :
    p'.cursor.rest.length < p.cursor.rest.length ∧ (p'.Foreign ↔ p.Foreign) := by
  rw [openGroup] at h
  obtain ⟨⟨opening, c⟩, read, h⟩ := bind_eq_ok.mp h
  have behind := parseOpening_passes paren read
  have search : outside p.cursor.rest = outside (behindParen t) := by
    rw [paren, outside, if_neg (by decide), if_neg (by decide), if_pos rfl]
  have shorter : (behindParen t).length < p.cursor.rest.length := by
    rw [paren]
    exact Nat.lt_succ_of_le (behindParen_length t)
  cases opening with
  | flags span items =>
    cases h
    refine Progress.foreign_of_passes _ shorter search behind ?_
    rw [hasForeign_part, or_iff_right (Ast.not_foreign_flags span items)]
  | group kind name =>
    have inner (names : List (String × Span)) :
        c.rest.length < p.cursor.rest.length ∧
          (Progress.Foreign ⟨.group p.row p.cursor.charSpan kind :: p.stack, ⟨c.pos, []⟩, names, c⟩ ↔
            p.Foreign) := by
      refine Progress.foreign_of_passes _ shorter search behind ?_
      rw [hasForeign_cons, or_iff_right (Row.not_foreign_nil _), OpenGroup.Foreign, HasForeign]
    dsimp only at h
    split at h
    · cases h
      exact inner _
    · split at h
      · cases h
      · cases h
        exact inner _

/-- An escape outside brackets. -/
lemma escape_foreign {q : Primitive} (backslash : c.rest = '\\' :: t) (h : parseEscape c = .ok (q, c')) :
    c'.rest.length < c.rest.length ∧ (q.Foreign ∨ outside c'.rest = true ↔ outside c.rest = true) := by
  obtain ⟨letter, t', same, behind⟩ := parseEscape_behind h
  rw [Cursor.next_rest backslash] at same
  subst same
  have reads := parseEscape_reads backslash h
  refine ⟨?_, ?_⟩
  · have := behind.suffix.length_le
    rw [backslash, List.length_cons, List.length_cons]
    omega
  · have search : outside c.rest = (escape letter t' || outside (behindEscape letter t')) := by
      rw [backslash, outside, if_pos rfl]
      rfl
    rw [search, reads.foreign]
    cases found : escape letter t' with
    | true => simp
    | false => rw [reads.behind found, Bool.false_or, or_iff_right (by decide)]

lemma parsePrimitive_foreign {q : Primitive} (head : c.rest = char :: t) (notParen : char ≠ '(')
    (notBracket : char ≠ '[') (h : parsePrimitive c char = .ok (q, c')) :
    c'.rest.length < c.rest.length ∧ (q.Foreign ∨ outside c'.rest = true ↔ outside c.rest = true) := by
  have single (plain : IsPlain char) (harmless : ¬ q.Foreign) (here : c' = c.next) :
      c'.rest.length < c.rest.length ∧ (q.Foreign ∨ outside c'.rest = true ↔ outside c.rest = true) := by
    rw [here, Cursor.next_rest head, head, outside_plain plain]
    exact ⟨Nat.lt_succ_self _, or_iff_right harmless⟩
  rw [parsePrimitive.eq_def] at h
  split at h
  · exact escape_foreign head h
  · cases h
    exact single (by decide) id rfl
  · cases h
    exact single (by decide) id rfl
  · cases h
    exact single (by decide) id rfl
  · rename_i notBackslash _ _ _
    cases h
    exact single ⟨notBackslash, notBracket, notParen⟩ (Literal.not_foreign (.inl rfl)) rfl

/-- **One part of a pattern.** It takes at least one character, and there is something foreign in what has been
read or in what is left of the pattern afterwards exactly if there was before.

**Proof sketch.** One case for each character that a part can start with. Escapes and brackets go from what is
left to what has been read; every other part takes characters that are nothing to the search. -/
theorem parsePart_foreign (head : p.cursor.rest = char :: t) (h : parsePart p char = .ok p') :
    p'.cursor.rest.length < p.cursor.rest.length ∧ (p'.Foreign ↔ p.Foreign) := by
  have next : p.cursor.next.rest = t := Cursor.next_rest head
  have shorter : t.length < p.cursor.rest.length := by
    rw [head]
    exact Nat.lt_succ_self _
  have search (plain : IsPlain char) : outside p.cursor.rest = outside t := by
    rw [head, outside_plain plain]
  rw [parsePart.eq_def] at h
  dsimp only at h
  split at h
  · exact openGroup_foreign head h
  · obtain ⟨⟨stack, row⟩, closed, done⟩ := bind_eq_ok.mp h
    cases done
    exact Progress.foreign_of_passes _ shorter (search (by decide)) (next ▸ .refl _) (hasForeign_closeGroup closed)
  · cases h
    exact Progress.foreign_of_passes _ shorter (search (by decide)) (next ▸ .refl _) (hasForeign_pushChoice _ _)
  · obtain ⟨⟨a, c⟩, read, done⟩ := bind_eq_ok.mp h
    cases done
    exact Progress.foreign_of_part _ (parseClass_bracketed read).2.length_le (parseClass_reads head read)
  · obtain ⟨⟨row, c⟩, read, rfl⟩ := map_eq_ok.mp h
    exact Progress.foreign_of_passes _ shorter (search (by decide)) (next ▸ repeatBySign_passes read)
      (or_congr_left (foreign_repeatBySign read))
  · obtain ⟨⟨row, c⟩, read, rfl⟩ := map_eq_ok.mp h
    exact Progress.foreign_of_passes _ shorter (search (by decide)) (next ▸ repeatBySign_passes read)
      (or_congr_left (foreign_repeatBySign read))
  · obtain ⟨⟨row, c⟩, read, rfl⟩ := map_eq_ok.mp h
    exact Progress.foreign_of_passes _ shorter (search (by decide)) (next ▸ repeatBySign_passes read)
      (or_congr_left (foreign_repeatBySign read))
  · obtain ⟨⟨row, c⟩, read, rfl⟩ := map_eq_ok.mp h
    exact Progress.foreign_of_passes _ shorter (search (by decide)) (next ▸ repeatByCount_passes read)
      (or_congr_left (foreign_repeatByCount read))
  · rename_i notParen _ _ notBracket _ _ _ _
    obtain ⟨⟨q, c⟩, read, done⟩ := bind_eq_ok.mp h
    cases done
    obtain ⟨less, piece⟩ := parsePrimitive_foreign head notParen notBracket read
    rw [← Primitive.foreign_toAst] at piece
    exact Progress.foreign_of_part _ less piece

/-- **A whole pattern.** The expression of what is left is foreign exactly if there is something foreign in what
has been read or in what is left.

**Proof sketch.** Induction on the turns of the loop, with `LoadingCheck.Regex.parsePart_foreign` for one. There
are more turns than characters, so the loop ends at the end of the pattern. -/
theorem parseParts_foreign {fuel : ℕ} (bound : p.cursor.rest.length < fuel) (h : parseParts fuel p = .ok a) :
    a.Foreign ↔ p.Foreign := by
  induction fuel generalizing p with
  | zero => exact absurd bound (Nat.not_lt_zero _)
  | succ fuel ih =>
    rw [parseParts] at h
    split at h
    · rename_i done
      rw [foreign_closePattern h, Progress.Foreign, done, outside]
      exact (or_iff_left (by decide)).symm
    · rename_i char t head
      obtain ⟨p', part, rest⟩ := bind_eq_ok.mp h
      obtain ⟨shorter, kept⟩ := parsePart_foreign head part
      rw [ih (by omega) rest, kept]

theorem parse_foreign {pattern : List Char} (h : parse pattern = .ok a) :
    a.Foreign ↔ outside pattern = true := by
  rw [parse] at h
  obtain ⟨a', read, h⟩ := bind_eq_ok.mp h
  obtain ⟨_, _, done⟩ := bind_eq_ok.mp h
  cases done
  rw [parseParts_foreign (Nat.lt_succ_self _) read, Progress.Foreign, hasForeign_nil]
  exact or_iff_right (Row.not_foreign_nil 0)

end Regex

/-! ### Accepted patterns -/

namespace ClassPattern

/-- The text of a pattern is read as an expression, and the pattern means what this expression does. -/
def Reads (p : ClassPattern) (a : Regex.Ast) : Prop :=
  Regex.parse p.source.toList = .ok a ∧ a.toExpr = .ok p.expr

lemma exists_reads (p : ClassPattern) : ∃ a, p.Reads a := by
  obtain ⟨a, parsed, meaning, _⟩ := p.readPortably
  exact ⟨a, parsed, meaning⟩

/-- **What a browser reads differently.** A pattern that is accepted is read as an expression with an escape or
with brackets that a browser reads differently exactly if the search finds foreign syntax in its text. So a
pattern means the same in both places, as far as syntax goes, whenever the search finds nothing.

**Proof sketch.** The parser and the search stand at the same places outside brackets, and inside them as long
as nothing is foreign (`LoadingCheck.Regex.parseParts_foreign`). What is foreign goes from what is left of the
pattern to what has been read, and none is lost on the way. -/
theorem foreign_iff_found (p : ClassPattern) :
    ∃ a, p.Reads a ∧ (a.Foreign ↔ Regex.ForeignSearch.outside p.source.toList = true) := by
  obtain ⟨a, reads⟩ := p.exists_reads
  exact ⟨a, reads, Regex.parse_foreign reads.1⟩

/-- A text is accepted as a pattern and read as an expression that a browser reads differently. -/
def AcceptsForeign (source : String) : Prop :=
  ∃ p a, ofString source = .ok p ∧ p.Reads a ∧ a.Foreign

lemma acceptsForeign_of {source : String} (h : (ofString source).isOk = true)
    (found : Regex.ForeignSearch.outside source.toList = true) : AcceptsForeign source := by
  obtain ⟨p, accepted⟩ := exists_ok h
  obtain ⟨a, reads⟩ := p.exists_reads
  rw [← source_of_ofString accepted] at found
  exact ⟨p, a, accepted, reads, (Regex.parse_foreign reads.1).mpr found⟩

/-- The ends of the text, a bell, a code point in braces, a special edge of a word, a named class and brackets
inside brackets are all accepted. -/
theorem foreign_accepted :
    AcceptsForeign "\\Aloading" ∧ AcceptsForeign "loading\\z" ∧ AcceptsForeign "\\aloading" ∧
      AcceptsForeign "\\x\x7b41\x7d" ∧ AcceptsForeign "\\b\x7bstart\x7dloading" ∧
      AcceptsForeign "[[:alpha:]]" ∧ AcceptsForeign "[[a]]" := by
  refine ⟨acceptsForeign_of ?_ ?_, acceptsForeign_of ?_ ?_, acceptsForeign_of ?_ ?_, acceptsForeign_of ?_ ?_,
    acceptsForeign_of ?_ ?_, acceptsForeign_of ?_ ?_, acceptsForeign_of ?_ ?_⟩
  all_goals decide +kernel

end ClassPattern

end LoadingCheck
