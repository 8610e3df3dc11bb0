import LoadingCheck.Proofs.ClassPattern.Escapes
import LoadingCheck.Proofs.Json.Bounds
import LoadingCheck.Proofs.Regex.Forward
import LoadingCheck.Scenario.Codec

set_option relaxedAutoImplicit false
set_option autoImplicit false

/-!
# Groups in accepted patterns

A browser has no groups that set flags, and names a group without a letter in front of the name. The scan of
the bytes of a pattern for such groups is made before the pattern is read, and it knows nothing of the
syntax but escapes. It is enough: an accepted pattern is an expression without such groups.

## Main definitions

* `LoadingCheck.Regex.Ast.Within` — one expression is a part of another one.
* `LoadingCheck.Regex.Ast.Portable` — an expression without groups that a browser lacks.
* `LoadingCheck.Regex.Progress.Clean` — what holds of a parser at work.
* `LoadingCheck.ClassPattern.ReadsPortably` — a text that is read as an expression of this kind.

## Main results

* `LoadingCheck.Regex.parsePart_clean`, `LoadingCheck.Regex.parseParts_portable` — one step of the parser, and
  all of them.
* `LoadingCheck.ClassPattern.portable_of_accepted` — accepted patterns.
-/

namespace LoadingCheck

namespace Regex

open ClassPattern (Leaves leaves_of_suffix not_opens_of_leaves unportableGroup?)

/-! ### Expressions without groups that a browser lacks -/

/-- One expression is a part of another one, at any depth, or all of it. Brackets have no expressions
inside. -/
inductive Ast.Within : Ast → Ast → Prop
  | refl (a : Ast) : Within a a
  | repetition {a inner : Ast} (span : Span) (min : ℕ) (max : Option ℕ) (greedy : Bool)
      (h : Within a inner) : Within a (.repetition span min max greedy inner)
  | group {a inner : Ast} (span : Span) (kind : GroupKind) (h : Within a inner) :
      Within a (.group span kind inner)
  | alternation {a choice : Ast} (span : Span) {choices : List Ast} (mem : choice ∈ choices)
      (h : Within a choice) : Within a (.alternation span choices)
  | concat {a part : Ast} (span : Span) {parts : List Ast} (mem : part ∈ parts) (h : Within a part) :
      Within a (.concat span parts)

/-- A group that a browser has too: its name, if it has one, stands behind `(?<`, and it sets no flags. -/
def GroupKind.Portable : GroupKind → Prop
  | .capture => True
  | .named withP _ => withP = false
  | .plain items => items = []

/-- An expression that sets no flags and, if it is a group, is one that a browser has too. -/
def Ast.OpensPortably : Ast → Prop
  | .flags _ _ => False
  | .group _ kind _ => kind.Portable
  | _ => True

/-- No part of an expression sets flags or is a group that a browser lacks. -/
def Ast.Portable (a : Ast) : Prop :=
  ∀ b : Ast, b.Within a → b.OpensPortably

namespace Ast

lemma portable_repetition {span : Span} {min : ℕ} {max : Option ℕ} {greedy : Bool} {inner : Ast}
    (h : inner.Portable) : (repetition span min max greedy inner).Portable := by
  intro b within
  cases within with
  | refl => trivial
  | repetition _ _ _ _ inside => exact h b inside

lemma portable_group {span : Span} {kind : GroupKind} {inner : Ast} (opening : kind.Portable)
    (h : inner.Portable) : (group span kind inner).Portable := by
  intro b within
  cases within with
  | refl => exact opening
  | group _ _ inside => exact h b inside

lemma portable_alternation {span : Span} {choices : List Ast} (h : ∀ a ∈ choices, a.Portable) :
    (alternation span choices).Portable := by
  intro b within
  cases within with
  | refl => trivial
  | alternation _ mem inside => exact h _ mem b inside

lemma portable_concat {span : Span} {parts : List Ast} (h : ∀ a ∈ parts, a.Portable) :
    (concat span parts).Portable := by
  intro b within
  cases within with
  | refl => trivial
  | concat _ mem inside => exact h _ mem b inside

lemma portable_empty (span : Span) : (empty span).Portable := by
  intro b within
  cases within
  trivial

lemma portable_bracketed (span : Span) (negated : Bool) (set : ClassSet) :
    (bracketed span negated set).Portable := by
  intro b within
  cases within
  trivial

end Ast

lemma Primitive.portable_toAst (p : Primitive) : p.toAst.Portable := by
  intro b within
  cases p <;> cases within <;> trivial

/-! ### What the parser has read so far -/

/-- The expressions of a row are portable. -/
def Row.Portable (r : Row) : Prop :=
  ∀ a ∈ r.parts, a.Portable

/-- What stands before an open group, and the choices that are done, are portable; so is the group. -/
def OpenGroup.Portable : OpenGroup → Prop
  | .group before _ kind => before.Portable ∧ kind.Portable
  | .choices _ done => ∀ a ∈ done, a.Portable

variable {row : Row} {stack : List OpenGroup} {c c' : Cursor}

lemma Row.portable_nil (start : ℕ) : (⟨start, []⟩ : Row).Portable :=
  List.forall_mem_nil _

lemma Row.Portable.cons (h : row.Portable) {a : Ast} (ha : a.Portable) :
    ({ row with parts := a :: row.parts } : Row).Portable :=
  List.forall_mem_cons.mpr ⟨ha, h⟩

lemma Row.Portable.toAst (h : row.Portable) (stop : ℕ) : (row.toAst stop).Portable := by
  rw [Row.toAst.eq_def]
  split
  · exact Ast.portable_empty _
  · rename_i a single
    exact h a (by rw [single]; exact List.mem_singleton_self a)
  · exact Ast.portable_concat fun a mem => h a (List.mem_reverse.mp mem)

lemma portable_choicesToAst {start stop : ℕ} {done : List Ast} (h : ∀ a ∈ done, a.Portable) :
    (choicesToAst start stop done).Portable := by
  rw [choicesToAst.eq_def]
  split
  · rename_i a
    exact h a (List.mem_singleton_self a)
  · exact Ast.portable_alternation fun a mem => h a (List.mem_reverse.mp mem)

lemma portable_pushChoice (hr : row.Portable) (hs : ∀ g ∈ stack, g.Portable) (pos : ℕ) :
    ∀ g ∈ pushChoice row pos stack, g.Portable := by
  rw [pushChoice.eq_def]
  split
  · rw [List.forall_mem_cons] at hs ⊢
    exact ⟨List.forall_mem_cons.mpr ⟨hr.toAst pos, hs.1⟩, hs.2⟩
  · refine List.forall_mem_cons.mpr ⟨?_, hs⟩
    exact List.forall_mem_singleton.mpr (hr.toAst pos)

lemma portable_closeGroup (hr : row.Portable) (hs : ∀ g ∈ stack, g.Portable)
    {closed : List OpenGroup × Row} (h : closeGroup stack row c = .ok closed) :
    (∀ g ∈ closed.1, g.Portable) ∧ closed.2.Portable := by
  rw [closeGroup.eq_def] at h
  dsimp only at h
  split at h
  · rw [List.forall_mem_cons] at hs
    obtain ⟨⟨before, kind⟩, rest⟩ := hs
    cases h
    exact ⟨rest, before.cons (Ast.portable_group kind (hr.toAst _))⟩
  · rw [List.forall_mem_cons, List.forall_mem_cons] at hs
    obtain ⟨done, ⟨before, kind⟩, rest⟩ := hs
    cases h
    refine ⟨rest, before.cons (Ast.portable_group kind ?_)⟩
    exact portable_choicesToAst (List.forall_mem_cons.mpr ⟨hr.toAst c.pos, done⟩)
  · cases h

lemma portable_closePattern (hr : row.Portable) (hs : ∀ g ∈ stack, g.Portable) {pos : ℕ} {a : Ast}
    (h : closePattern stack row pos = .ok a) : a.Portable := by
  rw [closePattern.eq_def] at h
  split at h
  · cases h
    exact hr.toAst pos
  · cases h
    exact portable_choicesToAst (List.forall_mem_cons.mpr ⟨hr.toAst pos, List.forall_mem_singleton.mp hs⟩)
  all_goals cases h

/-! ### Repetitions -/

lemma parts_of_repeated {a : Ast} {rest : List Ast} (h : repeated row c = .ok (a, rest)) :
    row.parts = a :: rest := by
  rw [repeated.eq_def] at h
  split at h
  · cases h
  · cases h
  · cases h
  · rename_i parts
    cases h
    exact parts

/-- A row whose last expression is repeated. -/
lemma Row.Portable.repeated (hr : row.Portable) {a : Ast} {rest : List Ast}
    (h : repeated row c = .ok (a, rest)) (span : Span) (min : ℕ) (max : Option ℕ) (greedy : Bool) :
    ({ row with parts := .repetition span min max greedy a :: rest } : Row).Portable := by
  rw [Row.Portable, parts_of_repeated h, List.forall_mem_cons] at hr
  exact List.forall_mem_cons.mpr ⟨Ast.portable_repetition hr.1, hr.2⟩

variable {row' : Row}

lemma portable_repeatBySign (hr : row.Portable) {min : ℕ} {max : Option ℕ}
    (h : repeatBySign row c min max = .ok (row', c')) : row'.Portable := by
  rw [repeatBySign] at h
  obtain ⟨⟨a, rest⟩, last, done⟩ := bind_eq_ok.mp h
  cases done
  exact hr.repeated last _ _ _ _

lemma portable_repeatByCount (hr : row.Portable) (h : repeatByCount row c = .ok (row', c')) :
    row'.Portable := by
  rw [repeatByCount] at h
  obtain ⟨⟨a, rest⟩, last, h⟩ := bind_eq_ok.mp h
  obtain ⟨⟨⟨min, max⟩, c₂⟩, _, h⟩ := bind_eq_ok.mp h
  dsimp only at h
  split at h
  · split at h
    · cases h
      exact hr.repeated last _ _ _ _
    · cases h
  · cases h

/-! ### Openings -/

/-- What an opening parenthesis starts, if it is no flags and no group that a browser lacks. -/
def Opening.Portable : Opening → Prop
  | .flags _ _ => False
  | .group kind _ => kind.Portable

section

variable {source : String}

/-- An opening that the parser comes to is read as one that a browser has too, since the scan has seen it. -/
theorem portable_parseOpening (clean : unportableGroup? source = none)
    (here : Leaves source.toList c.rest) {t : List Char} (paren : c.rest = '(' :: t) {opening : Opening}
    (h : parseOpening c = .ok (opening, c')) : opening.Portable := by
  rw [paren] at here
  have inside : c.next.rest = t := Cursor.next_rest paren
  rw [parseOpening] at h
  dsimp only at h
  split at h
  · cases h
  · split at h
    · rename_i t' mark
      rw [← inside, mark] at here
      have letter := (not_opens_of_leaves clean here).1
      exact absurd letter (by decide)
    · obtain ⟨⟨name, c₂⟩, _, done⟩ := bind_eq_ok.mp h
      cases done
      rfl
    · cases h
    · rename_i t' _ _ _ mark
      obtain ⟨⟨items, c₂⟩, read, h⟩ := bind_eq_ok.mp h
      have none : items = [] := by
        by_contra nonempty
        obtain ⟨char, t'', first, sign⟩ := parseFlags_first read nonempty
        rw [Cursor.next_rest mark] at first
        rw [← inside, mark, first] at here
        obtain ⟨noLetter, noHyphen⟩ := not_opens_of_leaves clean here
        rcases sign with letter | hyphen
        · exact absurd letter (by rw [noLetter]; decide)
        · exact noHyphen hyphen
      dsimp only at h
      split at h
      · rw [if_pos none] at h
        cases h
      · cases h
        exact none
    · cases h
      trivial

/-! ### The parser at work -/

/-- What holds of a parser at work on a text: what it has read is portable, and the next character is not
escaped. -/
structure Progress.Clean (source : String) (p : Progress) : Prop where
  here : Leaves source.toList p.cursor.rest
  row : p.row.Portable
  stack : ∀ g ∈ p.stack, g.Portable

variable {p p' : Progress}

/-- A reader that leaves the stack alone keeps what is known if what it leaves to read is not escaped and the
row stays portable. -/
lemma Progress.Clean.put (hp : p.Clean source) (behind : Leaves p.cursor.rest c.rest)
    (portable : row.Portable) : Progress.Clean source { p with row := row, cursor := c } :=
  ⟨hp.here.trans behind, portable, hp.stack⟩

lemma openGroup_clean (clean : unportableGroup? source = none) (hp : p.Clean source) {t : List Char}
    (paren : p.cursor.rest = '(' :: t) (h : openGroup p = .ok p') : p'.Clean source := by
  rw [openGroup] at h
  obtain ⟨⟨opening, c⟩, read, h⟩ := bind_eq_ok.mp h
  have portable := portable_parseOpening clean hp.here paren read
  have behind := hp.here.trans (parseOpening_leaves paren read)
  cases opening with
  | flags span items => exact portable.elim
  | group kind name =>
    have inner (names : List (String × Span)) :
        Progress.Clean source ⟨.group p.row p.cursor.charSpan kind :: p.stack, ⟨c.pos, []⟩, names, c⟩ :=
      ⟨behind, Row.portable_nil _, List.forall_mem_cons.mpr ⟨⟨hp.row, portable⟩, hp.stack⟩⟩
    dsimp only at h
    split at h
    · cases h
      exact inner _
    · split at h
      · cases h
      · cases h
        exact inner _

/-- **One part of a pattern.** What holds of the parser before it reads a part holds behind it.

**Proof sketch.** One case for each character that a part can start with. What a part leaves to read is not
escaped, by what is known of its reader, and what it adds to the row or the stack is portable; an opening
parenthesis is the one case that needs the scan. -/
theorem parsePart_clean (clean : unportableGroup? source = none) (hp : p.Clean source) {char : Char}
    {t : List Char} (head : p.cursor.rest = char :: t) (h : parsePart p char = .ok p') :
    p'.Clean source := by
  rw [parsePart.eq_def] at h
  dsimp only at h
  split at h
  · exact openGroup_clean clean hp head h
  · obtain ⟨⟨stack, row⟩, closed, done⟩ := bind_eq_ok.mp h
    cases done
    obtain ⟨open', inner⟩ := portable_closeGroup hp.row hp.stack closed
    exact ⟨hp.here.trans (Cursor.next_leaves head (by decide)), inner, open'⟩
  · cases h
    exact ⟨hp.here.trans (Cursor.next_leaves head (by decide)), Row.portable_nil _,
      portable_pushChoice hp.row hp.stack _⟩
  · obtain ⟨⟨a, c⟩, read, done⟩ := bind_eq_ok.mp h
    cases done
    obtain ⟨⟨span, negated, set, rfl⟩, closed⟩ := parseClass_bracketed read
    exact hp.put (leaves_of_suffix closed (by decide))
      (hp.row.cons (Ast.portable_bracketed span negated set))
  · obtain ⟨⟨row, c⟩, read, rfl⟩ := map_eq_ok.mp h
    exact hp.put (repeatBySign_leaves head (by decide) read) (portable_repeatBySign hp.row read)
  · obtain ⟨⟨row, c⟩, read, rfl⟩ := map_eq_ok.mp h
    exact hp.put (repeatBySign_leaves head (by decide) read) (portable_repeatBySign hp.row read)
  · obtain ⟨⟨row, c⟩, read, rfl⟩ := map_eq_ok.mp h
    exact hp.put (repeatBySign_leaves head (by decide) read) (portable_repeatBySign hp.row read)
  · obtain ⟨⟨row, c⟩, read, rfl⟩ := map_eq_ok.mp h
    exact hp.put (repeatByCount_leaves read) (portable_repeatByCount hp.row read)
  · obtain ⟨⟨a, c⟩, read, done⟩ := bind_eq_ok.mp h
    cases done
    exact hp.put (parsePrimitive_leaves head read) (hp.row.cons a.portable_toAst)

/-- **A whole pattern.** From a place where nothing is escaped the parser reads an expression without groups
that a browser lacks.

**Proof sketch.** Induction on the turns of the loop, with `LoadingCheck.Regex.parsePart_clean` for one. -/
theorem parseParts_portable (clean : unportableGroup? source = none) {fuel : ℕ} {a : Ast}
    (hp : p.Clean source) (h : parseParts fuel p = .ok a) : a.Portable := by
  induction fuel generalizing p with
  | zero => exact portable_closePattern hp.row hp.stack h
  | succ fuel ih =>
    rw [parseParts] at h
    split at h
    · exact portable_closePattern hp.row hp.stack h
    · rename_i char t head
      obtain ⟨p', part, rest⟩ := bind_eq_ok.mp h
      exact ih (parsePart_clean clean hp head part) rest

theorem parse_portable (clean : unportableGroup? source = none) {a : Ast}
    (h : parse source.toList = .ok a) : a.Portable := by
  rw [parse] at h
  obtain ⟨a', read, h⟩ := bind_eq_ok.mp h
  obtain ⟨_, _, done⟩ := bind_eq_ok.mp h
  cases done
  exact parseParts_portable clean ⟨Leaves.refl _, Row.portable_nil 0, List.forall_mem_nil _⟩ read

end

end Regex

/-! ### Accepted patterns -/

/-- The pattern of a step, if it has one. -/
def Step.pattern? : Step → Option ClassPattern
  | .assertClass _ pattern => some pattern
  | _ => none

/-- The patterns of a scenario. -/
def Scenario.patterns (s : Scenario) : List ClassPattern :=
  s.steps.filterMap Step.pattern?

namespace ClassPattern

/-- The text of a pattern is read as an expression without groups that a browser lacks, and the pattern
means what this expression does. -/
def ReadPortably (p : ClassPattern) : Prop :=
  ∃ a, Regex.parse p.source.toList = .ok a ∧ a.toExpr = .ok p.expr ∧ a.Portable

theorem readPortably (p : ClassPattern) : p.ReadPortably := by
  have compiled := p.compile_source
  rw [compile] at compiled
  split at compiled
  · cases compiled
  · split at compiled
    · cases compiled
    · rename_i clean
      split at compiled
      · cases compiled
      · rename_i expr read
        split at compiled
        · cases compiled
          obtain ⟨a, parsed, meaning⟩ := bind_eq_ok.mp read
          exact ⟨a, parsed, meaning, Regex.parse_portable clean parsed⟩
        · cases compiled

lemma source_of_ofString {source : String} {p : ClassPattern} (h : ofString source = .ok p) :
    p.source = source := by
  rw [ofString] at h
  split at h <;> cases h
  rfl

/-- A pattern is decoded from its text. -/
lemma string_of_decoder {source : Json.Source} {v : Json.Outline} {p : ClassPattern}
    (h : decoder source v = .ok p) : Json.Decoder.string source v = .ok p.source := by
  rw [decoder] at h
  obtain ⟨s, text, h⟩ := bind_eq_ok.mp h
  split at h
  · rename_i pattern accepted
    cases h
    rw [text, source_of_ofString accepted]
  · cases h

/-- **No group that a browser lacks gets past the scan.** A text that is accepted as a pattern is read as an
expression in which no part, at any depth, sets flags, carries flags or is named with a letter in front of
its name. So are the patterns of a check of the loading state, and the patterns of steps and scenarios that
were decoded, from a text or from a value and in whatever form.

**Proof sketch.** The scan and the parser agree about escapes wherever the parser starts to read a part of the
pattern (`LoadingCheck.Regex.Progress.Clean`), so the scan has looked at each parenthesis that the parser
opens a group for. A pattern keeps that its text was accepted, however it came about. -/
theorem portable_of_accepted :
    (∀ source p, ofString source = .ok p → p.source = source ∧ p.ReadPortably) ∧
    (∀ options scenario, Scenario.loadingState options = .ok scenario →
      ∀ p ∈ scenario.patterns, p.source = options.classPattern ∧ p.ReadPortably) ∧
    (∀ source v p, decoder source v = .ok p →
      ∃ s, Json.Decoder.string source v = .ok s ∧ p.source = s ∧ p.ReadPortably) ∧
    (∀ source v step, Step.decoder source v = .ok step → ∀ p ∈ step.pattern?, p.ReadPortably) ∧
    (∀ source v scenario, Scenario.decoder source v = .ok scenario →
      ∀ p ∈ scenario.patterns, p.ReadPortably) := by
  refine ⟨fun source p accepted => ⟨source_of_ofString accepted, p.readPortably⟩, ?_, ?_,
    fun _ _ _ _ p _ => p.readPortably, fun _ _ _ _ p _ => p.readPortably⟩
  · intro options scenario built p mem
    rw [Scenario.loadingState] at built
    obtain ⟨pattern, accepted, done⟩ := bind_eq_ok.mp built
    cases done
    have same : pattern = p := by simpa [Scenario.patterns, Scenario.loadingSteps, Step.pattern?] using mem
    rw [← same]
    exact ⟨source_of_ofString accepted, pattern.readPortably⟩
  · intro source v p decoded
    exact ⟨p.source, string_of_decoder decoded, rfl, p.readPortably⟩

/-- A pattern with a group, and with an escaped parenthesis before a question mark and a letter. -/
def escapedSource : String :=
  "(?:btn )?\\(?loading"

/-- A step that checks for this pattern, as a JSON value. -/
def escapedStep : Json :=
  .object
    [("action", .string "assert_class"),
      ("target", .object [("role", .string "button"), ("name", .string "Save")]),
      ("pattern", .string escapedSource)]

/-- A scenario of this step, as a JSON value. -/
def escapedScenario : Json :=
  .object
    [("name", .string "save"), ("steps", .array [escapedStep]),
      ("screenshot", .object [("path", .string "shot.png")])]

/-- The pattern is accepted directly, for a check of the loading state, and in a step and a scenario that are
decoded, and its parenthesis is no group. -/
theorem portable_escaped :
    (∃ p, ofString escapedSource = .ok p ∧ p.ReadPortably) ∧
    (∃ scenario, Scenario.loadingState { classPattern := escapedSource } = .ok scenario ∧
      ∀ p ∈ scenario.patterns, p.source = escapedSource ∧ p.ReadPortably) ∧
    (∃ p, decoder .value (.ofJson (.string escapedSource)) = .ok p ∧ p.ReadPortably) ∧
    (∃ step, Step.decoder .value (.ofJson escapedStep) = .ok step ∧
      ∀ p ∈ step.pattern?, p.ReadPortably) ∧
    (∃ scenario, Scenario.decoder .value (.ofJson escapedScenario) = .ok scenario ∧
      ∀ p ∈ scenario.patterns, p.ReadPortably) := by
  obtain ⟨direct, built, single, inStep, inScenario⟩ := portable_of_accepted
  obtain ⟨p, accepted⟩ := exists_ok (x := ofString escapedSource) (by decide)
  obtain ⟨s, chosen⟩ :=
    exists_ok (x := Scenario.loadingState { classPattern := escapedSource }) (by decide)
  obtain ⟨q, alone⟩ := exists_ok (x := decoder .value (.ofJson (.string escapedSource))) (by decide)
  obtain ⟨step, decoded⟩ := exists_ok (x := Step.decoder .value (.ofJson escapedStep)) (by decide)
  obtain ⟨t, loaded⟩ :=
    exists_ok (x := Scenario.decoder .value (.ofJson escapedScenario)) (by decide)
  obtain ⟨_, _, _, portable⟩ := single _ _ q alone
  exact ⟨⟨p, accepted, (direct _ p accepted).2⟩, ⟨s, chosen, built _ s chosen⟩, ⟨q, alone, portable⟩,
    ⟨step, decoded, inStep _ _ step decoded⟩, ⟨t, loaded, inScenario _ _ t loaded⟩⟩

end ClassPattern

end LoadingCheck
