import LoadingCheck.Proofs.ClassPattern.Portable

set_option relaxedAutoImplicit false
set_option autoImplicit false

/-!
# Escapes and brackets that a browser reads differently

A browser reads a pattern without the syntax that is only known here. Some escapes are plain letters to it, or
letters that are repeated, and inside brackets an opening bracket, a doubled sign and a closing bracket at the
start are characters like others or end the brackets. It also reads a pattern in units of sixteen bits.

Only the syntax counts: a browser has `\d`, `\s`, `\w`, `\b` and their complements too, though not for the same
characters.

## Main definitions

* `LoadingCheck.Regex.ClassItem.Foreign`, `LoadingCheck.Regex.ClassSet.Foreign` — the inside of brackets.
* `LoadingCheck.Regex.ItemRow.Foreign` — what has been read of it.
* `LoadingCheck.Regex.Ast.Foreign` — expressions with a foreign part at some depth.

## Main results

* `LoadingCheck.Regex.Ast.foreign_group` and its neighbours — an expression is foreign if a part of it is.
* `LoadingCheck.Regex.ItemRow.foreign_push` — what one more item inside brackets changes.
-/

namespace LoadingCheck.Regex

/-! ### Literals and assertions -/

/-- A code point in braces or of eight digits, and `\a`, are letters to a browser. -/
def Literal.Foreign (l : Literal) : Prop :=
  l.kind = .hexBrace ∨ (l.kind = .hexFixed ∧ l.span.stop = l.span.start + 10) ∨
    (l.kind = .special ∧ l.char = '\x07')

/-- A browser reads a character in the same way if it is written as such, or behind a backslash. -/
lemma Literal.not_foreign {l : Literal}
    (h : l.kind = .verbatim ∨ l.kind = .escaped ∨ l.kind = .superfluous) : ¬ l.Foreign := by
  rintro (kind | ⟨kind, _⟩ | ⟨kind, _⟩) <;> simp [kind] at h

/-- Inside brackets a closing bracket ends them for a browser, and a character of more than sixteen bits
is two. -/
def Literal.ForeignInside (l : Literal) : Prop :=
  l.Foreign ∨ (l.kind = .verbatim ∧ (l.char = ']' ∨ 0xFFFF < l.char.toNat))

/-- A browser knows the ends of a line and the edges of words. The other assertions are letters to it, or
angle brackets, or an edge of a word with a text in braces behind it. -/
def Assertion.Foreign : Assertion → Prop
  | .startLine | .endLine | .wordBoundary | .notWordBoundary => False
  | _ => True

/-- A piece of an expression that is foreign outside brackets. -/
def Primitive.Foreign : Primitive → Prop
  | .literal l => l.Foreign
  | .assertion _ kind => kind.Foreign
  | .property _ => True
  | .dot _ | .shorthand _ => False

/-- A piece of an expression that is foreign inside brackets. -/
def Primitive.ForeignInside : Primitive → Prop
  | .literal l => l.ForeignInside
  | p => p.Foreign

/-! ### The inside of brackets -/

/-- A hyphen that is written as such. -/
def ClassItem.IsHyphen (i : ClassItem) : Prop :=
  ∃ span, i = .literal ⟨span, .verbatim, '-'⟩

/-- Items that start with two hyphens and go on, which a browser reads as a range. -/
def HyphenRange : List ClassItem → Prop
  | first :: second :: _ :: _ => first.IsHyphen ∧ second.IsHyphen
  | _ => False

/-- An item inside brackets that a browser reads differently. It knows characters, ranges and classes such
as `\d`, but no named classes, no properties and no brackets inside. -/
inductive ClassItem.Foreign : ClassItem → Prop
  | literal {l : Literal} (h : l.ForeignInside) : Foreign (.literal l)
  | first (span : Span) {low : Literal} (high : Literal) (h : low.ForeignInside) :
      Foreign (.range span low high)
  | last (span : Span) (low : Literal) {high : Literal} (h : high.ForeignInside) :
      Foreign (.range span low high)
  | ascii (cls : AsciiClass) : Foreign (.ascii cls)
  | property (cls : PropertyClass) : Foreign (.property cls)
  | bracketed (span : Span) (negated : Bool) (set : ClassSet) : Foreign (.bracketed span negated set)
  | item (span : Span) {items : List ClassItem} {i : ClassItem} (mem : i ∈ items) (h : i.Foreign) :
      Foreign (.union span items)
  | hyphens (span : Span) {items : List ClassItem} (h : HyphenRange items) : Foreign (.union span items)

/-- A browser has no operations on sets. -/
def ClassSet.Foreign : ClassSet → Prop
  | .item i => i.Foreign
  | .operation _ _ _ _ => True

namespace ClassItem

lemma foreign_literal {l : Literal} : (literal l).Foreign ↔ l.ForeignInside :=
  ⟨fun | .literal h => h, .literal⟩

lemma foreign_range {span : Span} {low high : Literal} :
    (range span low high).Foreign ↔ low.ForeignInside ∨ high.ForeignInside := by
  constructor
  · rintro (_ | ⟨_, _, h⟩ | ⟨_, _, h⟩)
    · exact .inl h
    · exact .inr h
  · rintro (h | h)
    · exact .first span high h
    · exact .last span low h

lemma not_foreign_shorthand (cls : ShorthandClass) : ¬ (shorthand cls).Foreign := nofun

lemma not_foreign_empty (span : Span) : ¬ (empty span).Foreign := nofun

lemma foreign_union {span : Span} {items : List ClassItem} :
    (union span items).Foreign ↔ (∃ i ∈ items, i.Foreign) ∨ HyphenRange items := by
  constructor
  · rintro (_ | _ | _ | _ | _ | _ | ⟨_, mem, h⟩ | ⟨_, h⟩)
    · exact .inl ⟨_, mem, h⟩
    · exact .inr h
  · rintro (⟨i, mem, h⟩ | h)
    · exact .item span mem h
    · exact .hyphens span h

lemma not_foreign_of_isHyphen {i : ClassItem} (h : i.IsHyphen) : ¬ i.Foreign := by
  obtain ⟨span, rfl⟩ := h
  rw [foreign_literal]
  rintro (foreign | ⟨_, closing | wide⟩)
  · exact Literal.not_foreign (.inl rfl) foreign
  · have other : '-' ≠ ']' := by decide
    exact other closing
  · have narrow : ¬ 0xFFFF < '-'.toNat := by decide
    exact narrow wide

end ClassItem

/-- Two hyphens become a range when something follows. -/
lemma hyphenRange_concat {items : List ClassItem} {i : ClassItem} :
    HyphenRange (items ++ [i]) ↔
      HyphenRange items ∨ (items.length = 2 ∧ ∀ j ∈ items, j.IsHyphen) := by
  match items with
  | [] => simp [HyphenRange]
  | [first] => simp [HyphenRange]
  | [first, second] => simp [HyphenRange]
  | first :: second :: third :: rest => simp [HyphenRange]

namespace ItemRow

/-- The items of a row make foreign syntax. -/
def Foreign (r : ItemRow) : Prop :=
  (∃ i ∈ r.items, i.Foreign) ∨ HyphenRange r.items.reverse

/-- There is nothing but hyphens in a row. -/
def OnlyHyphens (r : ItemRow) : Prop :=
  ∀ i ∈ r.items, i.IsHyphen

variable {r : ItemRow} {i : ClassItem}

lemma foreign_toItem : r.toItem.Foreign ↔ r.Foreign := by
  obtain ⟨span, items⟩ := r
  match items with
  | [] => simp [toItem, Foreign, HyphenRange, ClassItem.not_foreign_empty]
  | [i] => simp [toItem, Foreign, HyphenRange]
  | i :: j :: rest => simp [toItem, Foreign, ClassItem.foreign_union, -List.reverse_cons]

/-- **One more item.** A row becomes foreign by a foreign item, and by any item behind two hyphens. -/
lemma foreign_push :
    (r.push i).Foreign ↔ r.Foreign ∨ i.Foreign ∨ (r.items.length = 2 ∧ r.OnlyHyphens) := by
  have hyphens := @hyphenRange_concat r.items.reverse i
  rw [List.length_reverse] at hyphens
  simp only [List.mem_reverse] at hyphens
  rw [Foreign, push, List.reverse_cons, hyphens, Foreign, OnlyHyphens]
  simp only [List.mem_cons, exists_eq_or_imp]
  grind

/-- Hyphens alone are foreign if there are three of them. -/
lemma OnlyHyphens.foreign (h : r.OnlyHyphens) : r.Foreign ↔ 3 ≤ r.items.length := by
  have no : ¬ ∃ i ∈ r.items, i.Foreign := fun ⟨i, mem, foreign⟩ =>
    ClassItem.not_foreign_of_isHyphen (h i mem) foreign
  have all : ∀ i ∈ r.items.reverse, i.IsHyphen := fun i mem => h i (List.mem_reverse.mp mem)
  rw [Foreign, or_iff_right no, ← List.length_reverse]
  match r.items.reverse, all with
  | [], _ => simp [HyphenRange]
  | [_], _ => simp [HyphenRange]
  | [_, _], _ => simp [HyphenRange]
  | first :: second :: _ :: rest, all =>
    exact iff_of_true ⟨all first (by simp), all second (by simp)⟩ (by simp)

lemma onlyHyphens_push : (r.push i).OnlyHyphens ↔ i.IsHyphen ∧ r.OnlyHyphens :=
  List.forall_mem_cons

end ItemRow

/-! ### Expressions -/

/-- An expression that is foreign itself, apart from its parts. -/
def Ast.IsForeign : Ast → Prop
  | .literal l => l.Foreign
  | .assertion _ kind => kind.Foreign
  | .property _ => True
  | .bracketed _ _ set => set.Foreign
  | _ => False

/-- Some part of an expression is an escape, or brackets, that a browser reads differently. -/
def Ast.Foreign (a : Ast) : Prop :=
  ∃ b : Ast, b.Within a ∧ b.IsForeign

namespace Ast

/-- An expression without parts. -/
lemma foreign_of_leaf {a : Ast} (leaf : ∀ b : Ast, b.Within a → b = a) : a.Foreign ↔ a.IsForeign := by
  constructor
  · rintro ⟨b, within, h⟩
    rwa [leaf b within] at h
  · exact fun h => ⟨a, .refl a, h⟩

lemma not_foreign_empty (span : Span) : ¬ (empty span).Foreign := by
  rw [foreign_of_leaf fun b within => by cases within; rfl]
  exact id

lemma not_foreign_flags (span : Span) (items : List FlagItem) : ¬ (flags span items).Foreign := by
  rw [foreign_of_leaf fun b within => by cases within; rfl]
  exact id

lemma foreign_bracketed {span : Span} {negated : Bool} {set : ClassSet} :
    (bracketed span negated set).Foreign ↔ set.Foreign :=
  foreign_of_leaf fun b within => by cases within; rfl

lemma foreign_repetition {span : Span} {min : ℕ} {max : Option ℕ} {greedy : Bool} {inner : Ast} :
    (repetition span min max greedy inner).Foreign ↔ inner.Foreign := by
  constructor
  · rintro ⟨b, within, h⟩
    cases within with
    | refl => exact h.elim
    | repetition _ _ _ _ inside => exact ⟨b, inside, h⟩
  · rintro ⟨b, within, h⟩
    exact ⟨b, within.repetition span min max greedy, h⟩

lemma foreign_group {span : Span} {kind : GroupKind} {inner : Ast} :
    (group span kind inner).Foreign ↔ inner.Foreign := by
  constructor
  · rintro ⟨b, within, h⟩
    cases within with
    | refl => exact h.elim
    | group _ _ inside => exact ⟨b, inside, h⟩
  · rintro ⟨b, within, h⟩
    exact ⟨b, within.group span kind, h⟩

lemma foreign_alternation {span : Span} {choices : List Ast} :
    (alternation span choices).Foreign ↔ ∃ a ∈ choices, a.Foreign := by
  constructor
  · rintro ⟨b, within, h⟩
    cases within with
    | refl => exact h.elim
    | alternation _ mem inside => exact ⟨_, mem, b, inside, h⟩
  · rintro ⟨a, mem, b, within, h⟩
    exact ⟨b, .alternation span mem within, h⟩

lemma foreign_concat {span : Span} {parts : List Ast} :
    (concat span parts).Foreign ↔ ∃ a ∈ parts, a.Foreign := by
  constructor
  · rintro ⟨b, within, h⟩
    cases within with
    | refl => exact h.elim
    | concat _ mem inside => exact ⟨_, mem, b, inside, h⟩
  · rintro ⟨a, mem, b, within, h⟩
    exact ⟨b, .concat span mem within, h⟩

end Ast

lemma Primitive.foreign_toAst {p : Primitive} : p.toAst.Foreign ↔ p.Foreign := by
  rw [Ast.foreign_of_leaf fun b within => by cases p <;> cases within <;> rfl]
  cases p <;> rfl

end LoadingCheck.Regex
