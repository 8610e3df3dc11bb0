import LoadingCheck.Proofs.ClassPattern.Foreign.Escapes

set_option relaxedAutoImplicit false
set_option autoImplicit false

/-!
# Foreign brackets

Inside brackets the search for foreign syntax goes from item to item as the parser does. Either it finds what is
foreign and the brackets are foreign whatever follows, or both stand in front of the same item. There are no
brackets inside brackets, and no operations, in what is not foreign, so the search needs no stack.

## Main definitions

* `LoadingCheck.Regex.Doomed`, `LoadingCheck.Regex.ItemRow.Ready` — the parser inside brackets, when it has
  read something foreign and when it has not.

## Main results

* `LoadingCheck.Regex.parseClassRange_reads` — one item inside brackets.
* `LoadingCheck.Regex.openBrackets_reads` — their start.
* `LoadingCheck.Regex.parseClass_foreign` — what is foreign inside brackets stays so.
* `LoadingCheck.Regex.parseClass_reads` — brackets as a whole.
-/

namespace LoadingCheck.Regex

open ForeignSearch

variable {c c' : Cursor} {letter : Char} {rest behind : List Char} {p : Primitive}

/-! ### Items -/

lemma foreign_of_toItem {item : ClassItem} (h : p.toItem = .ok item) : item.Foreign ↔ p.ForeignInside := by
  cases p <;> cases h
  · exact ClassItem.foreign_literal
  · exact iff_of_false (ClassItem.not_foreign_shorthand _) id
  · exact iff_of_true (.property _) trivial

lemma eq_literal_of_toLiteral {l : Literal} (h : p.toLiteral = .ok l) : p = .literal l := by
  rw [Primitive.toLiteral.eq_def] at h
  split at h <;> cases h
  rfl

lemma ReadsEscape.foreignInside (h : ReadsEscape letter rest p behind) : p.ForeignInside ↔ p.Foreign := by
  cases p with
  | literal l =>
    refine ⟨fun foreign => foreign.elim id ?_, .inl⟩
    rintro ⟨verbatim, _⟩
    obtain ⟨span, kind, char⟩ := l
    cases verbatim
    exact absurd rfl (h.not_verbatim span char)
  | _ => exact Iff.rfl

/-- A character or an escape inside brackets as the search sees it. -/
structure ReadsAtom (char : Char) (rest : List Char) (p : Primitive) (behind : List Char) : Prop where
  foreign : p.ForeignInside ↔ atom char rest = true
  behind : atom char rest = false → behind = behindAtom char rest
  verbatim : ∀ span char', p = .literal ⟨span, .verbatim, char'⟩ → char' = char

variable {char : Char}

lemma parseClassPrimitive_reads (head : c.rest = char :: rest) (notClosing : char ≠ ']')
    (h : parseClassPrimitive c char = .ok (p, c')) : ReadsAtom char rest p c'.rest := by
  rw [parseClassPrimitive] at h
  split at h
  · rename_i backslash
    subst backslash
    obtain ⟨letter, t, same, _⟩ := parseEscape_behind h
    rw [Cursor.next_rest head] at same
    subst same
    have escape := parseEscape_reads head h
    exact ⟨escape.foreignInside.trans escape.foreign, escape.behind,
      fun span char' same => absurd same (escape.not_verbatim span char')⟩
  · rename_i plain
    cases h
    refine ⟨?_, fun _ => ?_, fun span char' same => by cases same; rfl⟩
    · rw [atom.eq_def, if_neg plain, decide_eq_true_iff]
      constructor
      · rintro (foreign | ⟨_, closing | wide⟩)
        · exact absurd foreign (Literal.not_foreign (.inl rfl))
        · exact absurd closing notClosing
        · exact wide
      · exact fun wide => .inr ⟨rfl, .inr wide⟩
    · rw [behindAtom.eq_def, if_neg plain, Cursor.next_rest head]

/-- The search in front of an item that is neither the end of the brackets nor an operation. -/
lemma inside_item (notClosing : char ≠ ']') (item : ¬ (char = '[' ∨ isOperation char rest)) :
    inside (char :: rest) = (atom char rest ||
      match rangeEnd? (behindAtom char rest) with
      | some (last, after) => atom last after || inside (behindAtom last after)
      | none => inside (behindAtom char rest)) := by
  rw [inside, if_neg notClosing, if_neg item]
  cases rangeEnd? (behindAtom char rest) <;> rfl

/-- An item as the search sees it, which reads it from its first character and what follows, up to `behind`. -/
structure ReadsItem (char : Char) (rest : List Char) (item : ClassItem) (behind : List Char) : Prop where
  foreign : item.Foreign ∨ inside behind = true ↔ inside (char :: rest) = true
  hyphen : item.IsHyphen → char = '-'

/-- An item of one piece, where no range starts. -/
lemma ReadsAtom.single {item : ClassItem} (low : ReadsAtom char rest p behind) (notClosing : char ≠ ']')
    (plain : ¬ (char = '[' ∨ isOperation char rest)) (one : p.toItem = .ok item)
    (noRange : rangeEnd? behind = none) : ReadsItem char rest item behind := by
  refine ⟨?_, ?_⟩
  · rw [foreign_of_toItem one, low.foreign, inside_item notClosing plain]
    cases found : atom char rest with
    | true => simp
    | false =>
      rw [← low.behind found, noRange]
      simp
  · rintro ⟨span, rfl⟩
    cases p with
    | literal l =>
      cases one
      exact (low.verbatim span '-' rfl).symm
    | _ => cases one

/-- A range between two literals. -/
lemma ReadsAtom.range {l m : Literal} {last : Char} {t behind' : List Char}
    (low : ReadsAtom char rest (.literal l) behind) (notClosing : char ≠ ']')
    (plain : ¬ (char = '[' ∨ isOperation char rest)) (toLast : rangeEnd? behind = some (last, t))
    (high : ReadsAtom last t (.literal m) behind') (span : Span) :
    ReadsItem char rest (.range span l m) behind' := by
  refine ⟨?_, fun isHyphen => ?_⟩
  · have ends : l.ForeignInside ∨ m.ForeignInside ↔ atom char rest = true ∨ atom last t = true :=
      or_congr low.foreign high.foreign
    rw [ClassItem.foreign_range, ends, inside_item notClosing plain]
    cases found : atom char rest with
    | true => simp
    | false =>
      rw [← low.behind found, toLast]
      cases foundLast : atom last t with
      | true => simp [foundLast]
      | false => simp [foundLast, ← high.behind foundLast]
  · obtain ⟨_, same⟩ := isHyphen
    cases same

/-- **One item inside brackets.**

**Proof sketch.** The parser and the search both look for a range behind the first character, if the search does
not find this foreign, and agree about the other end in the same way. -/
theorem parseClassRange_reads {stack : List OpenSet} (head : c.rest = char :: rest) (notClosing : char ≠ ']')
    (plain : ¬ (char = '[' ∨ isOperation char rest)) {item : ClassItem}
    (h : parseClassRange stack c char = .ok (item, c')) : ReadsItem char rest item c'.rest := by
  rw [parseClassRange, bind_eq_ok] at h
  obtain ⟨⟨first, c₁⟩, read, h⟩ := h
  have low := parseClassPrimitive_reads head notClosing read
  dsimp only at h
  split at h
  · exact absurd h (unclosedClass_ne_ok _ _)
  · exact absurd h (unclosedClass_ne_ok _ _)
  · rename_i last t hyphen
    split at h
    · rename_i noEnd
      obtain ⟨item', one, done⟩ := bind_eq_ok.mp h
      cases done
      exact low.single notClosing plain one (by rw [hyphen, rangeEnd?, if_pos noEnd])
    · rename_i isEnd
      obtain ⟨⟨second, c₂⟩, readLast, h⟩ := bind_eq_ok.mp h
      obtain ⟨l, lowest, h⟩ := bind_eq_ok.mp h
      obtain ⟨m, highest, h⟩ := bind_eq_ok.mp h
      have high := parseClassPrimitive_reads (Cursor.next_rest hyphen) (fun same => isEnd (.inl same)) readLast
      cases eq_literal_of_toLiteral lowest
      cases eq_literal_of_toLiteral highest
      split at h
      · cases h
        exact low.range notClosing plain (by rw [hyphen, rangeEnd?, if_neg isEnd]) high _
      · cases h
  · rename_i noHyphen
    obtain ⟨item', one, done⟩ := bind_eq_ok.mp h
    cases done
    refine low.single notClosing plain one ?_
    rw [rangeEnd?]
    exact noHyphen

/-! ### The start of brackets -/

/-- The parser has read something foreign inside brackets, or cannot end them without: it is not directly
inside the outermost ones, or two hyphens and no closing bracket stand at their start. -/
def Doomed : List OpenSet → ItemRow → List Char → Prop
  | [], _, _ => False
  | [.brackets _ _ _], row, rest =>
    row.Foreign ∨ (row.items.length = 2 ∧ row.OnlyHyphens ∧ rest.head? ≠ some ']')
  | _, _, _ => True

/-- The parser has read nothing foreign inside brackets. Hyphens alone end where another character starts,
and if there are two of them this is a closing bracket. -/
structure ItemRow.Ready (row : ItemRow) (rest : List Char) : Prop where
  not_foreign : ¬ row.Foreign
  hyphens : row.OnlyHyphens → rest.head? ≠ some '-'
  closing : row.OnlyHyphens → row.items.length = 2 → rest.head? = some ']'

lemma leadingHyphens_reads {fuel : ℕ} (row : ItemRow) (bound : c.rest.length ≤ fuel) :
    ∃ hyphens : List ClassItem, (∀ i ∈ hyphens, i.IsHyphen) ∧
      (leadingHyphens fuel row c).1.items = hyphens ++ row.items ∧
      c.rest = List.replicate hyphens.length '-' ++ (leadingHyphens fuel row c).2.rest ∧
      (leadingHyphens fuel row c).2.rest.head? ≠ some '-' := by
  induction fuel generalizing row c with
  | zero =>
    have empty : c.rest = [] := List.length_eq_zero_iff.mp (Nat.le_zero.mp bound)
    refine ⟨[], List.forall_mem_nil _, rfl, rfl, ?_⟩
    rw [leadingHyphens, empty, List.head?_nil]
    exact (Option.some_ne_none _).symm
  | succ fuel ih =>
    rw [leadingHyphens]
    split
    · rename_i t hyphen
      have next : c.next.rest = t := Cursor.next_rest hyphen
      have shorter : c.next.rest.length ≤ fuel := by
        rw [hyphen, List.length_cons] at bound
        rw [next]
        omega
      obtain ⟨hyphens, all, items, rest, stop⟩ :=
        ih (row.push (.literal ⟨c.charSpan, .verbatim, '-'⟩)) shorter
      refine ⟨hyphens ++ [.literal ⟨c.charSpan, .verbatim, '-'⟩], ?_, ?_, ?_, stop⟩
      · intro i mem
        rcases List.mem_append.mp mem with mem | mem
        · exact all i mem
        · exact ⟨c.charSpan, List.mem_singleton.mp mem⟩
      · rw [items, List.append_assoc]
        rfl
      · rw [hyphen, List.length_append, List.length_singleton, List.replicate_succ, List.cons_append, ← rest, next]
    · rename_i noHyphen
      refine ⟨[], List.forall_mem_nil _, rfl, rfl, fun hyphen => ?_⟩
      obtain ⟨t, cons⟩ := List.head?_eq_some_iff.mp hyphen
      exact noHyphen t cons

/-- Where the hyphens at the start end, the search has found something foreign or stands there too. -/
lemma hyphens_reads {row : ItemRow} (all : row.OnlyHyphens) (stop : rest.head? ≠ some '-')
    (first : row.items.length = 0 → rest.head? ≠ some ']') (before : ItemRow) (span : Span) (negated : Bool) :
    items? (List.replicate row.items.length '-' ++ rest) = none ∧ Doomed [.brackets before span negated] row rest ∨
      items? (List.replicate row.items.length '-' ++ rest) = some rest ∧ row.Ready rest := by
  have ready (few : row.items.length < 3)
      (closing : row.items.length = 2 → rest.head? = some ']') : row.Ready rest :=
    ⟨fun foreign => absurd (all.foreign.mp foreign) (by omega), fun _ => stop, fun _ => closing⟩
  match count : row.items.length with
  | 0 =>
    refine .inr ⟨?_, ready (by omega) (by omega)⟩
    have other := first count
    rw [List.replicate_zero, List.nil_append, items?.eq_def]
    split <;> simp_all
  | 1 =>
    refine .inr ⟨?_, ready (by omega) (by omega)⟩
    rw [List.replicate_one, List.singleton_append, items?.eq_def]
    split <;> simp_all
  | 2 =>
    by_cases closing : rest.head? = some ']'
    · refine .inr ⟨?_, ready (by omega) fun _ => closing⟩
      obtain ⟨t, rfl⟩ := List.head?_eq_some_iff.mp closing
      rfl
    · refine .inl ⟨?_, .inr ⟨count, all, closing⟩⟩
      change items? ('-' :: '-' :: rest) = none
      rw [items?.eq_def]
      split <;> grind
  | n + 3 => exact .inl ⟨rfl, .inl (all.foreign.mpr (by omega))⟩

/-- **The start of brackets.** If the search finds it foreign, the parser cannot end the brackets without
something foreign. Otherwise both stand in front of the same item. -/
theorem openBrackets_reads {before row : ItemRow} {opened : OpenSet} (head : c.rest = '[' :: rest)
    (h : openBrackets before c = .ok (opened, row, c')) :
    (∃ span negated, opened = .brackets before span negated) ∧
      (items? (behindCaret rest) = none ∧ Doomed [opened] row c'.rest ∨
        items? (behindCaret rest) = some c'.rest ∧ row.Ready c'.rest) := by
  rw [openBrackets] at h
  split at h
  rename_i negated inside caret
  have here : inside.rest = behindCaret rest := by
    have next : c.next.rest = rest := Cursor.next_rest head
    rw [← next]
    split at caret
    · rename_i t sign
      cases caret
      rw [Cursor.next_rest sign, sign]
      rfl
    · rename_i noCaret
      cases caret
      rw [behindCaret]
      exact noCaret
  split at h
  · cases h
  · cases h
  obtain ⟨hyphens, all, items, split, stop⟩ :=
    leadingHyphens_reads ⟨inside.here, []⟩ (Nat.le_refl inside.rest.length)
  rw [List.append_nil] at items
  rw [← items] at all split
  rw [← here, split]
  dsimp only at h
  split at h
  · cases h
  · rename_i t none closing
    split_ifs at h
    · cases h
    · cases h
      refine ⟨⟨_, _, rfl⟩, .inl ⟨?_, .inl ?_⟩⟩
      · rw [none, closing]
        rfl
      · rw [ItemRow.foreign_push]
        exact .inr (.inl (.literal (.inr ⟨rfl, .inl rfl⟩)))
  · rename_i notClosing
    cases h
    refine ⟨⟨_, _, rfl⟩, hyphens_reads all stop (fun none closing => ?_) _ _ _⟩
    obtain ⟨t, cons⟩ := List.head?_eq_some_iff.mp closing
    exact notClosing t (List.length_eq_zero_iff.mp none) cons

/-! ### Brackets -/

variable {row : ItemRow} {a : Ast}

lemma doomed_push {stack : List OpenSet} {item : ClassItem} (nonempty : stack ≠ []) (h : item.Foreign)
    (rest : List Char) : Doomed stack (row.push item) rest := by
  rw [Doomed.eq_def]
  split
  · exact nonempty rfl
  · exact .inl (ItemRow.foreign_push.mpr (.inr (.inl h)))
  · trivial

lemma Doomed.push {stack : List OpenSet} {rest : List Char} (h : Doomed stack row rest) (item : ClassItem)
    (rest' : List Char) : Doomed stack (row.push item) rest' := by
  rw [Doomed.eq_def] at h ⊢
  split at h
  · exact h
  · refine .inl (ItemRow.foreign_push.mpr (h.imp_right fun start => .inr ⟨start.1, start.2.1⟩))
  · trivial

/-- An open operation and another open set are not the outermost brackets. -/
lemma doomed_cons {stack : List OpenSet} (nonempty : stack ≠ []) (opened : OpenSet) (rest : List Char) :
    Doomed (opened :: stack) row rest := by
  match stack with
  | [] => exact absurd rfl nonempty
  | _ :: _ => cases opened <;> trivial

lemma doomed_operation (op : SetOp) (left : ClassSet) (stack : List OpenSet) (rest : List Char) :
    Doomed (.operation op left :: stack) row rest := by
  cases stack <;> trivial

/-- **What is foreign inside brackets stays so.**

**Proof sketch.** Induction on the turns of the loop. Each turn adds an item, opens brackets or an operation,
or closes the innermost ones; then these are a foreign item of the next ones, or the result. -/
theorem parseClass_foreign {fuel : ℕ} {stack : List OpenSet} (doomed : Doomed stack row c.rest)
    (h : parseClass fuel stack row c = .ok (a, c')) : a.Foreign := by
  induction fuel generalizing stack row c with
  | zero => exact absurd h (unclosedClass_ne_ok _ _)
  | succ fuel ih =>
    have nonempty : stack ≠ [] := by
      rintro rfl
      exact doomed
    rw [parseClass.eq_def] at h
    dsimp only at h
    split at h
    · exact absurd h (unclosedClass_ne_ok _ _)
    · split at h
      · exact ih (doomed_push nonempty (.ascii _) _) h
      · obtain ⟨⟨opened, row₂, c₂⟩, _, inside⟩ := bind_eq_ok.mp h
        exact ih (doomed_cons nonempty opened _) inside
    · rename_i t closing
      cases stack with
      | nil => exact absurd rfl nonempty
      | cons innermost outer =>
        cases innermost with
        | operation op left =>
          dsimp only [closeOperation] at h
          split at h
          · rename_i before span negated outer
            split_ifs at h with outermost
            · cases h
              exact Ast.foreign_bracketed.mpr trivial
            · exact ih (doomed_push (mt List.isEmpty_iff.mpr outermost) (.bracketed _ _ _) _) h
          · exact absurd h (unclosedClass_ne_ok _ _)
        | brackets before span negated =>
          dsimp only [closeOperation] at h
          split_ifs at h with outermost
          · cases h
            cases List.isEmpty_iff.mp outermost
            rw [Doomed, closing] at doomed
            refine Ast.foreign_bracketed.mpr (ItemRow.foreign_toItem.mpr (doomed.resolve_right ?_))
            exact fun start => start.2.2 rfl
          · exact ih (doomed_push (mt List.isEmpty_iff.mpr outermost) (.bracketed _ _ _) _) h
    · rename_i char t notOpening notClosing head
      split at h
      · exact ih (doomed_operation _ _ _ _) h
      · obtain ⟨⟨item, c₂⟩, range, inside⟩ := bind_eq_ok.mp h
        exact ih (doomed.push item _) inside

lemma isSome_setOpOf? (char : Char) (rest : List Char) :
    (setOpOf? (char :: rest)).isSome = isOperation char rest := by
  cases doubled : isOperation char rest with
  | true =>
    rw [isOperation, Bool.and_eq_true, List.contains_iff_mem, beq_iff_eq] at doubled
    obtain ⟨sign, same⟩ := doubled
    obtain ⟨t, rfl⟩ := List.head?_eq_some_iff.mp same
    simp only [List.mem_cons, List.not_mem_nil, or_false] at sign
    rcases sign with rfl | rfl | rfl <;> rfl
  | false =>
    rw [setOpOf?.eq_def]
    split
    · rename_i same
      cases same
      cases doubled
    · rename_i same
      cases same
      cases doubled
    · rename_i same
      cases same
      cases doubled
    · rfl

/-- In a row that is ready the next item is foreign only by itself, and hyphens are not alone any more. -/
lemma ItemRow.Ready.push {here : List Char} (h : row.Ready (char :: here)) (notClosing : char ≠ ']')
    {item : ClassItem} (hyphen : item.IsHyphen → char = '-') (plain : ¬ item.Foreign) (rest : List Char) :
    (row.push item).Ready rest := by
  have mixed : ¬ (row.push item).OnlyHyphens := by
    rw [ItemRow.onlyHyphens_push]
    rintro ⟨isHyphen, all⟩
    exact h.hyphens all (congrArg some (hyphen isHyphen))
  refine ⟨?_, fun all => absurd all mixed, fun all => absurd all mixed⟩
  rw [ItemRow.foreign_push]
  rintro (foreign | foreign | ⟨two, all⟩)
  · exact h.not_foreign foreign
  · exact plain foreign
  · exact notClosing (Option.some.inj (h.closing all two))

/-- **Inside brackets.** From in front of an item the search finds something foreign exactly if the parser reads
foreign brackets or there is something foreign behind them.

**Proof sketch.** Induction on the turns of the loop. As long as nothing is foreign, the parser and the search
stand at the same item; when something is, the brackets are foreign whatever follows. -/
theorem parseClass_reads_inside {fuel : ℕ} {before : ItemRow} {span : Span} {negated : Bool}
    (ready : row.Ready c.rest)
    (h : parseClass fuel [.brackets before span negated] row c = .ok (a, c')) :
    a.Foreign ∨ outside c'.rest = true ↔ inside c.rest = true := by
  induction fuel generalizing row c with
  | zero => exact absurd h (unclosedClass_ne_ok _ _)
  | succ fuel ih =>
    have found {stack : List OpenSet} {row₂ : ItemRow} {c₂ : Cursor} (doomed : Doomed stack row₂ c₂.rest)
        (h : parseClass fuel stack row₂ c₂ = .ok (a, c')) (search : inside c.rest = true) :
        a.Foreign ∨ outside c'.rest = true ↔ inside c.rest = true :=
      iff_of_true (.inl (parseClass_foreign doomed h)) search
    have single : [OpenSet.brackets before span negated] ≠ [] := List.cons_ne_nil _ _
    rw [parseClass.eq_def] at h
    dsimp only at h
    split at h
    · exact absurd h (unclosedClass_ne_ok _ _)
    · rename_i t opening
      have search : inside c.rest = true := by
        rw [opening, inside, if_neg (by decide), if_pos (.inl rfl)]
      split at h
      · exact found (doomed_push single (.ascii _) _) h search
      · obtain ⟨⟨opened, row₂, c₂⟩, _, inner⟩ := bind_eq_ok.mp h
        exact found (doomed_cons single opened _) inner search
    · rename_i t closing
      dsimp only [closeOperation] at h
      rw [if_pos List.isEmpty_nil] at h
      cases h
      rw [Ast.foreign_bracketed, ClassSet.Foreign, ItemRow.foreign_toItem, or_iff_right ready.not_foreign,
        Cursor.next_rest closing, closing, inside, if_pos rfl]
    · rename_i char t notOpening notClosing head
      have other : char ≠ ']' := notClosing
      split at h
      · rename_i op operation
        refine found (doomed_operation _ _ _ _) h ?_
        have doubled : isOperation char t = true := by
          rw [← isSome_setOpOf?, ← head, operation]
          rfl
        rw [head, inside, if_neg other, if_pos (.inr doubled)]
      · rename_i operation
        obtain ⟨⟨item, c₂⟩, range, inner⟩ := bind_eq_ok.mp h
        have plain : ¬ (char = '[' ∨ isOperation char t) := by
          rintro (same | doubled)
          · exact notOpening same
          · rw [← isSome_setOpOf?, ← head, operation] at doubled
            cases doubled
        have reads := parseClassRange_reads head other plain range
        by_cases foreign : item.Foreign
        · exact found (doomed_push single foreign _) inner (head ▸ reads.foreign.mp (.inl foreign))
        · rw [head] at ready ⊢
          rw [ih (ready.push other reads.hyphen foreign _) inner, ← reads.foreign, or_iff_right foreign]

/-- **Brackets as a whole.** From brackets on there is something foreign exactly if the brackets are, or there
is behind them. -/
theorem parseClass_reads {fuel : ℕ} (head : c.rest = '[' :: rest)
    (h : parseClass fuel [] row c = .ok (a, c')) :
    a.Foreign ∨ outside c'.rest = true ↔ outside c.rest = true := by
  cases fuel with
  | zero => exact absurd h (unclosedClass_ne_ok _ _)
  | succ fuel =>
    rw [parseClass.eq_def] at h
    dsimp only at h
    rw [head] at h
    obtain ⟨⟨opened, row₂, c₂⟩, opening, inner⟩ := bind_eq_ok.mp h
    obtain ⟨⟨span, negated, rfl⟩, ⟨start, doomed⟩ | ⟨start, ready⟩⟩ := openBrackets_reads head opening
    · have search : outside c.rest = true := by
        rw [head, outside, if_neg (by decide), if_pos rfl]
        split
        · rfl
        · rename_i items found
          rw [start] at found
          cases found
      exact iff_of_true (.inl (parseClass_foreign doomed inner)) search
    · have search : outside c.rest = inside c₂.rest := by
        rw [head, outside, if_neg (by decide), if_pos rfl]
        split
        · rename_i found
          rw [start] at found
          cases found
        · rename_i items found
          rw [start] at found
          cases found
          rfl
      rw [search]
      exact parseClass_reads_inside ready inner

end LoadingCheck.Regex
