import LoadingCheck.Regex.Ast
import Mathlib.Data.List.Infix

set_option relaxedAutoImplicit false
set_option autoImplicit false

/-!
# The search for foreign syntax in a text

Whether a pattern has an escape or brackets that a browser reads differently can be told from its text. The
search goes through the text once and knows two places, outside brackets and in front of an item inside them.
It looks for foreign syntax and reads no more of the pattern than it needs to find its way.

## Main definitions

* `LoadingCheck.Regex.ForeignSearch.escape`, `LoadingCheck.Regex.ForeignSearch.atom` — one escape, and one
  character or escape inside brackets.
* `LoadingCheck.Regex.ForeignSearch.outside`, `LoadingCheck.Regex.ForeignSearch.inside` — the search.
* `LoadingCheck.Regex.ForeignSearch.Passes` — the characters between two places are nothing to the search.
-/

namespace LoadingCheck.Regex.ForeignSearch

/-! ### What the search looks at -/

/-- Whether the escape of a letter is foreign; `rest` stands behind the letter. -/
def escape (letter : Char) (rest : List Char) : Bool :=
  match letter with
  | 'x' | 'u' => rest.head? == some '\x7b'
  | 'b' =>
    match rest with
    | '\x7b' :: first :: _ => first.isAlpha || first == '-'
    | _ => false
  | letter => ['A', 'z', 'a', 'p', 'P', 'U', '<', '>'].contains letter

/-- What stands behind an escape that is not foreign: some letters have digits. -/
def behindEscape (letter : Char) (rest : List Char) : List Char :=
  match letter with
  | 'x' => rest.drop 2
  | 'u' => rest.drop 4
  | _ => rest

/-- Whether a character or an escape inside brackets is foreign. -/
def atom (c : Char) (rest : List Char) : Bool :=
  if c = '\\' then
    match rest with
    | [] => false
    | letter :: rest => escape letter rest
  else decide (0xFFFF < c.toNat)

/-- What stands behind a character or an escape inside brackets. -/
def behindAtom (c : Char) (rest : List Char) : List Char :=
  if c = '\\' then
    match rest with
    | [] => []
    | letter :: rest => behindEscape letter rest
  else rest

/-- The other end of a range behind a character or an escape inside brackets, and what follows. -/
def rangeEnd? : List Char → Option (Char × List Char)
  | '-' :: last :: rest => if last = ']' ∨ last = '-' then none else some (last, rest)
  | _ => none

/-- Whether a sign is doubled that stands for an operation on sets then. -/
def isOperation (c : Char) (rest : List Char) : Bool :=
  ['&', '-', '~'].contains c && rest.head? == some c

/-- The items of brackets, unless they start with a closing bracket or with a range from a hyphen. A caret
in front of them is left out. -/
def items? : List Char → Option (List Char)
  | ']' :: _ => none
  | '-' :: '-' :: ']' :: rest => some (']' :: rest)
  | '-' :: '-' :: _ => none
  | '-' :: rest => some rest
  | s => some s

/-- What stands behind a caret, if there is one. -/
def behindCaret : List Char → List Char
  | '^' :: rest => rest
  | s => s

/-- What stands behind the name of a group and its angle bracket. -/
def behindName (s : List Char) : List Char :=
  (s.dropWhile (· ≠ '>')).tail

/-- What stands behind an opening parenthesis, and behind the name if the group has one. -/
def behindParen : List Char → List Char
  | '?' :: '<' :: name => behindName name
  | '?' :: 'P' :: '<' :: name => behindName name
  | s => s

lemma behindParen_unnamed {t : List Char} (noP : ∀ name, t ≠ 'P' :: '<' :: name)
    (noAngle : ∀ name, t ≠ '<' :: name) : behindParen ('?' :: t) = '?' :: t := by
  rw [behindParen.eq_def]
  split
  · rename_i name same
    exact absurd (List.cons.inj same).2 (noAngle name)
  · rename_i name same
    exact absurd (List.cons.inj same).2 (noP name)
  · rfl

/-! None of these goes back in a text. -/

lemma behindEscape_length (letter : Char) (rest : List Char) :
    (behindEscape letter rest).length ≤ rest.length := by
  rw [behindEscape.eq_def]
  split <;> simp

lemma behindAtom_length (c : Char) (rest : List Char) : (behindAtom c rest).length ≤ rest.length := by
  rw [behindAtom.eq_def]
  split
  · split
    · exact Nat.le_refl _
    · exact Nat.le_succ_of_le (behindEscape_length _ _)
  · exact Nat.le_refl _

lemma rangeEnd?_length {s rest : List Char} {last : Char} (h : rangeEnd? s = some (last, rest)) :
    rest.length < s.length := by
  rw [rangeEnd?.eq_def] at h
  split at h
  · split at h
    · cases h
    · cases h
      simp only [List.length_cons]
      omega
  · cases h

lemma items?_length {s t : List Char} (h : items? s = some t) : t.length ≤ s.length := by
  rw [items?.eq_def] at h
  split at h <;> cases h <;> simp

lemma behindCaret_length (s : List Char) : (behindCaret s).length ≤ s.length := by
  rw [behindCaret.eq_def]
  split <;> simp

lemma behindName_length (s : List Char) : (behindName s).length ≤ s.length := by
  rw [behindName, List.length_tail]
  exact Nat.le_trans (Nat.sub_le _ _) (List.dropWhile_suffix _).length_le

lemma behindParen_length (s : List Char) : (behindParen s).length ≤ s.length := by
  rw [behindParen.eq_def]
  split
  · rename_i name
    exact Nat.le_trans (behindName_length name) (by simp only [List.length_cons]; omega)
  · rename_i name
    exact Nat.le_trans (behindName_length name) (by simp only [List.length_cons]; omega)
  · exact Nat.le_refl _

/-! ### The search -/

mutual

/-- Whether there is foreign syntax in a text that starts outside brackets. -/
def outside : List Char → Bool
  | [] => false
  | c :: rest =>
    if c = '\\' then atom c rest || outside (behindAtom c rest)
    else if c = '[' then
      match _ : items? (behindCaret rest) with
      | none => true
      | some items => inside items
    else if c = '(' then outside (behindParen rest)
    else outside rest
  termination_by s => s.length
  decreasing_by
    · have := behindAtom_length c rest
      simp only [List.length_cons]
      omega
    · rename_i found
      have := items?_length found
      have := behindCaret_length rest
      simp only [List.length_cons]
      omega
    · have := behindParen_length rest
      simp only [List.length_cons]
      omega
    · simp

/-- Whether there is foreign syntax in a text that starts inside brackets, in front of an item. -/
def inside : List Char → Bool
  | [] => false
  | c :: rest =>
    if c = ']' then outside rest
    else if c = '[' ∨ isOperation c rest then true
    else
      atom c rest ||
        match _ : rangeEnd? (behindAtom c rest) with
        | some (last, after) => atom last after || inside (behindAtom last after)
        | none => inside (behindAtom c rest)
  termination_by s => s.length
  decreasing_by
    · simp
    · rename_i found
      have := behindAtom_length last after
      have := rangeEnd?_length found
      have := behindAtom_length c rest
      simp only [List.length_cons]
      omega
    · have := behindAtom_length c rest
      simp only [List.length_cons]
      omega

end

/-! ### Characters that mean nothing to the search -/

/-- Outside brackets every other character stands for itself as far as the search goes. -/
def IsPlain (c : Char) : Prop :=
  c ≠ '\\' ∧ c ≠ '[' ∧ c ≠ '('

instance : DecidablePred IsPlain := fun c =>
  inferInstanceAs (Decidable (c ≠ '\\' ∧ c ≠ '[' ∧ c ≠ '('))

lemma outside_plain {c : Char} (h : IsPlain c) (s : List Char) : outside (c :: s) = outside s := by
  rw [outside, if_neg h.1, if_neg h.2.1, if_neg h.2.2]

/-- The text `t` is what is left of `s` behind characters that are nothing to the search. -/
def Passes (s t : List Char) : Prop :=
  outside s = outside t ∧ t.length ≤ s.length

variable {s t u : List Char}

lemma Passes.refl (s : List Char) : Passes s s :=
  ⟨rfl, Nat.le_refl _⟩

lemma Passes.trans (h : Passes s t) (h' : Passes t u) : Passes s u :=
  ⟨h.1.trans h'.1, Nat.le_trans h'.2 h.2⟩

lemma passes_plain {c : Char} (h : IsPlain c) (s : List Char) : Passes (c :: s) s :=
  ⟨outside_plain h s, Nat.le_succ _⟩

lemma passes_dropWhile {p : Char → Bool} (plain : ∀ c, p c = true → IsPlain c) (s : List Char) :
    Passes s (s.dropWhile p) := by
  induction s with
  | nil => exact .refl _
  | cons c s ih =>
    by_cases h : p c = true
    · rw [List.dropWhile_cons_of_pos h]
      exact (passes_plain (plain c h) s).trans ih
    · rw [List.dropWhile_cons_of_neg h]
      exact .refl _

end LoadingCheck.Regex.ForeignSearch
