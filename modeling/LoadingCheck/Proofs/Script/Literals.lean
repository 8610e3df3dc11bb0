import LoadingCheck.Proofs.Script.Reading
import Mathlib.Data.Bool.AllAny

set_option relaxedAutoImplicit false
set_option autoImplicit false

/-!
# The literals of a program

A reader that comes to a quotation mark in the code goes through a literal until it is back in the code. What
it has read in between is the body of the literal, and a body in double quotation marks has the value that its
escapes stand for.

Of a row of fragments without remarks, whose code has no quotation marks and no slashes, the reader finds
exactly the literals that were put in, whatever their values look like.

## Main definitions

* `LoadingCheck.Reading.bodies` — the bodies of the literals of a program.
* `LoadingCheck.Reading.literals` — the values of these literals.
* `LoadingCheck.Reading.Plain` — rows of fragments whose code starts no literal and no remark.

## Main results

* `LoadingCheck.Reading.codeOf_render` — the code of a plain row.
* `LoadingCheck.Reading.literals_render` — the literals of a plain row.
-/

namespace LoadingCheck.Reading

open Fragment (render)

/-! ### Bodies and values -/

/-- A reader is inside a literal. -/
def State.inside : State → Bool
  | .literal _ => true
  | .escape _ => true
  | _ => false

/-- The bodies of the literals in a text, in order, from a reader that has read `body` of a literal. A text
that ends inside a literal has none. -/
def bodies : State → List Char → List Char → Option (List (List Char))
  | st, _, [] => if st.inside then none else some []
  | st, body, c :: s =>
    if (step st c).2.inside then
      bodies (step st c).2 (if st.inside then body ++ [c] else []) s
    else if st.inside then (bodies (step st c).2 [] s).map (body :: ·)
    else bodies (step st c).2 [] s

/-- The value of a literal in double quotation marks. -/
def literalValue? (body : List Char) : Option String :=
  match Json.readString (body ++ ['"']) with
  | (.name s, some []) => some s
  | _ => none

/-- The values of the literals of a program, in order. -/
def literals (s : List Char) : Option (List String) :=
  (bodies .code [] s).bind fun bs => bs.mapM literalValue?

/-! ### Texts one after the other -/

/-- Characters that start neither a remark nor a literal add no body. -/
lemma bodies_plain {s : List Char} (h : ∀ c ∈ s, c ≠ '/' ∧ c ≠ '"' ∧ c ≠ '\x27') (t : List Char) :
    bodies .code [] (s ++ t) = bodies .code [] t := by
  induction s with
  | nil => rfl
  | cons c s ih =>
    obtain ⟨h1, h2, h3⟩ := h c List.mem_cons_self
    have stays : (step .code c).2 = .code := by
      simp [step, readCode, h1, h2, h3]
    have rest := ih fun d hd => h d (List.mem_cons_of_mem _ hd)
    rw [List.cons_append, bodies, stays, ← rest]
    rfl

/-- Inside a literal, a backslash and the character behind it are two characters of the body. -/
lemma bodies_escaped (mark d : Char) (body t : List Char) :
    bodies (.literal mark) body ('\\' :: d :: t) = bodies (.literal mark) (body ++ ['\\', d]) t := by
  have both : body ++ ['\\', d] = body ++ ['\\'] ++ [d] := by simp
  rw [both]
  rfl

/-- Inside a literal, other characters than the backslash and the quotation mark are characters of the
body. -/
lemma bodies_unescaped {mark : Char} {s : List Char} (h : ∀ c ∈ s, c ≠ '\\' ∧ c ≠ mark) (body t : List Char) :
    bodies (.literal mark) body (s ++ t) = bodies (.literal mark) (body ++ s) t := by
  induction s generalizing body with
  | nil => rw [List.nil_append, List.append_nil]
  | cons c s ih =>
    obtain ⟨h1, h2⟩ := h c List.mem_cons_self
    have stays : (step (.literal mark) c).2 = .literal mark := by
      simp [step, h1, h2]
    have rest := ih (fun d hd => h d (List.mem_cons_of_mem _ hd)) (body ++ [c])
    have whole : body ++ c :: s = body ++ [c] ++ s := by simp
    rw [List.cons_append, bodies, stays, whole, ← rest]
    rfl

/-- An escaped text inside a literal is part of the body as it stands. -/
lemma bodies_escape (s body t : List Char) :
    bodies (.literal '"') body (Json.escape s ++ t) = bodies (.literal '"') (body ++ Json.escape s) t := by
  induction s generalizing body with
  | nil => simp [Json.escape]
  | cons c s ih =>
    rw [Json.escape_cons, List.append_assoc, ← List.append_assoc body, ← ih]
    rcases Json.escapeChar_cases c with ⟨d, ds, escaped, rest⟩ | ⟨itself, backslash, quote⟩
    · have split : body ++ '\\' :: d :: ds = body ++ ['\\', d] ++ ds := by simp
      rw [escaped, List.cons_append, List.cons_append, bodies_escaped, bodies_unescaped rest, split]
    · rw [itself]
      apply bodies_unescaped
      intro e he
      rw [List.mem_singleton.mp he]
      exact ⟨backslash, quote⟩

/-- The body of a quoted text is its escape. -/
lemma bodies_quote (v : String) (t : List Char) :
    bodies .code [] ((Json.quote v).toList ++ t) =
      (bodies .code [] t).map (Json.escape v.toList :: ·) := by
  have opened : bodies .code [] ((Json.quote v).toList ++ t) =
      bodies (.literal '"') [] (Json.escape v.toList ++ '"' :: t) := by
    have split : (Json.quote v).toList ++ t = '"' :: (Json.escape v.toList ++ '"' :: t) := by
      simp [Json.quote]
    rw [split]
    rfl
  rw [opened, bodies_escape]
  rfl

lemma literalValue?_escape (v : String) : literalValue? (Json.escape v.toList) = some v := by
  rw [literalValue?, Json.readString_escape]

lemma literals_plain {s : List Char} (h : ∀ c ∈ s, c ≠ '/' ∧ c ≠ '"' ∧ c ≠ '\x27') (t : List Char) :
    literals (s ++ t) = literals t := by
  rw [literals, literals, bodies_plain h]

/-- A quoted text is a literal that has this text as its value. -/
lemma literals_quote (v : String) (t : List Char) :
    literals ((Json.quote v).toList ++ t) = (literals t).map (v :: ·) := by
  rw [literals, literals, bodies_quote]
  cases bodies .code [] t with
  | none => rfl
  | some bs =>
    rw [Option.map_some, Option.bind_some, Option.bind_some, List.mapM_cons, literalValue?_escape]
    cases bs.mapM literalValue? <;> rfl

/-- A reader outside a literal has read nothing of one. -/
lemma bodies_outside {st : State} (h : st.inside = false) (body s : List Char) : bodies st body s = bodies st [] s := by
  cases s with
  | nil => rfl
  | cons c s => simp only [bodies, h, Bool.false_eq_true, if_false]

/-- The bodies of two texts, where the reader is back in the code between them. -/
lemma bodies_append {st : State} {s : List Char} (back : after st s = .code) (body t : List Char) :
    bodies st body (s ++ t) = (bodies st body s).bind fun bs => (bodies .code [] t).map (bs ++ ·) := by
  induction s generalizing st body with
  | nil =>
    obtain rfl : st = .code := back
    rw [List.nil_append, bodies_outside rfl, bodies]
    simp [State.inside]
  | cons c s ih =>
    have back : after (step st c).2 s = .code := back
    rw [List.cons_append, bodies, bodies]
    by_cases inside : (step st c).2.inside = true
    · rw [if_pos inside, if_pos inside]
      exact ih back _
    · rw [if_neg inside, if_neg inside, ih back]
      split_ifs
      · cases bodies (step st c).2 [] s with
        | none => rfl
        | some bs => simp [Option.map_map, Function.comp_def]
      · rfl

/-- The literals of two texts, where the reader is back in the code between them. -/
lemma literals_append {s t : List Char} {vs : List String} (back : after .code s = .code)
    (h : literals s = some vs) : literals (s ++ t) = (literals t).map (vs ++ ·) := by
  rw [literals, Option.bind_eq_some_iff] at h
  obtain ⟨bs, found, values⟩ := h
  rw [literals, literals, bodies_append back, found, Option.bind_some]
  cases bodies .code [] t with
  | none => rfl
  | some bs' =>
    rw [Option.map_some, Option.bind_some, Option.bind_some, List.mapM_append, values]
    cases bs'.mapM literalValue? <;> rfl

/-! ### Rows of fragments -/

/-- Code that starts neither a literal nor a remark, and no remark, is all there is beside literals and
numbers. -/
def Plain (fs : List Fragment) : Prop :=
  ∀ f ∈ fs, match f with
    | .code s => ∀ c ∈ s.toList, c ≠ '/' ∧ c ≠ '"' ∧ c ≠ '\x27'
    | .remark _ => False
    | _ => True

/-- What a reader keeps of a fragment. -/
def marks : Fragment → List Token
  | .literal _ => [.literal]
  | f => f.text.map .char

/-- The value of a fragment that is a literal. -/
def value? : Fragment → Option String
  | .literal v => some v
  | _ => none

namespace Plain

variable {f : Fragment} {fs gs : List Fragment}

lemma nil : Plain [] :=
  fun _ h => absurd h List.not_mem_nil

lemma code {s : String} (hs : s.toList.all (fun c => c ≠ '/' ∧ c ≠ '"' ∧ c ≠ '\x27') = true)
    (h : Plain fs) : Plain (.code s :: fs) :=
  List.forall_mem_cons.mpr ⟨List.all_iff_forall_prop.mp hs, h⟩

lemma literal (v : String) (h : Plain fs) : Plain (.literal v :: fs) :=
  List.forall_mem_cons.mpr ⟨trivial, h⟩

lemma number (n : ℕ) (h : Plain fs) : Plain (.number n :: fs) :=
  List.forall_mem_cons.mpr ⟨trivial, h⟩

lemma append (h : Plain fs) (h' : Plain gs) : Plain (fs ++ gs) :=
  List.forall_mem_append.mpr ⟨h, h'⟩

lemma head (h : Plain (f :: fs)) : Plain [f] :=
  List.forall_mem_singleton.mpr (h f List.mem_cons_self)

lemma tail (h : Plain (f :: fs)) : Plain fs :=
  fun g hg => h g (List.mem_cons_of_mem _ hg)

end Plain

/-- A fragment of a plain row is read as its marks, and the reader is back in the code behind it. -/
lemma read_text {f : Fragment} (h : Plain [f]) :
    tokens .code f.text = marks f ∧ after .code f.text = .code := by
  have this := List.forall_mem_singleton.mp h
  cases f with
  | code s => exact read_plain this
  | literal v => exact ⟨tokens_quote v, after_quote v⟩
  | number n => exact read_number n
  | remark s => exact this.elim

/-- **The code of a plain row** is its code and its numbers as they stand, with a mark for each literal. -/
theorem codeOf_render {fs : List Fragment} (h : Plain fs) : codeOf (render fs) = fs.flatMap marks := by
  have read : tokens .code (render fs) = fs.flatMap marks ∧ after .code (render fs) = .code := by
    induction fs with
    | nil => exact ⟨rfl, rfl⟩
    | cons f fs ih =>
      obtain ⟨kept, back⟩ := read_text h.head
      obtain ⟨rest, stop⟩ := ih h.tail
      rw [Fragment.render_cons, tokens_append, after_append, kept, back, rest, List.flatMap_cons]
      exact ⟨rfl, stop⟩
  rw [codeOf, read.1, read.2]
  exact List.append_nil _

/-- **The literals of a plain row** are those that were put in. -/
theorem literals_render {fs : List Fragment} (h : Plain fs) :
    literals (render fs) = some (fs.filterMap value?) := by
  induction fs with
  | nil => rfl
  | cons f fs ih =>
    have this := List.forall_mem_singleton.mp h.head
    rw [Fragment.render_cons]
    cases f with
    | code s => rw [Fragment.text, literals_plain this, ih h.tail]; rfl
    | literal v => rw [Fragment.text, literals_quote, ih h.tail]; rfl
    | number n => rw [Fragment.text, literals_plain (plain_number n), ih h.tail]; rfl
    | remark s => exact this.elim

end LoadingCheck.Reading
