import LoadingCheck.Proofs.Json.Literal
import LoadingCheck.Script.Fragment
import Mathlib.Data.List.Basic
import Mathlib.Tactic.Common

set_option relaxedAutoImplicit false
set_option autoImplicit false

/-!
# Reading a program

A reader goes through a program from left to right and tells three things apart: remarks, which start
with two slashes and end before the next line end; string literals in single or double quotation marks,
with escapes by a backslash; and code, which is everything else. The code of a program is what is left of
it without its remarks and with one mark in the place of each literal.

A program that is a row of fragments can also be read without its texts: every literal counts as one mark
and every remark as nothing. Where this works out, the texts take no part in the code.

## Main definitions

* `LoadingCheck.Reading.State`, `LoadingCheck.Reading.step` — the reader, one character at a time.
* `LoadingCheck.Reading.codeOf` — the code of a program.
* `LoadingCheck.Reading.frame` — what is read of fragments when their texts are passed over.
* `LoadingCheck.Reading.Confined` — no text among fragments is read as code.

## Main results

* `LoadingCheck.Reading.tokens_quote` — a quoted text is read as one literal, whatever the text.
* `LoadingCheck.Reading.read_of_frame` — fragments with remarks of one line are read as their frame says.
* `LoadingCheck.Reading.confined_of_framed` — and none of their texts is read as code.
-/

namespace LoadingCheck.Reading

/-- The characters that end a line of a program. -/
def isLineEnd (c : Char) : Bool :=
  c = '\n' || c = '\r' || c = '\u2028' || c = '\u2029'

/-- What a reader keeps of a program. -/
inductive Token where
  /-- A character of the code. -/
  | char (c : Char)
  /-- The place of a string literal. -/
  | literal
  deriving DecidableEq, Repr

/-- Where a reader stands. -/
inductive State where
  | code
  /-- In the code, behind one slash, which may be the first of two. -/
  | slash
  | remark
  /-- Inside a literal that ends at the given quotation mark. -/
  | literal (mark : Char)
  /-- Inside a literal, behind a backslash. -/
  | escape (mark : Char)
  deriving DecidableEq, Repr

/-- Reads a character of the code that no slash stands before. -/
def readCode (c : Char) : List Token × State :=
  if c = '/' then ([], .slash)
  else if c = '"' ∨ c = '\x27' then ([.literal], .literal c)
  else ([.char c], .code)

/-- Reads a character. -/
def step : State → Char → List Token × State
  | .code, c => readCode c
  | .slash, c =>
    if c = '/' then ([], .remark) else (.char '/' :: (readCode c).1, (readCode c).2)
  | .remark, c => if isLineEnd c then ([.char c], .code) else ([], .remark)
  | .literal mark, c =>
    if c = '\\' then ([], .escape mark)
    else if c = mark then ([], .code)
    else ([], .literal mark)
  | .escape mark, _ => ([], .literal mark)

/-- Where a reader stands after a text. -/
def after : State → List Char → State
  | st, [] => st
  | st, c :: s => after (step st c).2 s

/-- What a reader keeps of a text. -/
def tokens : State → List Char → List Token
  | _, [] => []
  | st, c :: s => (step st c).1 ++ tokens (step st c).2 s

/-- What a reader still holds at the end of a program: a slash that no other one follows. -/
def State.held : State → List Token
  | .slash => [.char '/']
  | _ => []

/-- The code of a program: its remarks are dropped and its literals replaced by marks. -/
def codeOf (s : List Char) : List Token :=
  tokens .code s ++ (after .code s).held

/-! ### Texts one after the other -/

@[simp]
lemma after_append (st : State) (s t : List Char) : after st (s ++ t) = after (after st s) t := by
  induction s generalizing st with
  | nil => rfl
  | cons c s ih => exact ih (step st c).2

@[simp]
lemma tokens_append (st : State) (s t : List Char) :
    tokens st (s ++ t) = tokens st s ++ tokens (after st s) t := by
  induction s generalizing st with
  | nil => rfl
  | cons c s ih =>
    simp only [List.cons_append, tokens, after, List.append_assoc]
    rw [ih]

/-! ### Digits, remarks and literals -/

/-- Characters that start neither a remark nor a literal are code. -/
lemma read_plain {s : List Char} (h : ∀ c ∈ s, c ≠ '/' ∧ c ≠ '"' ∧ c ≠ '\x27') :
    tokens .code s = s.map .char ∧ after .code s = .code := by
  induction s with
  | nil => exact ⟨rfl, rfl⟩
  | cons c s ih =>
    obtain ⟨h1, h2, h3⟩ := h c (by simp)
    obtain ⟨ht, ha⟩ := ih fun d hd => h d (by simp [hd])
    have hstep : step .code c = ([.char c], .code) := by
      simp [step, readCode, h1, h2, h3]
    exact ⟨by simp [tokens, hstep, ht], by simp [after, hstep, ha]⟩

/-- A decimal digit is no slash and no quotation mark. -/
lemma plain_of_isDigit {c : Char} (h : c.isDigit = true) : c ≠ '/' ∧ c ≠ '"' ∧ c ≠ '\x27' := by
  refine ⟨?_, ?_, ?_⟩ <;> (rintro rfl; exact absurd h (by decide))

/-- The digits of a number start neither a remark nor a literal. -/
lemma plain_number (n : ℕ) : ∀ c ∈ (toString n).toList, c ≠ '/' ∧ c ≠ '"' ∧ c ≠ '\x27' := by
  intro c hc
  have hdigits : c ∈ Nat.toDigits 10 n := by simpa using hc
  exact plain_of_isDigit (Nat.isDigit_of_mem_toDigits (by decide) (by decide) hdigits)

/-- The digits of a number are code. -/
lemma read_number (n : ℕ) :
    tokens .code (toString n).toList = (toString n).toList.map .char ∧
      after .code (toString n).toList = .code :=
  read_plain (plain_number n)

/-- No character of a text ends a line. -/
def OneLine (s : List Char) : Prop :=
  ∀ c ∈ s, isLineEnd c = false

lemma oneLine_append {s t : List Char} : OneLine (s ++ t) ↔ OneLine s ∧ OneLine t :=
  List.forall_mem_append

/-- Whether a list of characters is one line can be tried out. It is quicker to go through than a
string. -/
lemma oneLine_of_all {l : List Char} (h : l.all (fun c => !isLineEnd c) = true) :
    OneLine (String.ofList l).toList := by
  intro c hc
  rw [String.toList_ofList] at hc
  simpa using List.all_eq_true.mp h c hc

/-- Inside a remark a text of one line is passed over. -/
lemma read_remark {s : List Char} (h : OneLine s) :
    tokens .remark s = [] ∧ after .remark s = .remark := by
  induction s with
  | nil => exact ⟨rfl, rfl⟩
  | cons c s ih =>
    obtain ⟨ht, ha⟩ := ih fun d hd => h d (by simp [hd])
    have hstep : step .remark c = ([], .remark) := by
      simp [step, h c (by simp)]
    exact ⟨by simp [tokens, hstep, ht], by simp [after, hstep, ha]⟩

/-- The first line end in a remark closes it and is code. -/
lemma tokens_remark_lineEnd {before : List Char} (h : OneLine before) {c : Char}
    (hc : isLineEnd c = true) (s : List Char) :
    tokens .remark (before ++ c :: s) = .char c :: tokens .code s := by
  obtain ⟨ht, ha⟩ := read_remark h
  rw [tokens_append, ht, ha, List.nil_append]
  simp only [tokens, step, hc, if_true, List.cons_append, List.nil_append]

/-- The digits of a number are one line. -/
lemma oneLine_number (n : ℕ) : OneLine (toString n).toList := by
  intro c hc
  have hdigits : c ∈ Nat.toDigits 10 n := by simpa using hc
  have h := Nat.isDigit_of_mem_toDigits (by decide) (by decide) hdigits
  by_contra hend
  simp only [isLineEnd, Bool.not_eq_false, Bool.or_eq_true, decide_eq_true_eq] at hend
  rcases hend with ((rfl | rfl) | rfl) | rfl <;> exact absurd h (by decide)

/-- In a remark, a text with a line end in it is read as code from there on. -/
lemma exists_char_of_not_oneLine {s : List Char} (h : ¬ OneLine s) :
    ∃ c, .char c ∈ tokens .remark s := by
  induction s with
  | nil => exact absurd (fun c hc => by simp at hc) h
  | cons d s ih =>
    by_cases hd : isLineEnd d = true
    · exact ⟨d, by simp [tokens, step, hd]⟩
    · have hd' : isLineEnd d = false := by simpa using hd
      have hs : ¬ OneLine s := fun hs => h fun c hc => by
        rcases List.mem_cons.mp hc with rfl | hc
        · exact hd'
        · exact hs c hc
      obtain ⟨c, hc⟩ := ih hs
      exact ⟨c, by simpa [tokens, step, hd'] using hc⟩

/-- Inside a literal, characters that neither end it nor escape anything are passed over. -/
lemma read_inside {mark : Char} {s : List Char} (h : ∀ c ∈ s, c ≠ '\\' ∧ c ≠ mark) :
    tokens (.literal mark) s = [] ∧ after (.literal mark) s = .literal mark := by
  induction s with
  | nil => exact ⟨rfl, rfl⟩
  | cons c s ih =>
    obtain ⟨h1, h2⟩ := h c List.mem_cons_self
    obtain ⟨ht, ha⟩ := ih fun d hd => h d (List.mem_cons_of_mem _ hd)
    have hstep : step (.literal mark) c = ([], .literal mark) := by
      simp [step, h1, h2]
    exact ⟨by simp [tokens, hstep, ht], by simp [after, hstep, ha]⟩

/-- Inside a literal, an escaped character keeps the reader inside. -/
lemma read_escapeChar (c : Char) :
    tokens (.literal '"') (Json.escapeChar c) = [] ∧
      after (.literal '"') (Json.escapeChar c) = .literal '"' := by
  rcases Json.escapeChar_cases c with ⟨d, ds, escaped, rest⟩ | ⟨itself, backslash, quote⟩
  · -- the letter of an escape is passed over whatever it is
    have letter : tokens (.literal '"') ('\\' :: d :: ds) = tokens (.literal '"') ds ∧
        after (.literal '"') ('\\' :: d :: ds) = after (.literal '"') ds := ⟨rfl, rfl⟩
    rw [escaped, letter.1, letter.2]
    exact read_inside rest
  · rw [itself]
    exact read_inside (List.forall_mem_singleton.mpr ⟨backslash, quote⟩)

/-- Inside a literal, an escaped text keeps the reader inside. -/
lemma read_escape (s : List Char) :
    tokens (.literal '"') (Json.escape s) = [] ∧
      after (.literal '"') (Json.escape s) = .literal '"' := by
  induction s with
  | nil => exact ⟨rfl, rfl⟩
  | cons c s ih =>
    obtain ⟨hc, ha⟩ := read_escapeChar c
    have hsplit : Json.escape (c :: s) = Json.escapeChar c ++ Json.escape s := List.flatMap_cons
    rw [hsplit, tokens_append, after_append, hc, ha]
    exact ih

/-- **A quoted text is one literal**, whatever characters are in it. -/
lemma tokens_quote (s : String) : tokens .code (Json.quote s).toList = [.literal] := by
  have hopen : step .code '"' = ([.literal], .literal '"') := rfl
  simp only [Json.quote, String.toList_ofList, List.cons_append, tokens, hopen]
  rw [tokens_append, (read_escape _).1, (read_escape _).2]
  rfl

/-- After a quoted text a reader is back in the code. -/
lemma after_quote (s : String) : after .code (Json.quote s).toList = .code := by
  have hopen : step .code '"' = ([.literal], .literal '"') := rfl
  simp only [Json.quote, String.toList_ofList, List.cons_append, after, hopen]
  rw [after_append, (read_escape _).2]
  rfl

/-! ### Fragments without their texts -/

/-- What is read of fragments when their texts are passed over, and where the reader stands then. There
is nothing to say where a text does not stand in its place: a literal in the code, a remark behind two
slashes. -/
def frame : State → List Fragment → Option (List Token × State)
  | st, [] => some ([], st)
  | st, .code s :: fs =>
    (frame (after st s.toList) fs).map fun p => (tokens st s.toList ++ p.1, p.2)
  | .code, .literal _ :: fs => (frame .code fs).map fun p => (.literal :: p.1, p.2)
  | .code, .number n :: fs =>
    (frame .code fs).map fun p => ((toString n).toList.map .char ++ p.1, p.2)
  | .remark, .number _ :: fs => frame .remark fs
  | .remark, .remark _ :: fs => frame .remark fs
  | _, _ :: _ => none

section

variable (st : State) (fs : List Fragment)

@[simp]
lemma frame_nil : frame st [] = some ([], st) := rfl

@[simp]
lemma frame_code (s : String) : frame st (.code s :: fs) =
    (frame (after st s.toList) fs).map fun p => (tokens st s.toList ++ p.1, p.2) := rfl

@[simp]
lemma frame_literal (s : String) : frame .code (.literal s :: fs) =
    (frame .code fs).map fun p => (.literal :: p.1, p.2) := rfl

@[simp]
lemma frame_number (n : ℕ) : frame .code (.number n :: fs) =
    (frame .code fs).map fun p => ((toString n).toList.map .char ++ p.1, p.2) := rfl

@[simp]
lemma frame_number_remark (n : ℕ) : frame .remark (.number n :: fs) = frame .remark fs := rfl

@[simp]
lemma frame_remark (s : String) : frame .remark (.remark s :: fs) = frame .remark fs := rfl

end

/-- The remarks among fragments are of one line each. -/
def Tidy (fs : List Fragment) : Prop :=
  ∀ s, .remark s ∈ fs → OneLine s.toList

lemma Tidy.tail {f : Fragment} {fs : List Fragment} (h : Tidy (f :: fs)) : Tidy fs :=
  fun s hs => h s (by simp [hs])

lemma tidy_append {fs gs : List Fragment} : Tidy (fs ++ gs) ↔ Tidy fs ∧ Tidy gs := by
  simp only [Tidy, List.mem_append]
  exact ⟨fun h => ⟨fun s hs => h s (.inl hs), fun s hs => h s (.inr hs)⟩,
    fun h s hs => hs.elim (h.1 s) (h.2 s)⟩

/-- **Fragments are read as their frame says**, if their remarks are of one line each.

**Proof sketch.** Induction along `frame`: code is read by `frame` itself, a literal by `tokens_quote`, a
number by `read_number` in the code and by `oneLine_number` in a remark, and a remark by
`read_remark`. -/
theorem read_of_frame {st st' : State} {fs : List Fragment} {ts : List Token}
    (h : frame st fs = some (ts, st')) (htidy : Tidy fs) :
    tokens st (Fragment.render fs) = ts ∧ after st (Fragment.render fs) = st' := by
  induction st, fs using frame.induct generalizing ts with
  | case1 st =>
    simp only [frame_nil, Option.some.injEq, Prod.mk.injEq] at h
    exact ⟨h.1, h.2⟩
  | case2 st s fs ih =>
    simp only [frame_code, Option.map_eq_some_iff, Prod.mk.injEq] at h
    obtain ⟨p, hp, rfl, rfl⟩ := h
    obtain ⟨ht, ha⟩ := ih hp htidy.tail
    exact ⟨by simp [Fragment.text, ht], by simp [Fragment.text, ha]⟩
  | case3 s fs ih =>
    simp only [frame_literal, Option.map_eq_some_iff, Prod.mk.injEq] at h
    obtain ⟨p, hp, rfl, rfl⟩ := h
    obtain ⟨ht, ha⟩ := ih hp htidy.tail
    exact ⟨by simp [Fragment.text, tokens_quote, after_quote, ht],
      by simp [Fragment.text, after_quote, ha]⟩
  | case4 n fs ih =>
    simp only [frame_number, Option.map_eq_some_iff, Prod.mk.injEq] at h
    obtain ⟨p, hp, rfl, rfl⟩ := h
    obtain ⟨ht, ha⟩ := ih hp htidy.tail
    obtain ⟨hn, hn'⟩ := read_number n
    rw [Fragment.render_cons, tokens_append, after_append]
    simp only [Fragment.text, hn, hn', ht, ha, and_self]
  | case5 n fs ih =>
    rw [frame_number_remark] at h
    obtain ⟨ht, ha⟩ := ih h htidy.tail
    obtain ⟨hn, hn'⟩ := read_remark (oneLine_number n)
    rw [Fragment.render_cons, tokens_append, after_append]
    simp only [Fragment.text, hn, hn', ht, ha, List.nil_append, and_self]
  | case6 s fs ih =>
    rw [frame_remark] at h
    obtain ⟨ht, ha⟩ := ih h htidy.tail
    obtain ⟨hs, hs'⟩ := read_remark (htidy s (by simp))
    rw [Fragment.render_cons, tokens_append, after_append]
    simp only [Fragment.text, hs, hs', ht, ha, List.nil_append, and_self]
  | case7 => simp_all [frame]

/-- The frame of fragments one after the other. -/
lemma frame_append (st : State) (fs gs : List Fragment) :
    frame st (fs ++ gs) =
      (frame st fs).bind fun p => (frame p.2 gs).map fun q => (p.1 ++ q.1, q.2) := by
  induction st, fs using frame.induct with
  | case1 st => simp
  | case2 st s fs ih =>
    rw [List.cons_append, frame_code, frame_code, ih]
    cases frame (after st s.toList) fs <;> simp [Function.comp_def]
  | case3 s fs ih =>
    rw [List.cons_append, frame_literal, frame_literal, ih]
    cases frame .code fs <;> simp [Function.comp_def]
  | case4 n fs ih =>
    rw [List.cons_append, frame_number, frame_number, ih]
    cases frame .code fs <;> simp [Function.comp_def]
  | case5 n fs ih => rw [List.cons_append, frame_number_remark, frame_number_remark, ih]
  | case6 s fs ih => rw [List.cons_append, frame_remark, frame_remark, ih]
  | case7 => simp_all [frame]

/-- A fragment with the empty text in the place of its own. -/
def blank : Fragment → Fragment
  | .literal _ => .literal ""
  | .remark _ => .remark ""
  | f => f

/-- The texts of fragments take no part in their frame. -/
lemma frame_map_blank (st : State) (fs : List Fragment) : frame st (fs.map blank) = frame st fs := by
  induction st, fs using frame.induct with
  | case1 st => rfl
  | case2 st s fs ih => simp only [List.map_cons, blank, frame_code, ih]
  | case3 s fs ih => simp only [List.map_cons, blank, frame_literal, ih]
  | case4 n fs ih => simp only [List.map_cons, blank, frame_number, ih]
  | case5 n fs ih => simp only [List.map_cons, blank, frame_number_remark, ih]
  | case6 s fs ih => simp only [List.map_cons, blank, frame_remark, ih]
  | case7 st f fs => cases st <;> cases f <;> simp_all [frame, blank]

/-- Fragments have a frame, and after them a reader stands at `st'`. -/
def Framed (st : State) (fs : List Fragment) (st' : State) : Prop :=
  ∃ ts, frame st fs = some (ts, st')

namespace Framed

variable {st st' st'' : State} {fs gs : List Fragment}

lemma nil : Framed st [] st :=
  ⟨[], rfl⟩

/-- Code goes on from where a reader stands after it. The characters are given as a list, which is
quicker to go through than a string. -/
lemma code {l : List Char} (mid : State) (hl : after st l = mid) (h : Framed mid fs st') :
    Framed st (.code (String.ofList l) :: fs) st' := by
  obtain ⟨ts, hts⟩ := h
  exact ⟨tokens st l ++ ts, by simp [hl, hts]⟩

lemma literal (s : String) (h : Framed .code fs st') : Framed .code (.literal s :: fs) st' := by
  obtain ⟨ts, hts⟩ := h
  exact ⟨.literal :: ts, by simp [hts]⟩

lemma number (n : ℕ) (h : Framed .code fs st') : Framed .code (.number n :: fs) st' := by
  obtain ⟨ts, hts⟩ := h
  exact ⟨(toString n).toList.map .char ++ ts, by simp [hts]⟩

lemma number_remark (n : ℕ) (h : Framed .remark fs st') : Framed .remark (.number n :: fs) st' := h

lemma remark (s : String) (h : Framed .remark fs st') : Framed .remark (.remark s :: fs) st' := h

lemma append (h : Framed st fs st') (h' : Framed st' gs st'') : Framed st (fs ++ gs) st'' := by
  obtain ⟨ts, hts⟩ := h
  obtain ⟨us, hus⟩ := h'
  exact ⟨ts ++ us, by simp [frame_append, hts, hus]⟩

/-- Framed fragments with remarks of one line each lead a reader where their frame says. -/
lemma after_render (h : Framed st fs st') (htidy : Tidy fs) : after st (Fragment.render fs) = st' := by
  obtain ⟨ts, hts⟩ := h
  exact (read_of_frame hts htidy).2

end Framed

/-! ### Texts outside the code -/

/-- Whether a fragment holds a text that differs from one program to the next. -/
def isText : Fragment → Bool
  | .literal _ => true
  | .remark _ => true
  | _ => false

/-- No text among fragments is read as code: a reader keeps nothing of a text but the mark of a
literal. -/
def Confined (fs : List Fragment) : Prop :=
  ∀ pre f post, fs = pre ++ f :: post → isText f = true →
    ∀ t ∈ tokens (after .code (Fragment.render pre)) f.text, t = .literal

/-- **Texts stay outside the code** where fragments have a frame and remarks of one line each. -/
theorem confined_of_framed {fs : List Fragment} {st' : State} (h : Framed .code fs st')
    (htidy : Tidy fs) : Confined fs := by
  rintro pre f post rfl htext
  obtain ⟨hpre, hpost⟩ := tidy_append.mp htidy
  -- the frame of the whole says where a reader stands when it comes to `f`
  obtain ⟨us, hq⟩ := h
  rw [frame_append] at hq
  obtain ⟨⟨ts, st⟩, hts, hrest⟩ := Option.bind_eq_some_iff.mp hq
  obtain ⟨r, hr, -⟩ := Option.map_eq_some_iff.mp hrest
  rw [(read_of_frame hts hpre).2]
  cases f with
  | code s => simp [isText] at htext
  | number n => simp [isText] at htext
  | literal s =>
    have hst : st = .code := by cases st <;> simp_all [frame]
    subst hst
    simp [Fragment.text, tokens_quote]
  | remark s =>
    have hst : st = .remark := by cases st <;> simp_all [frame]
    subst hst
    simp [Fragment.text, (read_remark (hpost s (by simp))).1]

end LoadingCheck.Reading
