import LoadingCheck.Proofs.Json.Text
import LoadingCheck.Script.Basic
import Mathlib.Data.List.TakeWhile

set_option relaxedAutoImplicit false
set_option autoImplicit false

/-!
# Taking a row of fragments apart

Fragments stand in a row with nothing between them. Read from the front, a literal ends at its closing
quotation mark. Read from the back, a literal starts at the last quotation mark that has no backslash in
front of it, and a number at its first digit, if a space stands in front of them. So equal texts can be
taken apart at both ends, fragment by fragment.

## Main definitions

* `LoadingCheck.Script.FoundAtEnd` — texts that are told from what stands in front of them.
* `LoadingCheck.Script.InLine` — rows of fragments without a line feed.

## Main results

* `LoadingCheck.Fragment.render_literal_inj`, `LoadingCheck.Fragment.render_number_inj` — literals and
  numbers at the start of a row.
* `LoadingCheck.Script.foundAtEnd_literal`, `LoadingCheck.Script.foundAtEnd_number`,
  `LoadingCheck.Script.foundAtEnd_flag` — literals, numbers and truth values at the end of a text.
-/

namespace LoadingCheck

namespace Json

/-! ### Literals at the start -/

/-- Equal texts that start with literals start with the same one. -/
lemma quote_append_inj {s t : String} {x y : List Char} :
    (quote s).toList ++ x = (quote t).toList ++ y ↔ s = t ∧ x = y := by
  constructor
  · intro h
    have first : ∀ (s : String) (x : List Char),
        readString ((quote s).toList ++ x).tail = (.name s, some x) := by
      intro s x
      rw [toList_quote, List.cons_append, List.tail_cons, List.append_assoc, List.singleton_append,
        readString_escape]
    have both := first s x
    rw [h, first t y, Prod.mk.injEq] at both
    exact ⟨(Key.name.inj both.1).symm, (Option.some.inj both.2).symm⟩
  · rintro ⟨rfl, rfl⟩
    rfl

/-! ### Quotation marks inside literals -/

/-- A backslash stands in front of every quotation mark. -/
def QuotesEscaped (l : List Char) : Prop :=
  ∀ before behind, l = before ++ '"' :: behind → ∃ before', before = before' ++ ['\\']

lemma quotesEscaped_append {l m : List Char} (hl : QuotesEscaped l) (hm : QuotesEscaped m) :
    QuotesEscaped (l ++ m) := by
  intro before behind h
  rcases List.append_eq_append_iff.mp h with ⟨middle, rfl, rest⟩ | ⟨middle, rfl, rest⟩
  · obtain ⟨before', rfl⟩ := hm middle behind rest
    exact ⟨l ++ before', by rw [List.append_assoc]⟩
  · cases middle with
    | nil =>
      obtain ⟨before', nothing⟩ := hm [] behind rest.symm
      simp at nothing
    | cons c middle =>
      obtain ⟨rfl, _⟩ := List.cons.inj rest
      exact hl before middle rfl

lemma quotesEscaped_of_notMem {l : List Char} (h : '"' ∉ l) : QuotesEscaped l := by
  rintro before behind rfl
  exact absurd (List.mem_append_right before List.mem_cons_self) h

/-- The only quotation mark that a character is escaped to is the second one of two characters. -/
lemma quotesEscaped_escapeChar (c : Char) : QuotesEscaped (escapeChar c) := by
  rcases escapeChar_cases c with ⟨d, ds, escaped, rest⟩ | ⟨itself, _, quote⟩
  · rw [escaped]
    intro before behind h
    rcases before with _ | ⟨e, _ | ⟨f, before⟩⟩
    · simp at h
    · simp only [List.cons_append, List.nil_append, List.cons.injEq] at h
      exact ⟨[], by rw [← h.1]; rfl⟩
    · simp only [List.cons_append, List.cons.injEq] at h
      have inside : '"' ∈ ds := by simp [h.2.2]
      exact absurd rfl (rest _ inside).2
  · rw [itself]
    exact quotesEscaped_of_notMem (by simp [Ne.symm quote])

lemma quotesEscaped_escape (s : List Char) : QuotesEscaped (escape s) := by
  induction s with
  | nil => exact quotesEscaped_of_notMem List.not_mem_nil
  | cons c s ih =>
    rw [escape_cons]
    exact quotesEscaped_append (quotesEscaped_escapeChar c) ih

/-- A literal with a space in front of it does not start inside another one. -/
lemma eq_nil_of_quotesEscaped {middle l m : List Char} (hl : QuotesEscaped l)
    (h : ' ' :: '"' :: l = middle ++ ' ' :: '"' :: m) : middle = [] := by
  rcases middle with _ | ⟨c, _ | ⟨d, middle⟩⟩
  · rfl
  · simp at h
  · simp only [List.cons_append, List.cons.injEq] at h
    have inside : l = (middle ++ [' ']) ++ '"' :: m := by
      rw [h.2.2, List.append_assoc, List.singleton_append]
    obtain ⟨before, last⟩ := hl _ m inside
    have space := (List.append_inj' last rfl).2
    exact absurd space (by decide)

/-- Texts that end with a literal behind a space are the same in front of it and inside it. -/
lemma append_quote_inside_inj {x y l m : List Char} (hl : QuotesEscaped l) (hm : QuotesEscaped m)
    (h : x ++ ' ' :: '"' :: l = y ++ ' ' :: '"' :: m) : x = y ∧ l = m := by
  have same : x = y := by
    rcases List.append_eq_append_iff.mp h with ⟨middle, rfl, rest⟩ | ⟨middle, rfl, rest⟩
    · rw [eq_nil_of_quotesEscaped hl rest, List.append_nil]
    · rw [eq_nil_of_quotesEscaped hm rest, List.append_nil]
  rw [same, List.append_cancel_left_eq] at h
  simp only [List.cons.injEq, true_and] at h
  exact ⟨same, h⟩

/-- Texts are the same if they are escaped to the same characters. -/
lemma quote_injective {s t : String} (h : quote s = quote t) : s = t := by
  have both : (quote s).toList ++ [] = (quote t).toList ++ [] := by rw [h]
  exact (quote_append_inj.mp both).1

end Json

/-! ### The last element of another kind -/

/-- Equal lists are the same on both sides of their last element without a property. -/
lemma append_cons_inj_of_last {α : Type} {p : α → Bool} {x y l m : List α} {a b : α}
    (hl : ∀ c ∈ l, p c = true) (hm : ∀ c ∈ m, p c = true) (ha : p a = false) (hb : p b = false)
    (h : x ++ a :: l = y ++ b :: m) : x = y ∧ a = b ∧ l = m := by
  have back : l.reverse ++ a :: x.reverse = m.reverse ++ b :: y.reverse := by
    have reversed := congrArg List.reverse h
    simpa using reversed
  have whole : ∀ {k : List α} {c : α} {z : List α}, (∀ d ∈ k, p d = true) → p c = false →
      (k.reverse ++ c :: z).takeWhile p = k.reverse := by
    intro k c z hk hc
    rw [List.takeWhile_append_of_pos fun d hd => hk d (List.mem_reverse.mp hd),
      List.takeWhile_cons_of_neg (by simp [hc]), List.append_nil]
  have same : l.reverse = m.reverse := by
    rw [← whole hl ha, back, whole hm hb]
  rw [same, List.append_cancel_left_eq, List.cons.injEq] at back
  exact ⟨List.reverse_injective back.2, back.1, List.reverse_injective same⟩

namespace Fragment

/-! ### Fragments at the start -/

lemma text_number (n : ℕ) : (number n).text = Nat.toDigits 10 n :=
  Nat.toList_repr

lemma text_number_injective {m n : ℕ} (h : (number m).text = (number n).text) : m = n := by
  rw [text_number, text_number] at h
  apply Json.digitsOf_injective
  rw [Json.digitsOf, Json.digitsOf, h]

lemma render_code_inj {c : String} {fs gs : List Fragment} :
    render (.code c :: fs) = render (.code c :: gs) ↔ render fs = render gs := by
  rw [render_cons, render_cons, List.append_cancel_left_eq]

lemma render_literal_inj {s t : String} {fs gs : List Fragment} :
    render (.literal s :: fs) = render (.literal t :: gs) ↔ s = t ∧ render fs = render gs := by
  rw [render_cons, render_cons]
  exact Json.quote_append_inj

/-- A number ends before the code behind it. -/
lemma render_number_inj {m n : ℕ} {c : String} {d : Char} {behind : List Char}
    {fs gs : List Fragment} (code : c.toList = d :: behind) (stop : d.isDigit = false)
    (h : render (.number m :: .code c :: fs) = render (.number n :: .code c :: gs)) :
    m = n ∧ render fs = render gs := by
  have ends : ∀ (k : ℕ) (x : List Char),
      Json.spanDigits (Nat.toDigits 10 k ++ (c.toList ++ x)) = (Json.digitsOf k, c.toList ++ x) := by
    intro k x
    apply Json.spanDigits_append
    · exact fun _ => Nat.isDigit_of_mem_toDigits (by omega) (by omega)
    · rw [code]
      rintro _ ⟨⟩
      exact stop
  simp only [render_cons, text_number] at h
  have both := ends m (render fs)
  simp only [Fragment.text] at h
  rw [h, ends n (render gs), Prod.mk.injEq, List.append_cancel_left_eq] at both
  exact ⟨(Json.digitsOf_injective both.1).symm, both.2.symm⟩

end Fragment

namespace Script

/-! ### Fragments at the end -/

/-- Texts that are told from what stands in front of them, if a space is the last of it. -/
def FoundAtEnd {α : Type} (text : α → List Char) : Prop :=
  ∀ x y a b, x.getLast? = some ' ' → y.getLast? = some ' ' → x ++ text a = y ++ text b → x = y ∧ a = b

theorem foundAtEnd_literal : FoundAtEnd fun s => (Fragment.literal s).text := by
  intro x y s t hx hy h
  obtain ⟨x, rfl⟩ := List.getLast?_eq_some_iff.mp hx
  obtain ⟨y, rfl⟩ := List.getLast?_eq_some_iff.mp hy
  have open' : x ++ ' ' :: '"' :: Json.escape s.toList = y ++ ' ' :: '"' :: Json.escape t.toList := by
    have closed : (x ++ ' ' :: '"' :: Json.escape s.toList) ++ ['"'] =
        (y ++ ' ' :: '"' :: Json.escape t.toList) ++ ['"'] := by
      simpa [Fragment.text, Json.toList_quote] using h
    exact List.append_cancel_right closed
  obtain ⟨rfl, same⟩ := Json.append_quote_inside_inj (Json.quotesEscaped_escape _)
    (Json.quotesEscaped_escape _) open'
  exact ⟨rfl, Json.quote_injective (by rw [Json.quote, Json.quote, same])⟩

theorem foundAtEnd_number : FoundAtEnd fun n => (Fragment.number n).text := by
  intro x y m n hx hy h
  obtain ⟨x, rfl⟩ := List.getLast?_eq_some_iff.mp hx
  obtain ⟨y, rfl⟩ := List.getLast?_eq_some_iff.mp hy
  have digits : ∀ k : ℕ, ∀ c ∈ (Fragment.number k).text, c.isDigit = true := by
    intro k c hc
    rw [Fragment.text_number] at hc
    exact Nat.isDigit_of_mem_toDigits (by omega) (by omega) hc
  rw [List.append_assoc, List.append_assoc, List.singleton_append, List.singleton_append] at h
  obtain ⟨rfl, _, same⟩ := append_cons_inj_of_last (digits m) (digits n) (by decide) (by decide) h
  exact ⟨rfl, Fragment.text_number_injective same⟩

theorem foundAtEnd_flag : FoundAtEnd fun b => (flag b).text := by
  intro x y a b _ _ h
  have apart : ∀ x y : List Char, x ++ (flag true).text ≠ y ++ (flag false).text := by
    intro x y same
    have back := congrArg (fun l => l.reverse[1]?) same
    simp [flag, Fragment.text] at back
  cases a <;> cases b
  case true.false => exact absurd h (apart x y)
  case false.true => exact absurd h.symm (apart y x)
  all_goals exact ⟨List.append_cancel_right h, rfl⟩

lemma getLast?_append_code {x : List Char} {s : String} {c : Char} (h : s.toList.getLast? = some c) :
    (x ++ (Fragment.code s).text).getLast? = some c := by
  rw [Fragment.text, List.getLast?_append, h]
  rfl

/-! ### Rows of one line -/

/-- A row of fragments is one line. -/
def InLine (fs : List Fragment) : Prop :=
  '\n' ∉ Fragment.render fs

namespace InLine

variable {fs : List Fragment}

lemma nil : InLine [] :=
  List.not_mem_nil

lemma cons {f : Fragment} (hf : '\n' ∉ f.text) (h : InLine fs) : InLine (f :: fs) := by
  rw [InLine, Fragment.render_cons, List.mem_append, not_or]
  exact ⟨hf, h⟩

lemma code {s : String} (hs : '\n' ∉ s.toList) (h : InLine fs) : InLine (.code s :: fs) :=
  cons hs h

lemma literal (s : String) (h : InLine fs) : InLine (.literal s :: fs) := by
  apply cons _ h
  intro hs
  exact absurd (Json.quote_visible s _ hs) (by decide)

lemma number (n : ℕ) (h : InLine fs) : InLine (.number n :: fs) := by
  apply cons _ h
  rw [Fragment.text_number]
  intro hn
  exact absurd (Json.toDigits_visible n _ hn) (by decide)

end InLine

end Script

end LoadingCheck
