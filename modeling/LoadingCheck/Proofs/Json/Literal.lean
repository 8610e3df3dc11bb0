import LoadingCheck.Json.Outline
import Mathlib.Data.List.Basic

set_option relaxedAutoImplicit false
set_option autoImplicit false

/-!
# Literals are read back

A string literal that the writer makes is read back as the text that it was made of, and a number literal
as its number, whatever stands behind it: a string literal ends at its quotation mark, and a number at the
first character that cannot go on with it.

## Main definitions

* `LoadingCheck.Json.pieceOf` — the part of a literal that an escaped character is read as.
* `LoadingCheck.Json.EndsNumber` — a text before which a number ends.

## Main results

* `LoadingCheck.Json.readString_escape` — string literals are read back.
* `LoadingCheck.Json.readNumber_toDigits` — whole numbers of 64 bits are read back.
-/

namespace LoadingCheck.Json

/-! ### String literals -/

/-- The part of a literal that an escaped character is read as: a code unit for the characters below
U+0020 without a short escape. -/
def pieceOf (c : Char) : Piece :=
  if c.toNat < 0x20 ∧ c ≠ '\x08' ∧ c ≠ '\x0c' ∧ c ≠ '\n' ∧ c ≠ '\r' ∧ c ≠ '\t' then .unit c.toNat
  else .char c

/-- The number of a character below U+0020 in four digits. -/
lemma codeUnit?_hexDigit {n : ℕ} (h : n < 0x20) :
    codeUnit? '0' '0' (hexDigit (n / 16)) (hexDigit (n % 16)) = some n := by
  have all : ∀ k : Fin 0x20,
      codeUnit? '0' '0' (hexDigit (k.val / 16)) (hexDigit (k.val % 16)) = some k.val := by
    decide
  exact all ⟨n, h⟩

/-- A character that stands for itself in a literal. -/
lemma pieces_plain {c : Char} (quote : c ≠ '"') (backslash : c ≠ '\\') (visible : ¬ c.toNat < 0x20)
    (rest : List Char) :
    pieces (c :: rest) = (.char c :: (pieces rest).1, (pieces rest).2) := by
  rw [pieces.eq_def]
  split <;> simp_all

/-- An escaped character is one part of a literal.
**Proof sketch.** The cases of the escape are those of the reader: a short escape, a number, or the
character itself. -/
lemma pieces_escapeChar (c : Char) (rest : List Char) :
    pieces (escapeChar c ++ rest) = (pieceOf c :: (pieces rest).1, (pieces rest).2) := by
  rw [escapeChar]
  split_ifs with h1 h2 h3 h4 h5 h6 h7 h8
  · subst h1; rfl
  · subst h2; rfl
  · subst h3; rfl
  · subst h4; rfl
  · subst h5; rfl
  · subst h6; rfl
  · subst h7; rfl
  · rw [pieceOf, if_pos ⟨h8, h3, h4, h5, h6, h7⟩]
    simp only [List.cons_append, List.nil_append]
    rw [pieces, codeUnit?_hexDigit h8]
  · rw [pieceOf, if_neg fun h => h8 h.1]
    exact pieces_plain h1 h2 h8 rest

/-- The digit of a number below sixteen is neither a backslash nor a quotation mark. -/
lemma hexDigit_plain : ∀ n < 16, hexDigit n ≠ '\\' ∧ hexDigit n ≠ '"' := by
  decide

/-- A character is escaped to a backslash, a character and harmless ones behind it, or to itself. -/
lemma escapeChar_cases (c : Char) :
    (∃ d ds, escapeChar c = '\\' :: d :: ds ∧ ∀ e ∈ ds, e ≠ '\\' ∧ e ≠ '"') ∨
      (escapeChar c = [c] ∧ c ≠ '\\' ∧ c ≠ '"') := by
  have short : ∀ d, ∃ d' ds, ['\\', d] = '\\' :: d' :: ds ∧ ∀ e ∈ ds, e ≠ '\\' ∧ e ≠ '"' :=
    fun d => ⟨d, [], rfl, fun e he => absurd he List.not_mem_nil⟩
  rw [escapeChar]
  split_ifs with quote backslash _ _ _ _ _ low
  iterate 7 exact .inl (short _)
  · have high := hexDigit_plain (c.toNat / 16) (by omega)
    have last := hexDigit_plain (c.toNat % 16) (by omega)
    refine .inl ⟨_, _, rfl, fun e he => ?_⟩
    simp only [List.mem_cons, List.not_mem_nil, or_false] at he
    rcases he with rfl | rfl | rfl | rfl
    · decide
    · decide
    · exact high
    · exact last
  · exact .inr ⟨rfl, backslash, quote⟩

lemma escape_cons (c : Char) (s : List Char) : escape (c :: s) = escapeChar c ++ escape s :=
  List.flatMap_cons

/-- The parts of a literal are those of its characters, up to the closing quotation mark. -/
lemma pieces_escape (s rest : List Char) :
    pieces (escape s ++ '"' :: rest) = (s.map pieceOf, .ok rest) := by
  induction s with
  | nil => rfl
  | cons c s ih => rw [escape_cons, List.append_assoc, pieces_escapeChar, ih, List.map_cons]

/-- A code unit that is no half of a pair stands for itself. -/
lemma characters?_single {n : ℕ} (high : isHigh n = false) (low : isLow n = false) (ps : List Piece) :
    characters? (.unit n :: ps) = (Char.ofNat n :: ·) <$> characters? ps := by
  cases ps with
  | nil => simp [characters?, high, low]
  | cons p ps => cases p <;> simp [characters?, high, low]

/-- A code unit below U+0020 is no half of a pair. -/
lemma single_of_lt {n : ℕ} (small : n < 0x20) : isHigh n = false ∧ isLow n = false := by
  rw [isHigh, isLow, Bool.and_eq_false_iff, Bool.and_eq_false_iff]
  exact ⟨.inl (decide_eq_false (by omega)), .inl (decide_eq_false (by omega))⟩

/-- The parts of escaped characters stand for these characters. -/
lemma characters?_map_pieceOf (s : List Char) : characters? (s.map pieceOf) = some s := by
  induction s with
  | nil => rfl
  | cons c s ih =>
    rw [List.map_cons, pieceOf]
    split_ifs with h
    · obtain ⟨high, low⟩ := single_of_lt h.1
      rw [characters?_single high low, ih, Char.ofNat_toNat]
      rfl
    · rw [characters?, ih]
      rfl

/-- A string literal is read back, whatever stands behind it. -/
theorem readString_escape (s : String) (rest : List Char) :
    readString (escape s.toList ++ '"' :: rest) = (.name s, some rest) := by
  rw [readString, pieces_escape]
  simp only [characters?_map_pieceOf, String.ofList_toList]

/-- An escape has no control character in it. -/
lemma escapeChar_visible (c : Char) : ∀ d ∈ escapeChar c, 0x20 ≤ d.toNat := by
  have hex : ∀ k : Fin 16, 0x20 ≤ (hexDigit k.val).toNat := by decide
  rw [escapeChar]
  split_ifs with h1 h2 h3 h4 h5 h6 h7 h8
  iterate 7 simp
  · intro d hd
    simp only [List.mem_cons, List.not_mem_nil, or_false] at hd
    rcases hd with rfl | rfl | rfl | rfl | rfl | rfl
    iterate 4 decide
    · exact hex ⟨c.toNat / 16, by omega⟩
    · exact hex ⟨c.toNat % 16, by omega⟩
  · intro d hd
    rw [List.mem_singleton.mp hd]
    omega

lemma escape_visible (s : List Char) : ∀ d ∈ escape s, 0x20 ≤ d.toNat := by
  intro d hd
  obtain ⟨c, _, hc⟩ := List.mem_flatMap.mp hd
  exact escapeChar_visible c d hc

/-! ### Numbers -/

/-- A text before which a number ends. -/
def EndsNumber (rest : List Char) : Prop :=
  ∀ c ∈ rest.head?, c.isDigit = false ∧ c ≠ '.' ∧ c ≠ 'e' ∧ c ≠ 'E'

lemma endsNumber_nil : EndsNumber [] :=
  fun _ h => absurd h (Option.not_mem_none _)

lemma endsNumber_comma (rest : List Char) : EndsNumber (',' :: rest) := by
  intro c h
  rw [← Option.some.inj h]
  decide

lemma endsNumber_bracket (rest : List Char) : EndsNumber (']' :: rest) := by
  intro c h
  rw [← Option.some.inj h]
  decide

lemma endsNumber_brace (rest : List Char) : EndsNumber ('\x7d' :: rest) := by
  intro c h
  rw [← Option.some.inj h]
  decide

/-- The digits of a number by their values. -/
def digitsOf (n : ℕ) : List ℕ :=
  (Nat.toDigits 10 n).map digitValue

lemma digitsOf_of_lt {n : ℕ} (h : n < 10) : digitsOf n = [n] := by
  rw [digitsOf, Nat.toDigits_of_lt_base h, List.map_singleton, digitValue,
    Nat.toNat_digitChar_sub_48_of_lt_ten h]

lemma digitsOf_of_ge {n : ℕ} (h : 10 ≤ n) : digitsOf n = digitsOf (n / 10) ++ [n % 10] := by
  rw [digitsOf, Nat.toDigits_of_base_le (by omega) h, List.map_append, List.map_singleton, digitValue,
    Nat.toNat_digitChar_sub_48_of_lt_ten (by omega)]
  rfl

/-- The digits of a number of more than one digit do not start with zero. -/
lemma digitsOf_eq (n : ℕ) : digitsOf n = [n] ∨ ∃ d ds, digitsOf n = d :: ds ∧ d ≠ 0 := by
  induction n using Nat.strongRecOn with
  | ind n ih =>
    by_cases small : n < 10
    · exact .inl (digitsOf_of_lt small)
    · rw [digitsOf_of_ge (by omega)]
      rcases ih (n / 10) (by omega) with single | ⟨d, ds, more, nonzero⟩
      · exact .inr ⟨n / 10, [n % 10], by rw [single]; rfl, by omega⟩
      · exact .inr ⟨d, ds ++ [n % 10], by rw [more]; rfl, nonzero⟩

/-- The digits of a number have its value. -/
lemma foldl_digitsOf (n : ℕ) : (digitsOf n).foldl (fun m d => m * 10 + d) 0 = n := by
  induction n using Nat.strongRecOn with
  | ind n ih =>
    by_cases small : n < 10
    · rw [digitsOf_of_lt small, List.foldl_cons, List.foldl_nil]
      omega
    · rw [digitsOf_of_ge (by omega), List.foldl_append, ih (n / 10) (by omega), List.foldl_cons,
        List.foldl_nil]
      omega

/-- Numbers with the same digits are the same. -/
lemma digitsOf_injective {m n : ℕ} (h : digitsOf m = digitsOf n) : m = n := by
  rw [← foldl_digitsOf m, h, foldl_digitsOf]

/-- Digits are taken up to the first other character. -/
lemma spanDigits_append {used rest : List Char} (digits : ∀ c ∈ used, c.isDigit = true)
    (stop : ∀ c ∈ rest.head?, c.isDigit = false) :
    spanDigits (used ++ rest) = (used.map digitValue, rest) := by
  have stops : rest.takeWhile Char.isDigit = [] ∧ rest.dropWhile Char.isDigit = rest := by
    cases rest with
    | nil => exact ⟨rfl, rfl⟩
    | cons c rest =>
      have other := stop c rfl
      exact ⟨List.takeWhile_cons_of_neg (by simp [other]), List.dropWhile_cons_of_neg (by simp [other])⟩
  rw [spanDigits, List.takeWhile_append_of_pos digits, List.dropWhile_append_of_pos digits, stops.1,
    stops.2, List.append_nil]

/-- The digits at the start of a text are those of the number that ends there. -/
lemma spanDigits_toDigits (n : ℕ) {rest : List Char} (h : EndsNumber rest) :
    spanDigits (Nat.toDigits 10 n ++ rest) = (digitsOf n, rest) :=
  spanDigits_append (fun _ => Nat.isDigit_of_mem_toDigits (by omega) (by omega))
    fun c hc => (h c hc).1

/-- Digits after others are absorbed one by one. -/
lemma absorb_append {s s' d : ℕ} {ds : List ℕ} (h : absorb s ds = (s', []))
    (fits : s' * 10 + d ≤ maxSignificand) : absorb s (ds ++ [d]) = (s' * 10 + d, []) := by
  induction ds generalizing s with
  | nil =>
    obtain ⟨rfl, _⟩ := Prod.mk.inj h
    rw [List.nil_append, absorb, if_neg (by omega)]
    rfl
  | cons x ds ih =>
    rw [absorb] at h
    split_ifs at h with beyond
    · exact absurd (Prod.mk.inj h).2 (List.cons_ne_nil _ _)
    · rw [List.cons_append, absorb, if_neg beyond]
      exact ih h

/-- All digits of a number of 64 bits are absorbed. -/
lemma absorb_digitsOf {n : ℕ} (h : n ≤ maxSignificand) : absorb 0 (digitsOf n) = (n, []) := by
  induction n using Nat.strongRecOn with
  | ind n ih =>
    by_cases small : n < 10
    · rw [digitsOf_of_lt small, absorb, Nat.zero_mul, Nat.zero_add, if_neg (by omega)]
      rfl
    · have sum : n / 10 * 10 + n % 10 = n := by omega
      rw [digitsOf_of_ge (by omega), absorb_append (ih (n / 10) (by omega) (by omega)) (by omega), sum]

/-- The whole part of a literal. -/
lemma readWhole_toDigits (n : ℕ) {rest : List Char} (h : EndsNumber rest) :
    readWhole (Nat.toDigits 10 n ++ rest) = .ok (digitsOf n, rest) := by
  rw [readWhole, spanDigits_toDigits n h]
  rcases digitsOf_eq n with single | ⟨d, ds, more, nonzero⟩
  · rw [single]
    cases n <;> rfl
  · rw [more]
    cases d with
    | zero => exact absurd rfl nonzero
    | succ d => rfl

lemma readFraction_of_ends {rest : List Char} (h : EndsNumber rest) : readFraction rest = .ok ([], rest) := by
  cases rest with
  | nil => rfl
  | cons c rest =>
    have point := (h c rfl).2.1
    rw [readFraction]
    rintro r ⟨⟩
    exact point rfl

lemma readExponent_of_ends {rest : List Char} (h : EndsNumber rest) :
    readExponent rest = .ok (none, rest) := by
  cases rest with
  | nil => rfl
  | cons c rest =>
    obtain ⟨_, _, small, capital⟩ := h c rfl
    rw [readExponent.eq_def]
    exact if_neg (not_or.mpr ⟨small, capital⟩)

/-- Numbers start with a digit. -/
lemma toDigits_cons (n : ℕ) : ∃ c ds, Nat.toDigits 10 n = c :: ds ∧ c.isDigit = true := by
  cases digits : Nat.toDigits 10 n with
  | nil => exact absurd digits Nat.toDigits_ne_nil
  | cons c ds =>
    exact ⟨c, ds, rfl, Nat.isDigit_of_mem_toDigits (by omega) (by omega) (digits ▸ List.mem_cons_self)⟩

/-- A literal of digits only. -/
lemma readLiteral_toDigits (n : ℕ) {rest : List Char} (h : EndsNumber rest) :
    readLiteral (Nat.toDigits 10 n ++ rest) = .ok (⟨false, digitsOf n, [], none⟩, rest) := by
  have whole := readWhole_toDigits n h
  obtain ⟨c, ds, digits, digit⟩ := toDigits_cons n
  rw [digits, List.cons_append] at whole ⊢
  have sign : c ≠ '-' := by
    rintro rfl
    exact absurd digit (by decide)
  rw [readLiteral]
  · rw [whole]
    simp only [bind, Except.bind, readFraction_of_ends h, readExponent_of_ends h, pure, Except.pure]
  · rintro r ⟨⟩
    exact sign rfl

/-- A whole number of 64 bits is read back, whatever ends it. -/
theorem readNumber_toDigits {n : ℕ} (fits : n ≤ maxSignificand) {rest : List Char}
    (h : EndsNumber rest) :
    readNumber (Nat.toDigits 10 n ++ rest) = (.number (.integer n), some rest) := by
  rw [readNumber, readLiteral_toDigits n h]
  simp [Literal.number?, absorb_digitsOf fits]

end LoadingCheck.Json
