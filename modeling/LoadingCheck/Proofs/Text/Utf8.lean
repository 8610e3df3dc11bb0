import LoadingCheck.Text.Utf8
import Mathlib.Data.List.Basic

set_option relaxedAutoImplicit false
set_option autoImplicit false

/-!
# Text to bytes and back

The decoder reads back every text that the encoder writes, whatever follows it, and a byte sequence has a
text only if it is one that the encoder writes. A byte below `0x80` is a character of its own wherever it
stands: what comes before it cannot swallow it, not even a character that is cut off.

## Main results

* `LoadingCheck.Utf8.units_encode_append` — the text at the start of bytes is read back.
* `LoadingCheck.Utf8.decode?_eq_some_iff` — exactly the encoded texts have a text.
* `LoadingCheck.Utf8.units_append_ascii` — bytes below `0x80` cut a byte sequence in two.
* `LoadingCheck.Utf8.decodeLossy_cut` — what is left of a text whose bytes are cut off.
-/

namespace LoadingCheck.Utf8

@[simp]
lemma units_nil : units [] = [] := rfl

lemma unitsFrom_none_cons (b : UInt8) (rest : List UInt8) :
    unitsFrom none (b :: rest) = (readFirst b).1 ++ unitsFrom (readFirst b).2 rest := by
  rw [unitsFrom]

lemma unitsFrom_some_cons (p : Pending) (b : UInt8) (rest : List UInt8) :
    unitsFrom (some p) (b :: rest) = (readNext p b).1 ++ unitsFrom (readNext p b).2 rest := by
  rw [unitsFrom]

/-! ### One byte after the other -/

/-- A first byte that stands for a character. -/
lemma units_whole {b : UInt8} {c : Char} (h : lead b.toNat = .whole c) (rest : List UInt8) :
    units (b :: rest) = some c :: units rest := by
  rw [units, unitsFrom_none_cons, readFirst, h]
  rfl

/-- A first byte that opens a longer character. -/
lemma units_opens {b : UInt8} {p : Pending} (h : lead b.toNat = .opens p) (rest : List UInt8) :
    units (b :: rest) = unitsFrom (some p) rest := by
  rw [units, unitsFrom_none_cons, readFirst, h]
  rfl

/-- Reads a byte in bounds that is the last one of its character. -/
lemma readNext_last {p : Pending} {b : UInt8} (owed : p.owed ≤ 1) (low : p.low ≤ b.toNat)
    (high : b.toNat ≤ p.high) :
    readNext p b = ([some (Char.ofNat (p.value * 64 + (b.toNat - 0x80)))], none) := by
  rw [readNext, if_pos ⟨low, high⟩]
  exact if_pos owed

/-- Reads a byte in bounds that more have to follow. -/
lemma readNext_more {p : Pending} {b : UInt8} (owed : ¬ p.owed ≤ 1) (low : p.low ≤ b.toNat)
    (high : b.toNat ≤ p.high) :
    readNext p b = ([], some ⟨p.value * 64 + (b.toNat - 0x80), p.owed - 1, 0x80, 0xBF⟩) := by
  rw [readNext, if_pos ⟨low, high⟩]
  exact if_neg owed

lemma toNat_ofNat {n : ℕ} (h : n < 256) : (UInt8.ofNat n).toNat = n := by
  rw [UInt8.toNat_ofNat']
  omega

section

variable {value low high k : ℕ} (six : k < 64) (above : low ≤ k + 0x80) (below : k + 0x80 ≤ high)

include six above below

/-- A byte with six bits that is the last one of its character. -/
lemma unitsFrom_last (rest : List UInt8) :
    unitsFrom (some ⟨value, 1, low, high⟩) (UInt8.ofNat (k + 0x80) :: rest) =
      some (Char.ofNat (value * 64 + k)) :: units rest := by
  have byte : (UInt8.ofNat (k + 0x80)).toNat = k + 0x80 := toNat_ofNat (by omega)
  rw [unitsFrom_some_cons, readNext_last (Nat.le_refl 1) (byte.symm ▸ above) (byte.symm ▸ below), byte,
    Nat.add_sub_cancel]
  rfl

/-- A byte with six bits that more have to follow. -/
lemma unitsFrom_more (owed : ℕ) (rest : List UInt8) :
    unitsFrom (some ⟨value, owed + 2, low, high⟩) (UInt8.ofNat (k + 0x80) :: rest) =
      unitsFrom (some ⟨value * 64 + k, owed + 1, 0x80, 0xBF⟩) rest := by
  have byte : (UInt8.ofNat (k + 0x80)).toNat = k + 0x80 := toNat_ofNat (by omega)
  rw [unitsFrom_some_cons, readNext_more (by simp) (byte.symm ▸ above) (byte.symm ▸ below), byte,
    Nat.add_sub_cancel]
  rfl

end

/-! ### Characters of each length -/

/-- The code point of a character is no surrogate and at most U+10FFFF. -/
lemma toNat_bounds (c : Char) : c.toNat < 0xD800 ∨ 0xDFFF < c.toNat ∧ c.toNat < 0x110000 :=
  c.valid

lemma lead_two {n : ℕ} (low : 0x80 ≤ n) (high : n ≤ 0x7FF) :
    lead (n / 64 + 0xC0) = .opens ⟨n / 64, 1, 0x80, 0xBF⟩ := by
  rw [lead, if_neg (by omega), if_neg (by omega), if_pos (by omega), Nat.add_sub_cancel]

/-- The first byte of three leaves the second one enough room. -/
lemma lead_three {n : ℕ} (low : 0x7FF < n) (high : n ≤ 0xFFFF) (valid : n < 0xD800 ∨ 0xDFFF < n) :
    ∃ l h, lead (n / 4096 + 0xE0) = .opens ⟨n / 4096, 2, l, h⟩ ∧
      l ≤ n / 64 % 64 + 0x80 ∧ n / 64 % 64 + 0x80 ≤ h := by
  rw [lead, if_neg (by omega), if_neg (by omega), if_neg (by omega)]
  by_cases first : n / 4096 = 0
  · rw [if_pos (by omega), first]
    exact ⟨_, _, rfl, by omega, by omega⟩
  · rw [if_neg (by omega)]
    by_cases surrogate : n / 4096 = 0xD
    · rw [if_pos (by omega), surrogate]
      exact ⟨_, _, rfl, by omega, by omega⟩
    · rw [if_neg (by omega), if_pos (by omega), Nat.add_sub_cancel]
      exact ⟨_, _, rfl, by omega, by omega⟩

/-- The first byte of four leaves the second one enough room. -/
lemma lead_four {n : ℕ} (low : 0xFFFF < n) (high : n < 0x110000) :
    ∃ l h, lead (n / 262144 + 0xF0) = .opens ⟨n / 262144, 3, l, h⟩ ∧
      l ≤ n / 4096 % 64 + 0x80 ∧ n / 4096 % 64 + 0x80 ≤ h := by
  rw [lead, if_neg (by omega), if_neg (by omega), if_neg (by omega), if_neg (by omega),
    if_neg (by omega), if_neg (by omega)]
  by_cases first : n / 262144 = 0
  · rw [if_pos (by omega), first]
    exact ⟨_, _, rfl, by omega, by omega⟩
  · rw [if_neg (by omega)]
    by_cases last : n / 262144 = 4
    · rw [if_neg (by omega), if_pos (by omega), last]
      exact ⟨_, _, rfl, by omega, by omega⟩
    · rw [if_pos (by omega), Nat.add_sub_cancel]
      exact ⟨_, _, rfl, by omega, by omega⟩

/-- The bytes of a character by its code point: the first byte has what the others leave, and each of them
has six bits. -/
lemma encodeChar_eq (c : Char) :
    String.utf8EncodeChar c =
      let n := c.toNat
      if n ≤ 0x7F then [.ofNat n]
      else if n ≤ 0x7FF then [.ofNat (n / 64 + 0xC0), .ofNat (n % 64 + 0x80)]
      else if n ≤ 0xFFFF then
        [.ofNat (n / 4096 + 0xE0), .ofNat (n / 64 % 64 + 0x80), .ofNat (n % 64 + 0x80)]
      else
        [.ofNat (n / 262144 + 0xF0), .ofNat (n / 4096 % 64 + 0x80), .ofNat (n / 64 % 64 + 0x80),
          .ofNat (n % 64 + 0x80)] := by
  have valid := toNat_bounds c
  have val : c.val.toNat = c.toNat := rfl
  rw [String.utf8EncodeChar, val]
  generalize c.toNat = n at valid
  dsimp only
  split_ifs with one two three
  · rfl
  · rw [Nat.mod_eq_of_lt (by omega : n / 64 < 0x20)]
  · rw [Nat.mod_eq_of_lt (by omega : n / 4096 < 0x10)]
  · rw [Nat.mod_eq_of_lt (by omega : n / 262144 < 0x08)]

/-- The bytes of a character are read back, whatever follows them.
**Proof sketch.** The first byte opens a character with the bits that it carries, and each byte after it
adds six; the second byte is in bounds since the code point needs that many bytes and is no surrogate. -/
lemma units_encodeChar (c : Char) (rest : List UInt8) :
    units (String.utf8EncodeChar c ++ rest) = some c :: units rest := by
  have valid := toNat_bounds c
  have back : Char.ofNat c.toNat = c := Char.ofNat_toNat c
  rw [encodeChar_eq]
  generalize c.toNat = n at valid back
  dsimp only
  split_ifs with one two three
  · rw [List.singleton_append, units_whole (c := c)]
    rw [toNat_ofNat (by omega), lead, if_pos (by omega), back]
  · have opens := lead_two (by omega) two
    have sum : n / 64 * 64 + n % 64 = n := by omega
    rw [← toNat_ofNat (by omega : n / 64 + 0xC0 < 256)] at opens
    rw [List.cons_append, List.singleton_append, units_opens opens,
      unitsFrom_last (by omega) (by omega) (by omega), sum, back]
  · obtain ⟨l, h, opens, low, high⟩ := lead_three (by omega) three (by omega)
    have sum : (n / 4096 * 64 + n / 64 % 64) * 64 + n % 64 = n := by omega
    rw [← toNat_ofNat (by omega : n / 4096 + 0xE0 < 256)] at opens
    rw [List.cons_append, List.cons_append, List.singleton_append, units_opens opens,
      unitsFrom_more (by omega) low high, unitsFrom_last (by omega) (by omega) (by omega), sum, back]
  · obtain ⟨l, h, opens, low, high⟩ := lead_four (by omega) (by omega : n < 0x110000)
    have sum : ((n / 262144 * 64 + n / 4096 % 64) * 64 + n / 64 % 64) * 64 + n % 64 = n := by omega
    rw [← toNat_ofNat (by omega : n / 262144 + 0xF0 < 256)] at opens
    rw [List.cons_append, List.cons_append, List.cons_append, List.singleton_append,
      units_opens opens, unitsFrom_more (by omega) low high,
      unitsFrom_more (by omega) (by omega) (by omega),
      unitsFrom_last (by omega) (by omega) (by omega), sum, back]

/-! ### Texts -/

lemma encode_cons (c : Char) (s : List Char) : encode (c :: s) = String.utf8EncodeChar c ++ encode s :=
  List.flatMap_cons

/-- The text at the start of bytes is read back, whatever follows it. -/
theorem units_encode_append (s : List Char) (rest : List UInt8) :
    units (encode s ++ rest) = s.map some ++ units rest := by
  induction s with
  | nil => rfl
  | cons c s ih =>
    rw [encode_cons, List.append_assoc, units_encodeChar, ih, List.map_cons, List.cons_append]

lemma units_encode (s : List Char) : units (encode s) = s.map some := by
  have h := units_encode_append s []
  rwa [List.append_nil, units_nil, List.append_nil] at h

@[simp]
lemma decodeLossy_encode (s : List Char) : decodeLossy (encode s) = s := by
  rw [decodeLossy, units_encode, List.map_map]
  exact List.map_id s

lemma mapM_id_eq_some_iff {α : Type} {us : List (Option α)} {s : List α} :
    us.mapM id = some s ↔ us = s.map some := by
  induction us generalizing s with
  | nil => cases s <;> simp
  | cons u us ih => cases u <;> cases s <;> simp [Option.bind_eq_some_iff, ih, and_comm]

@[simp]
lemma decode?_encode (s : List Char) : decode? (encode s) = some s :=
  mapM_id_eq_some_iff.mpr (units_encode s)

/-! ### Byte sequences that have a text -/

/-- Bytes that complete a character that is not complete. -/
inductive Completes : Pending → List UInt8 → Char → Prop
  | last {p : Pending} {b : UInt8} (owed : p.owed ≤ 1) (low : p.low ≤ b.toNat)
      (high : b.toNat ≤ p.high) :
      Completes p [b] (Char.ofNat (p.value * 64 + (b.toNat - 0x80)))
  | more {p : Pending} {b : UInt8} {tail : List UInt8} {c : Char} (owed : ¬ p.owed ≤ 1)
      (low : p.low ≤ b.toNat) (high : b.toNat ≤ p.high)
      (next : Completes ⟨p.value * 64 + (b.toNat - 0x80), p.owed - 1, 0x80, 0xBF⟩ tail c) :
      Completes p (b :: tail) c

/-- A character that needs one byte has one. -/
lemma Completes.last_byte {p : Pending} {tail : List UInt8} {c : Char} (h : Completes p tail c)
    (owed : p.owed = 1) :
    ∃ x, tail = [x] ∧ p.low ≤ x.toNat ∧ x.toNat ≤ p.high ∧
      c = Char.ofNat (p.value * 64 + (x.toNat - 0x80)) := by
  cases h with
  | last _ low high => exact ⟨_, rfl, low, high, rfl⟩
  | more more => exact absurd (Nat.le_of_eq owed) more

/-- A character that needs more bytes than one has a byte, and then the others. -/
lemma Completes.next_byte {p : Pending} {tail : List UInt8} {c : Char} (h : Completes p tail c)
    (owed : 1 < p.owed) :
    ∃ x rest, tail = x :: rest ∧ p.low ≤ x.toNat ∧ x.toNat ≤ p.high ∧
      Completes ⟨p.value * 64 + (x.toNat - 0x80), p.owed - 1, 0x80, 0xBF⟩ rest c := by
  cases h with
  | last one => omega
  | more _ low high next => exact ⟨_, _, rfl, low, high, next⟩

/-- A character that is not complete is either completed by what follows or malformed. -/
lemma completes_of_unitsFrom {p : Pending} {bytes : List UInt8} {c : Char} {us : List (Option Char)}
    (h : unitsFrom (some p) bytes = some c :: us) :
    ∃ tail rest, bytes = tail ++ rest ∧ Completes p tail c ∧ units rest = us := by
  induction bytes generalizing p with
  | nil => simp [unitsFrom] at h
  | cons b bytes ih =>
    rw [unitsFrom_some_cons] at h
    by_cases bounds : p.low ≤ b.toNat ∧ b.toNat ≤ p.high
    · by_cases owed : p.owed ≤ 1
      · rw [readNext_last owed bounds.1 bounds.2, List.singleton_append, List.cons.injEq] at h
        obtain ⟨char, rest⟩ := h
        rw [← Option.some.inj char]
        exact ⟨[b], bytes, rfl, .last owed bounds.1 bounds.2, rest⟩
      · rw [readNext_more owed bounds.1 bounds.2, List.nil_append] at h
        obtain ⟨tail, rest, rfl, next, units⟩ := ih h
        exact ⟨b :: tail, rest, rfl, .more owed bounds.1 bounds.2 next, units⟩
    · rw [readNext, if_neg bounds, List.cons_append, List.cons.injEq] at h
      exact absurd h.1 (Option.some_ne_none c).symm

/-- A byte opens a character with the bits that it carries, and bounds for the next byte that leave out
overlong forms, surrogates and what is above the last code point. -/
def Opens (b : ℕ) (p : Pending) : Prop :=
  p = ⟨b - 0xC0, 1, 0x80, 0xBF⟩ ∧ 0xC2 ≤ b ∧ b < 0xE0 ∨
    (∃ l h, p = ⟨b - 0xE0, 2, l, h⟩ ∧ 0xE0 ≤ b ∧ b < 0xF0 ∧ 0x80 ≤ l ∧ h ≤ 0xBF ∧
      (b = 0xE0 → 0xA0 ≤ l) ∧ (b = 0xED → h ≤ 0x9F)) ∨
    ∃ l h, p = ⟨b - 0xF0, 3, l, h⟩ ∧ 0xF0 ≤ b ∧ b < 0xF5 ∧ 0x80 ≤ l ∧ h ≤ 0xBF ∧
      (b = 0xF0 → 0x90 ≤ l) ∧ (b = 0xF4 → h ≤ 0x8F)

/-- What a first byte can be. -/
lemma lead_cases (b : ℕ) :
    (b < 0x80 ∧ lead b = .whole (Char.ofNat b)) ∨ lead b = .malformed ∨
      ∃ p, lead b = .opens p ∧ Opens b p := by
  rw [lead]
  by_cases h1 : b < 0x80
  · rw [if_pos h1]
    exact .inl ⟨h1, rfl⟩
  by_cases h2 : b < 0xC2
  · rw [if_neg h1, if_pos h2]
    exact .inr (.inl rfl)
  rw [if_neg h1, if_neg h2]
  by_cases h3 : b < 0xE0
  · rw [if_pos h3]
    exact .inr (.inr ⟨_, rfl, .inl ⟨rfl, by omega⟩⟩)
  rw [if_neg h3]
  by_cases h4 : b = 0xE0
  · rw [if_pos h4]
    exact .inr (.inr ⟨_, rfl, .inr (.inl ⟨0xA0, 0xBF, by rw [h4], by omega⟩)⟩)
  rw [if_neg h4]
  by_cases h5 : b = 0xED
  · rw [if_pos h5]
    exact .inr (.inr ⟨_, rfl, .inr (.inl ⟨0x80, 0x9F, by rw [h5], by omega⟩)⟩)
  rw [if_neg h5]
  by_cases h6 : b < 0xF0
  · rw [if_pos h6]
    exact .inr (.inr ⟨_, rfl, .inr (.inl ⟨0x80, 0xBF, rfl, by omega⟩)⟩)
  rw [if_neg h6]
  by_cases h7 : b = 0xF0
  · rw [if_pos h7]
    exact .inr (.inr ⟨_, rfl, .inr (.inr ⟨0x90, 0xBF, by rw [h7], by omega⟩)⟩)
  rw [if_neg h7]
  by_cases h8 : b < 0xF4
  · rw [if_pos h8]
    exact .inr (.inr ⟨_, rfl, .inr (.inr ⟨0x80, 0xBF, rfl, by omega⟩)⟩)
  rw [if_neg h8]
  by_cases h9 : b = 0xF4
  · rw [if_pos h9]
    exact .inr (.inr ⟨_, rfl, .inr (.inr ⟨0x80, 0x8F, by rw [h9], by omega⟩)⟩)
  · rw [if_neg h9]
    exact .inr (.inl rfl)

lemma lead_eq_opens {b : ℕ} {p : Pending} (h : lead b = .opens p) : Opens b p := by
  rcases lead_cases b with ⟨_, whole⟩ | malformed | ⟨q, opens, bounds⟩
  · exact absurd (h.symm.trans whole) Lead.noConfusion
  · exact absurd (h.symm.trans malformed) Lead.noConfusion
  · rwa [Lead.opens.inj (h.symm.trans opens)]

lemma lead_eq_whole {b : ℕ} {c : Char} (h : lead b = .whole c) : b < 0x80 ∧ c = Char.ofNat b := by
  rcases lead_cases b with ⟨small, whole⟩ | malformed | ⟨q, opens, _⟩
  · exact ⟨small, Lead.whole.inj (h.symm.trans whole)⟩
  · exact absurd (h.symm.trans malformed) Lead.noConfusion
  · exact absurd (h.symm.trans opens) Lead.noConfusion

/-- A code point that is no surrogate is that of its character. -/
lemma toNat_ofNat_char {n : ℕ} (h : n < 0xD800 ∨ 0xDFFF < n ∧ n < 0x110000) :
    (Char.ofNat n).toNat = n := by
  have valid : n.isValidChar := h
  rw [Char.ofNat, dif_pos valid]
  rfl

lemma byte_eq {b : UInt8} {n : ℕ} (h : n = b.toNat) : UInt8.ofNat n = b := by
  rw [h, UInt8.ofNat_toNat]

/-- A first byte and the bytes that complete its character are the bytes of that character.
**Proof sketch.** The number of bytes and the bounds of the second one put the code point where that many
bytes are needed, and outside the surrogates; the quotients of the code point are then the bytes. -/
lemma encodeChar_of_completes {b : UInt8} {p : Pending} {tail : List UInt8} {c : Char}
    (opens : lead b.toNat = .opens p) (h : Completes p tail c) :
    String.utf8EncodeChar c = b :: tail := by
  rcases lead_eq_opens opens with
    ⟨rfl, b1, b2⟩ | ⟨l, r, rfl, b1, b2, l1, r1, first, surrogate⟩ |
      ⟨l, r, rfl, b1, b2, l1, r1, first, above⟩
  · obtain ⟨x, rfl, low, high, char⟩ := h.last_byte rfl
    dsimp only at low high char
    rw [char, encodeChar_eq, toNat_ofNat_char (by omega), if_neg (by omega), if_pos (by omega)]
    rw [byte_eq (b := b) (by omega), byte_eq (b := x) (by omega)]
  · obtain ⟨x, _, rfl, low, high, next⟩ := h.next_byte (Nat.lt_add_one 1)
    obtain ⟨y, rfl, low', high', char⟩ := next.last_byte rfl
    dsimp only at low high low' high' char
    rw [char, encodeChar_eq, toNat_ofNat_char (by omega), if_neg (by omega), if_neg (by omega),
      if_pos (by omega)]
    rw [byte_eq (b := b) (by omega), byte_eq (b := x) (by omega), byte_eq (b := y) (by omega)]
  · obtain ⟨x, _, rfl, low, high, next⟩ := h.next_byte (Nat.lt_succ_of_lt (Nat.lt_add_one 1))
    obtain ⟨y, _, rfl, low', high', next⟩ := next.next_byte (Nat.lt_add_one 1)
    obtain ⟨z, rfl, low'', high'', char⟩ := next.last_byte rfl
    dsimp only at low high low' high' low'' high'' char
    rw [char, encodeChar_eq, toNat_ofNat_char (by omega), if_neg (by omega), if_neg (by omega),
      if_neg (by omega)]
    rw [byte_eq (b := b) (by omega), byte_eq (b := x) (by omega), byte_eq (b := y) (by omega),
      byte_eq (b := z) (by omega)]

/-- A character that is not complete ends as a character or as a malformed stretch. -/
lemma unitsFrom_pending_ne_nil (p : Pending) (bytes : List UInt8) : unitsFrom (some p) bytes ≠ [] := by
  induction bytes generalizing p with
  | nil => simp [unitsFrom]
  | cons b bytes ih =>
    rw [unitsFrom_some_cons]
    by_cases bounds : p.low ≤ b.toNat ∧ b.toNat ≤ p.high
    · by_cases owed : p.owed ≤ 1
      · rw [readNext_last owed bounds.1 bounds.2]
        exact List.cons_ne_nil _ _
      · rw [readNext_more owed bounds.1 bounds.2]
        exact ih _
    · rw [readNext, if_neg bounds]
      exact List.cons_ne_nil _ _

/-- A first byte that stands for a character is its only byte. -/
lemma encodeChar_of_whole {b : UInt8} {c : Char} (h : lead b.toNat = .whole c) :
    String.utf8EncodeChar c = [b] := by
  obtain ⟨small, rfl⟩ := lead_eq_whole h
  rw [encodeChar_eq, toNat_ofNat_char (by omega), if_pos (by omega), UInt8.ofNat_toNat]

/-- Bytes without a malformed stretch are those of their text. -/
lemma eq_encode_of_units {bytes : List UInt8} {s : List Char} (h : units bytes = s.map some) :
    bytes = encode s := by
  induction s generalizing bytes with
  | nil =>
    cases bytes with
    | nil => rfl
    | cons b rest =>
      rw [List.map_nil] at h
      cases first : lead b.toNat with
      | whole c => simp [units_whole first] at h
      | malformed => simp [units, unitsFrom_none_cons, readFirst, first] at h
      | opens p =>
        rw [units_opens first] at h
        exact absurd h (unitsFrom_pending_ne_nil p rest)
  | cons c s ih =>
    cases bytes with
    | nil => simp at h
    | cons b rest =>
      rw [List.map_cons] at h
      cases first : lead b.toNat with
      | malformed => simp [units, unitsFrom_none_cons, readFirst, first] at h
      | whole c' =>
        rw [units_whole first, List.cons.injEq] at h
        obtain ⟨char, more⟩ := h
        rw [Option.some.inj char] at first
        rw [encode_cons, encodeChar_of_whole first, ← ih more, List.singleton_append]
      | opens p =>
        rw [units_opens first] at h
        obtain ⟨tail, rest, rfl, done, more⟩ := completes_of_unitsFrom h
        rw [encode_cons, encodeChar_of_completes first done, ← ih more, List.cons_append]

/-- Exactly the encoded texts have a text. -/
theorem decode?_eq_some_iff {bytes : List UInt8} {s : List Char} :
    decode? bytes = some s ↔ bytes = encode s := by
  constructor
  · intro h
    exact eq_encode_of_units (mapM_id_eq_some_iff.mp h)
  · rintro rfl
    exact decode?_encode s

/-! ### Bytes below 0x80 -/

/-- Whether a byte below `0x80` cannot continue a character. -/
def Guarded (state : Option Pending) : Prop :=
  ∀ p, state = some p → 0x80 ≤ p.low

lemma guarded_readFirst (b : UInt8) : Guarded (readFirst b).2 := by
  intro p h
  rw [readFirst] at h
  cases first : lead b.toNat with
  | whole c => simp [first] at h
  | malformed => simp [first] at h
  | opens q =>
    rw [first] at h
    rw [← Option.some.inj h]
    rcases lead_eq_opens first with ⟨rfl, _⟩ | ⟨l, r, rfl, _, _, low, _⟩ |
      ⟨l, r, rfl, _, _, low, _⟩
    · exact Nat.le_refl _
    · exact low
    · exact low

lemma guarded_readNext (p : Pending) (b : UInt8) : Guarded (readNext p b).2 := by
  by_cases bounds : p.low ≤ b.toNat ∧ b.toNat ≤ p.high
  · by_cases owed : p.owed ≤ 1
    · rw [readNext_last owed bounds.1 bounds.2]
      exact fun _ h => absurd h (Option.some_ne_none _).symm
    · rw [readNext_more owed bounds.1 bounds.2]
      intro q h
      obtain rfl := Option.some.inj h
      exact Nat.le_refl 0x80
  · rw [readNext, if_neg bounds]
    exact guarded_readFirst b

/-- **Proof sketch.** Induction on the bytes before the cut; the bounds for the next byte of a character
are never below `0x80`, so the byte at the cut closes whatever is open there. -/
lemma unitsFrom_append_ascii {state : Option Pending} (guarded : Guarded state) (before : List UInt8)
    {b : UInt8} (small : b.toNat < 0x80) (after : List UInt8) :
    unitsFrom state (before ++ b :: after) =
      unitsFrom state before ++ some (Char.ofNat b.toNat) :: units after := by
  have whole : readFirst b = ([some (Char.ofNat b.toNat)], none) := by
    rw [readFirst, lead, if_pos small]
  induction before generalizing state with
  | nil =>
    cases state with
    | none =>
      rw [List.nil_append, unitsFrom_none_cons, whole]
      rfl
    | some p =>
      have low := guarded p rfl
      rw [List.nil_append, unitsFrom_some_cons, readNext, if_neg (by omega), whole]
      rfl
  | cons x before ih =>
    cases state with
    | none =>
      rw [List.cons_append, unitsFrom_none_cons, unitsFrom_none_cons, ih (guarded_readFirst x),
        List.append_assoc]
    | some p =>
      rw [List.cons_append, unitsFrom_some_cons, unitsFrom_some_cons, ih (guarded_readNext p x),
        List.append_assoc]

/-- A byte below `0x80` cuts a byte sequence in two: it is a character of its own, and what is before it
and what is after it are read apart from each other. -/
theorem units_append_ascii (before : List UInt8) {b : UInt8} (small : b.toNat < 0x80)
    (after : List UInt8) :
    units (before ++ b :: after) = units before ++ some (Char.ofNat b.toNat) :: units after :=
  unitsFrom_append_ascii (fun _ h => absurd h (Option.some_ne_none _).symm) before small after

lemma decodeLossy_append_ascii (before : List UInt8) {b : UInt8} (small : b.toNat < 0x80)
    (after : List UInt8) :
    decodeLossy (before ++ b :: after) =
      decodeLossy before ++ Char.ofNat b.toNat :: decodeLossy after := by
  rw [decodeLossy, units_append_ascii before small, List.map_append, List.map_cons]
  rfl

/-- A byte below `0x80` in the bytes of a character is the character. -/
lemma ofNat_of_mem_encodeChar {c : Char} {b : UInt8} (h : b ∈ String.utf8EncodeChar c)
    (small : b.toNat < 0x80) : Char.ofNat b.toNat = c := by
  have valid := toNat_bounds c
  rw [encodeChar_eq] at h
  have byte : ∀ k < 256, b = UInt8.ofNat k → b.toNat = k := by
    rintro k bound rfl
    exact toNat_ofNat bound
  dsimp only at h
  split_ifs at h with one two three <;> simp only [List.mem_cons, List.not_mem_nil, or_false] at h
  · rw [byte _ (by omega) h, Char.ofNat_toNat]
  · rcases h with h | h <;> have := byte _ (by omega) h <;> omega
  · rcases h with h | h | h <;> have := byte _ (by omega) h <;> omega
  · rcases h with h | h | h | h <;> have := byte _ (by omega) h <;> omega

/-- A byte below `0x80` in the bytes of a text is one of its characters. -/
lemma ofNat_mem_of_mem_encode {s : List Char} {b : UInt8} (h : b ∈ encode s)
    (small : b.toNat < 0x80) : Char.ofNat b.toNat ∈ s := by
  obtain ⟨c, hc, hb⟩ := List.mem_flatMap.mp h
  rw [ofNat_of_mem_encodeChar hb small]
  exact hc

/-- A byte below `0x80` in the bytes of a text stands where one of its characters starts. -/
lemma exists_split_of_ascii {s : List Char} {i : ℕ} {b : UInt8} (byte : (encode s)[i]? = some b)
    (small : b.toNat < 0x80) : ∃ front back, s = front ++ back ∧ (encode front).length = i := by
  induction s generalizing i with
  | nil => simp [encode] at byte
  | cons c s ih =>
    rw [encode_cons] at byte
    by_cases inside : i < (String.utf8EncodeChar c).length
    · -- the byte is one of the character `c`, which then has no other
      rw [List.getElem?_append_left inside] at byte
      have same := ofNat_of_mem_encodeChar (List.mem_of_getElem? byte) small
      have single : (String.utf8EncodeChar c).length = 1 := by
        rw [← same, encodeChar_eq, toNat_ofNat_char (by omega), if_pos (by omega)]
        rfl
      have first : 0 = i := by omega
      exact ⟨[], c :: s, rfl, first⟩
    · rw [List.getElem?_append_right (by omega)] at byte
      obtain ⟨front, back, rfl, length⟩ := ih byte
      refine ⟨c :: front, back, rfl, ?_⟩
      rw [encode_cons, List.length_append, length]
      omega

/-! ### Bytes that are cut off -/

/-- What completes a character does so with its last byte only. -/
lemma Completes.units_cut {p : Pending} {tail bytes : List UInt8} {c : Char} (h : Completes p tail c)
    (cut : bytes <+: tail) (part : bytes ≠ tail) : unitsFrom (some p) bytes = [none] := by
  induction h generalizing bytes with
  | last =>
    cases bytes with
    | nil => rfl
    | cons d more =>
      obtain ⟨rfl, nothing⟩ := List.cons_prefix_cons.mp cut
      exact absurd (by rw [List.prefix_nil.mp nothing]) part
  | more owed low high _ ih =>
    cases bytes with
    | nil => rfl
    | cons d more =>
      obtain ⟨rfl, inside⟩ := List.cons_prefix_cons.mp cut
      rw [unitsFrom_some_cons, readNext_more owed low high, List.nil_append]
      exact ih inside fun same => part (by rw [same])

/-- The first bytes of a character, without the last of them, are one malformed stretch. -/
lemma units_cut_encodeChar {c : Char} {bytes : List UInt8} (cut : bytes <+: String.utf8EncodeChar c)
    (start : bytes ≠ []) (part : bytes ≠ String.utf8EncodeChar c) : units bytes = [none] := by
  obtain ⟨b, more, rfl⟩ := List.exists_cons_of_ne_nil start
  obtain ⟨tail, shape⟩ : ∃ tail, String.utf8EncodeChar c = b :: tail := by
    obtain ⟨rest, shape⟩ := cut
    exact ⟨more ++ rest, shape.symm⟩
  have whole := units_encodeChar c []
  rw [List.append_nil, units_nil] at whole
  rw [shape] at whole cut part
  obtain ⟨_, cut⟩ := List.cons_prefix_cons.mp cut
  have apart : more ≠ tail := fun same => part (by rw [same])
  cases first : lead b.toNat with
  | malformed => simp [units, unitsFrom_none_cons, readFirst, first] at whole
  | whole d =>
    rw [units_whole first, List.cons.injEq] at whole
    rw [eq_encode_of_units (s := []) whole.2] at cut apart
    exact absurd (List.prefix_nil.mp cut) apart
  | opens p =>
    rw [units_opens first] at whole ⊢
    obtain ⟨tail, rest, rfl, done, nothing⟩ := completes_of_unitsFrom whole
    rw [eq_encode_of_units (s := []) nothing, encode, List.flatMap_nil, List.append_nil] at cut apart
    exact done.units_cut cut apart

/-- The bytes of a text up to a cut are those of its first characters, with a replacement character behind
them if the cut is inside a character. -/
theorem decodeLossy_cut {s : List Char} {bytes : List UInt8} (cut : bytes <+: encode s) :
    ∃ front, front <+: s ∧ (bytes = encode front ∨ decodeLossy bytes = front ++ ['\uFFFD']) := by
  induction s generalizing bytes with
  | nil => exact ⟨[], List.nil_prefix, .inl (List.prefix_nil.mp cut)⟩
  | cons c s ih =>
    rw [encode_cons] at cut
    by_cases start : bytes = []
    · exact ⟨[], List.nil_prefix, .inl start⟩
    rcases List.prefix_or_prefix_of_prefix cut (List.prefix_append _ _) with inside | ⟨more, rfl⟩
    · by_cases whole : bytes = String.utf8EncodeChar c
      · exact ⟨[c], List.cons_prefix_cons.mpr ⟨rfl, List.nil_prefix⟩, .inl (by simp [whole, encode])⟩
      · refine ⟨[], List.nil_prefix, .inr ?_⟩
        rw [decodeLossy, units_cut_encodeChar inside start whole]
        rfl
    · obtain ⟨front, part, same⟩ := ih ((List.prefix_append_right_inj _).mp cut)
      refine ⟨c :: front, List.cons_prefix_cons.mpr ⟨rfl, part⟩, ?_⟩
      rcases same with rfl | same
      · exact .inl rfl
      · refine .inr ?_
        rw [decodeLossy, units_encodeChar, List.map_cons, ← decodeLossy, same]
        rfl

end LoadingCheck.Utf8
