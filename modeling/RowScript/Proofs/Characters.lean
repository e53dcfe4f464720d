import Mathlib.Data.List.TakeWhile
import RowScript.Proofs.Grammar

/-!
The character classes of the lexer are those of the grammar, and the classes keep
apart: nothing that may stand inside a lexeme outside quotes is white space. Runs of
a class end where a character of another class stands, which is how every unquoted
lexeme finds its end.
-/

namespace RowScript.Grammar

open Lexer Text

theorem isSeparator_iff {c : Char} : isSeparator c = true ↔ Separator c := by
  simp [isSeparator, Separator, or_assoc]

theorem isDigit_iff {c : Char} : c.isDigit = true ↔ Digit c := by
  simp only [Char.isDigit, Digit, Char.le_def, Bool.and_eq_true, decide_eq_true_eq, ge_iff_le]

theorem isAlpha_iff {c : Char} : c.isAlpha = true ↔ Letter c := by
  have hupper : c.isUpper = true ↔ 'A' ≤ c ∧ c ≤ 'Z' := decide_eq_true_iff
  have hlower : c.isLower = true ↔ 'a' ≤ c ∧ c ≤ 'z' :=
    (Bool.and_eq_true_iff).trans (and_congr decide_eq_true_iff decide_eq_true_iff)
  rw [Letter, ← hupper, ← hlower]
  exact Bool.or_eq_true_iff

theorem isIdentifierStart_iff {c : Char} : isIdentifierStart c = true ↔ WordStart c := by
  simp only [isIdentifierStart, WordStart, Bool.or_eq_true, isAlpha_iff, beq_iff_eq]

theorem isIdentifierChar_iff {c : Char} : isIdentifierChar c = true ↔ WordChar c := by
  simp only [isIdentifierChar, WordChar, Char.isAlphanum, Bool.or_eq_true, isAlpha_iff,
    isDigit_iff, beq_iff_eq, or_assoc]

theorem isColumnChar_iff {c : Char} : isColumnChar c = true ↔ ColumnChar c := by
  simp only [isColumnChar, ColumnChar, Bool.or_eq_true, beq_iff_eq, or_assoc]

theorem isQuote_iff {c : Char} : isQuote c = true ↔ c = '\'' ∨ c = '"' := by
  simp only [isQuote, Bool.or_eq_true, beq_iff_eq]

theorem quote_apart {quote : Char} (h : quote = '\'' ∨ quote = '"') :
    quote ≠ '\\' ∧ quote ≠ ';' ∧ isBlank quote = false := by
  cases h with
  | inl h => subst h; decide
  | inr h => subst h; decide

theorem unescape?_eq_some_iff {c meant : Char} :
    unescape? c = some meant ↔ Escape c meant := by
  constructor
  · intro h
    unfold unescape? at h
    split at h
    · exact Option.some.inj h ▸ .backslash
    · exact Option.some.inj h ▸ .single
    · exact Option.some.inj h ▸ .double
    · exact Option.some.inj h ▸ .lineFeed
    · exact Option.some.inj h ▸ .tab
    · exact absurd h (by simp)
  · intro h
    cases h <;> rfl

/-- A character that lexemes without quotes are made of. -/
def Bare (c : Char) : Prop := isBlank c = false ∧ isQuote c = false ∧ c ≠ ';'
deriving Decidable

/-- The code points of white space, of the quotes and of the semicolon. -/
def markCodes : List Nat :=
  [0x09, 0x0a, 0x0b, 0x0c, 0x0d, 0x20, 0x85, 0xa0, 0x1680, 0x2000, 0x2001, 0x2002, 0x2003,
    0x2004, 0x2005, 0x2006, 0x2007, 0x2008, 0x2009, 0x200a, 0x2028, 0x2029, 0x202f, 0x205f,
    0x3000, 0x22, 0x27, 0x3b]

theorem mem_markCodes {c : Char} (h : isBlank c = true) : c.toNat ∈ markCodes := by
  simp only [isBlank, Bool.or_eq_true, Bool.and_eq_true, decide_eq_true_eq, beq_iff_eq] at h
  simp only [markCodes, List.mem_cons, List.not_mem_nil]
  omega

/-- A class is bare if none of the listed code points belongs to it. -/
theorem bare_of_class {p : Char → Bool} (hp : ∀ n ∈ markCodes, p (Char.ofNat n) = false)
    {c : Char} (h : p c = true) : Bare c := by
  have hc : c.toNat ∉ markCodes := by
    intro hmem
    have hfalse := hp c.toNat hmem
    rw [Char.ofNat_toNat, h] at hfalse
    exact Bool.noConfusion hfalse
  refine ⟨?_, ?_, ?_⟩
  · exact Bool.eq_false_iff.mpr fun hb => hc (mem_markCodes hb)
  · refine Bool.eq_false_iff.mpr fun hq => hc ?_
    cases isQuote_iff.mp hq with
    | inl h => subst h; decide
    | inr h => subst h; decide
  · intro h
    subst h
    exact hc (by decide)

theorem WordChar.bare {c : Char} (h : WordChar c) : Bare c :=
  bare_of_class (by decide) (isIdentifierChar_iff.mpr h)

theorem ColumnChar.bare {c : Char} (h : ColumnChar c) : Bare c :=
  bare_of_class (by decide +kernel) (isColumnChar_iff.mpr h)

theorem WordStart.wordChar {c : Char} (h : WordStart c) : WordChar c :=
  h.imp id fun h => .inr (.inl h)

theorem Digit.wordChar {c : Char} (h : Digit c) : WordChar c := .inr (.inl h)

theorem Separator.isBlank {c : Char} (h : Separator c) : isBlank c = true := by
  obtain rfl | rfl | rfl | rfl := h <;> decide

theorem Separator.not_wordChar {c : Char} (h : Separator c) : ¬WordChar c :=
  fun hw => Bool.noConfusion (hw.bare.1.symm.trans h.isBlank)

theorem Separator.not_columnChar {c : Char} (h : Separator c) : ¬ColumnChar c :=
  fun hw => Bool.noConfusion (hw.bare.1.symm.trans h.isBlank)

theorem Separator.not_digit {c : Char} (h : Separator c) : ¬Digit c :=
  fun hd => h.not_wordChar hd.wordChar

theorem not_columnChar_comma : ¬ColumnChar ',' :=
  fun h => absurd (isColumnChar_iff.mpr h) (by decide)

/-- A text that does not go on with a character of a class. -/
def Stops (p : Char → Prop) (rest : List Char) : Prop := ∀ c ∈ rest.head?, ¬p c

theorem stops_nil (p : Char → Prop) : Stops p [] := by simp [Stops]

theorem stops_cons {p : Char → Prop} {c : Char} {rest : List Char} :
    Stops p (c :: rest) ↔ ¬p c := by
  simp [Stops]

section

variable {p : Char → Bool} {rest : List Char} (behind : Stops (p · = true) rest)
include behind

theorem takeWhile_extend (text : List Char) : (text ++ rest).takeWhile p = text.takeWhile p := by
  induction text with
  | nil =>
      cases rest with
      | nil => rfl
      | cons c rest => simp [stops_cons.mp behind]
  | cons c text ih => by_cases hc : p c = true <;> simp [hc, ih]

theorem dropWhile_extend (text : List Char) :
    (text ++ rest).dropWhile p = text.dropWhile p ++ rest := by
  induction text with
  | nil =>
      cases rest with
      | nil => rfl
      | cons c rest => simp [stops_cons.mp behind]
  | cons c text ih => by_cases hc : p c = true <;> simp [hc, ih]

end

theorem takeWhile_append_of_stops {p : Char → Bool} {run rest : List Char}
    (inside : ∀ c ∈ run, p c = true) (behind : Stops (p · = true) rest) :
    (run ++ rest).takeWhile p = run := by
  rw [takeWhile_extend behind, List.takeWhile_eq_self_iff.mpr inside]

theorem dropWhile_append_of_stops {p : Char → Bool} {run rest : List Char}
    (inside : ∀ c ∈ run, p c = true) (behind : Stops (p · = true) rest) :
    (run ++ rest).dropWhile p = rest := by
  rw [dropWhile_extend behind, List.dropWhile_eq_nil_iff.mpr inside, List.nil_append]

/-- A place where a lexeme may end. -/
def Boundary (rest : List Char) : Prop := ∀ c ∈ rest.head?, Separator c

theorem isBoundary_iff {rest : List Char} : isBoundary rest = true ↔ Boundary rest := by
  cases rest with
  | nil => simp [isBoundary, Boundary]
  | cons c rest => simp [isBoundary, Boundary, isSeparator_iff]

theorem not_boundary_iff {rest : List Char} :
    ¬Boundary rest ↔ ∃ c behind, rest = c :: behind ∧ ¬Separator c := by
  cases rest with
  | nil => simp [Boundary]
  | cons c rest => simp [Boundary]

theorem Boundary.of_append {text rest : List Char} (h : Boundary (text ++ rest)) :
    Boundary text := by
  cases text with
  | nil => intro c hc; simp at hc
  | cons c text => exact h

theorem Boundary.append {text : List Char} (h : Boundary text) (hne : text ≠ [])
    (rest : List Char) : Boundary (text ++ rest) := by
  rwa [Boundary, List.head?_append_of_ne_nil _ hne]

/-- A place where a word ends: what follows, if anything does, is white space. -/
def WordEnd (rest : List Char) : Prop := ∀ c ∈ rest.head?, isBlank c = true

theorem Boundary.wordEnd {rest : List Char} (h : Boundary rest) : WordEnd rest :=
  fun c hc => (h c hc).isBlank

/-- With the word every run of a bare class ends. -/
theorem WordEnd.stops {rest : List Char} (h : WordEnd rest) {p : Char → Prop}
    (hp : ∀ c, p c → Bare c) : Stops p rest :=
  fun c hc hclass => Bool.noConfusion ((hp c hclass).1.symm.trans (h c hc))

/-- At a boundary every run of a class without separators ends. -/
theorem Boundary.stops {rest : List Char} (h : Boundary rest) {p : Char → Prop}
    (hp : ∀ c, Separator c → ¬p c) : Stops p rest :=
  fun c hc => hp c (h c hc)

end RowScript.Grammar
