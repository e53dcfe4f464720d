import RowScript.Decimal.Binary64

/-!
Numbers as they are written: an optional sign, digits with an optional point,
and an optional exponent. Script tokens and the texts of columns are read with
the same numeral, so a number means the same wherever it stands.
-/

namespace RowScript

/-- A number as written. -/
structure Numeral where
  negative : Bool
  whole : List Char
  fraction : Option (List Char)
  exponent : Option Int
deriving DecidableEq

namespace Numeral

/-- The leading digits and what follows them. -/
def takeDigits (text : List Char) : List Char × List Char :=
  (text.takeWhile Char.isDigit, text.dropWhile Char.isDigit)

/-- Whether there is a minus sign, and the text behind the sign. -/
def takeSign : List Char → Bool × List Char
  | '-' :: rest => (true, rest)
  | '+' :: rest => (false, rest)
  | rest => (false, rest)

/-- The natural number with the given digits. -/
def natOf (digits : List Char) : Nat :=
  Nat.ofDigitChars 10 digits 0

def signed (negative : Bool) (n : Nat) : Int :=
  if negative then -(n : Int) else n

/-- An exponent, and the text behind it. Without a digit there is none, and
nothing of it is taken. -/
def takeExponent (text : List Char) : Option Int × List Char :=
  match text with
  | c :: rest =>
    if c = 'e' ∨ c = 'E' then
      let (negative, behindSign) := takeSign rest
      match takeDigits behindSign with
      | ([], _) => (none, text)
      | (digits, behind) => (some (signed negative (natOf digits)), behind)
    else (none, text)
  | [] => (none, text)

/-- The digits behind a point, and the text behind them. -/
def takeFraction : List Char → Option (List Char) × List Char
  | '.' :: rest => (some (takeDigits rest).1, (takeDigits rest).2)
  | text => (none, text)

/-- A numeral at the start of a text, and what follows it. At least one digit
stands before or behind the point. -/
def read? (text : List Char) : Option (Numeral × List Char) :=
  let (negative, behindSign) := takeSign text
  let (whole, behindWhole) := takeDigits behindSign
  let (fraction, behindFraction) := takeFraction behindWhole
  if whole = [] ∧ fraction.getD [] = [] then none
  else
    let (exponent, rest) := takeExponent behindFraction
    some (⟨negative, whole, fraction, exponent⟩, rest)

theorem length_takeDigits_le (text : List Char) :
    (takeDigits text).2.length ≤ text.length :=
  (List.dropWhile_sublist _).length_le

theorem length_lt_of_takeDigits {text : List Char} (h : (takeDigits text).1 ≠ []) :
    (takeDigits text).2.length < text.length := by
  cases text with
  | nil => simp [takeDigits] at h
  | cons c rest =>
    by_cases hc : c.isDigit = true
    · simp only [takeDigits, List.dropWhile_cons, hc, if_true, List.length_cons]
      exact Nat.lt_succ_of_le (List.dropWhile_sublist _).length_le
    · simp only [takeDigits, List.takeWhile_cons, hc, ne_eq, Bool.false_eq_true, if_false,
        not_true_eq_false] at h

theorem length_takeSign_le (text : List Char) : (takeSign text).2.length ≤ text.length := by
  unfold takeSign
  split <;> simp

theorem length_takeFraction_le (text : List Char) :
    (takeFraction text).2.length ≤ text.length := by
  unfold takeFraction
  split
  · exact Nat.le_succ_of_le (length_takeDigits_le _)
  · exact Nat.le_refl _

theorem length_lt_of_takeFraction {text : List Char} (h : (takeFraction text).1.getD [] ≠ []) :
    (takeFraction text).2.length < text.length := by
  unfold takeFraction at h ⊢
  split at h
  · exact Nat.lt_succ_of_le (length_takeDigits_le _)
  · simp at h

theorem length_takeExponent_le (text : List Char) :
    (takeExponent text).2.length ≤ text.length := by
  unfold takeExponent
  split
  · rename_i c rest
    dsimp only
    split
    · have hs := length_takeSign_le rest
      have hd := length_takeDigits_le (takeSign rest).2
      split
      · exact Nat.le_refl _
      · rename_i hd'
        rw [hd'] at hd
        simp only [List.length_cons] at hd ⊢
        omega
    · exact Nat.le_refl _
  · exact Nat.le_refl _

theorem length_lt_of_read? {text rest : List Char} {n : Numeral}
    (h : read? text = some (n, rest)) : rest.length < text.length := by
  simp only [read?] at h
  split at h
  · simp at h
  · rename_i hdigits
    simp only [Option.some.injEq, Prod.mk.injEq] at h
    obtain ⟨_, rfl⟩ := h
    have hsign := length_takeSign_le text
    have hexponent := length_takeExponent_le (takeFraction (takeDigits (takeSign text).2).2).2
    have hwhole := length_takeDigits_le (takeSign text).2
    have hfraction := length_takeFraction_le (takeDigits (takeSign text).2).2
    by_cases hw : (takeDigits (takeSign text).2).1 = []
    · have := length_lt_of_takeFraction fun hf => hdigits ⟨hw, hf⟩
      omega
    · have := length_lt_of_takeDigits hw
      omega

/-- The integer, if there is neither a point nor an exponent. -/
def toInt? (n : Numeral) : Option Int :=
  match n.fraction, n.exponent with
  | none, none => some (signed n.negative (natOf n.whole))
  | _, _ => none

/-- The double nearest to the number. -/
def toBinary64 (n : Numeral) : Binary64 :=
  let fraction := n.fraction.getD []
  Binary64.ofDecimal n.negative (natOf (n.whole ++ fraction))
    (n.exponent.getD 0 - fraction.length)

end Numeral

/-- An integer within the bounds of a word, as that word. -/
def int64? (n : Int) : Option Int64 :=
  if Int64.minValue.toInt ≤ n ∧ n ≤ Int64.maxValue.toInt then some (Int64.ofInt n) else none

/-- An integer within the bounds of a half word. -/
def int32? (n : Int) : Option Int64 :=
  if Int32.minValue.toInt ≤ n ∧ n ≤ Int32.maxValue.toInt then some (Int64.ofInt n) else none

/-- The integer that a text of an optional sign and digits stands for. -/
def integer? (text : List Char) : Option Int :=
  let (negative, digits) := Numeral.takeSign text
  if digits ≠ [] ∧ digits.all Char.isDigit then
    some (Numeral.signed negative (Numeral.natOf digits))
  else none

/-- The double that a text stands for: a numeral, or a word for infinity or for
what is not a number, in any case of letters. -/
def Binary64.ofText? (text : List Char) : Option Binary64 :=
  let (negative, word) := Numeral.takeSign text
  let word := String.ofList (word.map Char.toLower)
  if word = "inf" ∨ word = "infinity" then some (infinity negative)
  else if word = "nan" then some (nan negative)
  else match Numeral.read? text with
    | some (n, []) => some n.toBinary64
    | _ => none

end RowScript
