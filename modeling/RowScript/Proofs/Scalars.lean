import RowScript.Json.Reader
import RowScript.Proofs.Display
import RowScript.Proofs.Nullability

/-!
JSON scalars written and read again. Every escape of a string stands for the character that
it was written for, and the digits of an integer do not start with a needless zero. A number
has no end of its own, so it is read as it was written only where it is followed by what may
follow a value.
-/

namespace RowScript.Json

open Grammar (Stops takeDigits_append)

/-- What a text may go on with behind a value. -/
def closers : List Char := [' ', '\n', '\t', '\r', ',', ']', '\x7d']

def Ends (rest : List Char) : Prop := ∀ c ∈ rest.head?, c ∈ closers

theorem ends_nil : Ends [] := by simp [Ends]

theorem ends_cons {c : Char} {rest : List Char} : Ends (c :: rest) ↔ c ∈ closers := by
  simp [Ends]

theorem Ends.stops {rest : List Char} (h : Ends rest) {p : Char → Prop}
    (hp : ∀ c ∈ closers, ¬p c) : Stops p rest :=
  fun c hc => hp c (h c hc)

theorem expectWord_append (word rest : List Char) : expectWord word (word ++ rest) = .ok rest := by
  induction word with
  | nil => rfl
  | cons c word ih => simpa [expectWord] using ih

theorem hexValue?_digitChar : ∀ n < 16, Text.hexValue? (Nat.digitChar n) = some n := by
  decide

theorem escape_control {c : Char} (h : c.toNat < 0x20) (text : List Char) :
    escape ('u' :: '0' :: '0' :: Nat.digitChar (c.toNat / 16) ::
      Nat.digitChar (c.toNat % 16) :: text) = .ok (c, text) := by
  have hzero : Text.hexValue? '0' = some 0 := rfl
  have hhigh := hexValue?_digitChar (c.toNat / 16) (by omega)
  have hlow := hexValue?_digitChar (c.toNat % 16) (by omega)
  have hcode : ((0 * 16 + 0) * 16 + c.toNat / 16) * 16 + c.toNat % 16 = c.toNat := by omega
  have hplain : ¬(0xdc00 ≤ c.toNat ∧ c.toNat ≤ 0xdfff) := by omega
  have hsingle : ¬(0xd800 ≤ c.toNat ∧ c.toNat ≤ 0xdbff) := by omega
  simp only [escape, unicodeEscape, hexEscape, hzero, hhigh, hlow, hcode, if_neg hplain,
    if_neg hsingle, Char.ofNat_toNat]

theorem stringBody_escapeChar (c : Char) (fuel : Nat) (text : List Char) :
    stringBody (fuel + 1) (escapeChar c ++ text) =
      (stringBody fuel text).map fun read => (c :: read.1, read.2) := by
  unfold escapeChar
  split
  case h_8 hquote hslash _ _ _ _ _ =>
    split
    · rename_i hcontrol
      simp only [List.cons_append, List.nil_append, stringBody, escape_control hcontrol]
      cases stringBody fuel text <;> rfl
    · rename_i hplain
      rw [List.singleton_append, stringBody.eq_def]
      simp only [if_neg hplain]
      cases stringBody fuel text <;> rfl
  all_goals
    simp only [List.cons_append, List.nil_append, stringBody, escape]
    cases stringBody fuel text <;> rfl

theorem stringBody_escaped {content rest : List Char} {fuel : Nat} (h : content.length < fuel) :
    stringBody fuel (content.flatMap escapeChar ++ '"' :: rest) = .ok (content, rest) := by
  induction content generalizing fuel with
  | nil =>
      obtain ⟨fuel, rfl⟩ := Nat.exists_eq_add_one.mpr (Nat.zero_lt_of_lt h)
      rfl
  | cons c content ih =>
      obtain ⟨fuel, rfl⟩ := Nat.exists_eq_add_one.mpr (Nat.zero_lt_of_lt h)
      rw [List.flatMap_cons, List.append_assoc, stringBody_escapeChar,
        ih (Nat.lt_of_succ_lt_succ h)]
      rfl

theorem length_le_flatMap_escapeChar (content : List Char) :
    content.length ≤ (content.flatMap escapeChar).length := by
  induction content with
  | nil => exact Nat.le_refl 0
  | cons c content ih =>
      have hwritten : 0 < (escapeChar c).length := by
        unfold escapeChar
        repeat' split
        all_goals exact Nat.zero_lt_succ _
      rw [List.flatMap_cons, List.length_append, List.length_cons]
      omega

theorem string_append (content : String) (rest : List Char) :
    string (content.toList.flatMap escapeChar ++ '"' :: rest) = .ok (content, rest) := by
  have hlength := length_le_flatMap_escapeChar content.toList
  rw [string, stringBody_escaped]
  · simp
  · simp only [List.length_append, List.length_cons]
    omega

/-- The digits of a number start with a zero only where they are nothing else. -/
theorem toDigits_head {m : Nat} (h : 0 < m) :
    ∃ c more, Nat.toDigits 10 m = c :: more ∧ c ≠ '0' := by
  induction m using Nat.strongRecOn with
  | ind m ih =>
      by_cases hm : m < 10
      · refine ⟨Nat.digitChar m, [], Nat.toDigits_of_lt_base hm, ?_⟩
        intro hzero
        rw [← Char.toNat_inj, Nat.toNat_digitChar_of_lt_ten hm] at hzero
        have hcode : '0'.toNat = 48 := rfl
        omega
      · obtain ⟨c, more, hfront, hc⟩ := ih (m / 10) (by omega) (by omega)
        rw [Nat.toDigits_of_base_le (by omega) (by omega), hfront]
        exact ⟨c, _, rfl, hc⟩

/-- No number but zero starts with a zero, so the digits of a number are taken as they are. -/
theorem wholeDigits_append (m : Nat) {rest : List Char} (h : Stops Grammar.Digit rest) :
    wholeDigits (Nat.toDigits 10 m ++ rest) = .ok (Nat.toDigits 10 m, rest) := by
  obtain ⟨hne, hdigits⟩ := Grammar.digits_toDigits m
  rw [wholeDigits, takeDigits_append hdigits h]
  split
  · rename_i heq
    exact absurd (congrArg Prod.fst heq) hne
  · rename_i heq
    obtain rfl | hm := Nat.eq_zero_or_pos m
    · cases heq
    · obtain ⟨c, more, hhead, hc⟩ := toDigits_head hm
      have hfirst := congrArg Prod.fst heq
      rw [hhead] at hfirst
      exact absurd (List.cons.inj hfirst).1 hc
  · rename_i heq
    cases heq
    rfl

theorem Ends.fractionDigits {rest : List Char} (h : Ends rest) :
    fractionDigits rest = .ok (none, rest) := by
  have hpoint : Stops (· = '.') rest := h.stops (by simp [closers])
  unfold Json.fractionDigits
  split
  · exact absurd rfl (hpoint '.' rfl)
  · rfl

theorem Ends.exponentPart {rest : List Char} (h : Ends rest) :
    exponentPart rest = .ok (none, rest) := by
  have hletter : Stops (fun c => c = 'e' ∨ c = 'E') rest := h.stops (by simp [closers])
  unfold Json.exponentPart
  split
  · exact absurd (.inl rfl) (hletter 'e' rfl)
  · exact absurd (.inr rfl) (hletter 'E' rfl)
  · rfl

def signText (negative : Bool) : List Char := if negative then ['-'] else []

theorem numeral_append (negative : Bool) (m : Nat) {rest : List Char} (h : Ends rest) :
    numeral (signText negative ++ (Nat.toDigits 10 m ++ rest)) =
      .ok (⟨negative, Nat.toDigits 10 m, none, none⟩, rest) := by
  have hdigit : Stops Grammar.Digit rest := h.stops (by simp [closers, Grammar.Digit])
  have hwhole := wholeDigits_append m hdigit
  cases negative with
  | true =>
      simp only [signText, if_true, List.singleton_append, numeral, hwhole, h.fractionDigits,
        h.exponentPart]
  | false =>
      obtain ⟨hne, hdigits⟩ := Grammar.digits_toDigits m
      obtain ⟨c, more, hhead⟩ := List.exists_cons_of_ne_nil hne
      have hsign : c ≠ '-' := by
        rintro rfl
        exact absurd (hdigits '-' (hhead ▸ List.mem_cons_self)) (by simp [Grammar.Digit])
      rw [hhead, List.cons_append] at hwhole
      simp [signText, numeral, hhead, hsign, hwhole, h.fractionDigits, h.exponentPart]

theorem intText_eq (n : Int64) :
    intText n = signText (decide (n.toInt < 0)) ++ Nat.toDigits 10 n.toInt.natAbs := by
  rw [intText, signText]
  by_cases hneg : n.toInt < 0 <;> simp [hneg]

theorem number_intText (n : Int64) {rest : List Char} (h : Ends rest) :
    number (intText n ++ rest) = .ok (.integer n.toInt, rest) := by
  have hlow := n.le_toInt
  have hhigh := n.toInt_lt
  have hvalue : Numeral.natOf (Nat.toDigits 10 n.toInt.natAbs) = n.toInt.natAbs :=
    Nat.ofDigitChars_ten_toDigits
  have hwhole : Number.ofNumeral? ⟨decide (n.toInt < 0), Nat.toDigits 10 n.toInt.natAbs,
      none, none⟩ = some (.integer n.toInt) := by
    by_cases hneg : n.toInt < 0
    · have hzero : n.toInt.natAbs ≠ 0 := by omega
      have hfits : n.toInt.natAbs ≤ Nat.pow 2 63 := by
        have hpow : Nat.pow 2 63 = 2 ^ 63 := rfl
        omega
      have hback : -(n.toInt.natAbs : Int) = n.toInt := by omega
      simp only [Number.ofNumeral?, hvalue, hneg, decide_true, if_true, if_neg hzero,
        if_pos hfits, hback]
    · have hfits : n.toInt.natAbs ≤ maxSignificand := by
        have hmax : maxSignificand = 2 ^ 64 - 1 := rfl
        omega
      have hback : (n.toInt.natAbs : Int) = n.toInt := by omega
      simp only [Number.ofNumeral?, hvalue, hneg, decide_false, Bool.false_eq_true, if_false,
        if_pos hfits, hback]
  rw [number, intText_eq, List.append_assoc, numeral_append _ _ h]
  simp only [hwhole]

theorem exists_head_intText (n : Int64) :
    ∃ c more, intText n = c :: more ∧ (c = '-' ∨ c.isDigit = true) := by
  obtain ⟨hne, hdigits⟩ := Grammar.digits_toDigits n.toInt.natAbs
  obtain ⟨c, more, hhead⟩ := List.exists_cons_of_ne_nil hne
  rw [intText]
  split
  · exact ⟨'-', _, rfl, .inl rfl⟩
  · exact ⟨c, more, hhead, .inr (Grammar.isDigit_iff.mpr (hdigits c (hhead ▸ List.mem_cons_self)))⟩

theorem scalar_nullText (rest : List Char) : scalar (nullText ++ rest) = .ok (.null, rest) := by
  have hword := expectWord_append ['u', 'l', 'l'] rest
  simp only [nullText, List.cons_append, List.nil_append, scalar, wordScalar] at hword ⊢
  rw [hword]

theorem scalar_boolText (b : Bool) (rest : List Char) :
    scalar (boolText b ++ rest) = .ok (.bool b, rest) := by
  cases b with
  | true =>
      have hword := expectWord_append ['r', 'u', 'e'] rest
      simp only [boolText, if_true, List.cons_append, List.nil_append, scalar,
        wordScalar] at hword ⊢
      rw [hword]
  | false =>
      have hword := expectWord_append ['a', 'l', 's', 'e'] rest
      simp only [boolText, Bool.false_eq_true, if_false, List.cons_append, List.nil_append, scalar,
        wordScalar] at hword ⊢
      rw [hword]

theorem scalar_stringText (content : String) (rest : List Char) :
    scalar (stringText content ++ rest) = .ok (.text content, rest) := by
  have hstring := string_append content rest
  simp only [stringText, List.cons_append, List.append_assoc, List.nil_append, scalar] at hstring ⊢
  rw [hstring]

theorem scalar_intText (n : Int64) {rest : List Char} (h : Ends rest) :
    scalar (intText n ++ rest) = .ok (.number (.integer n.toInt), rest) := by
  have hnumber := number_intText n h
  obtain ⟨c, more, hhead, hc⟩ := exists_head_intText n
  have hother : c ≠ 'n' ∧ c ≠ 't' ∧ c ≠ 'f' ∧ c ≠ '"' := by
    refine ⟨?_, ?_, ?_, ?_⟩ <;> rintro rfl <;> simp at hc
  rw [hhead, List.cons_append] at hnumber ⊢
  simp [scalar, hother, hc, hnumber]

/-- A scalar starts neither with a blank nor with a bracket. -/
theorem exists_head_of_scalar {text rest : List Char} {x : Scalar}
    (h : scalar text = .ok (x, rest)) :
    ∃ c more, text = c :: more ∧ isBlank c = false ∧ c ∉ ['[', ']', '\x7b'] := by
  cases text with
  | nil => cases h
  | cons c more =>
      refine ⟨c, more, rfl, Bool.eq_false_iff.mpr fun hblank => ?_, fun hbracket => ?_⟩
      · simp only [isBlank, Bool.or_eq_true, beq_iff_eq] at hblank
        obtain ((rfl | rfl) | rfl) | rfl := hblank <;> cases h
      · simp only [List.mem_cons, List.not_mem_nil, or_false] at hbracket
        obtain rfl | rfl | rfl := hbracket <;> cases h

end RowScript.Json
