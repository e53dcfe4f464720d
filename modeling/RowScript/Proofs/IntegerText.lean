import Mathlib.Data.List.Induction
import RowScript.Proofs.Conformance
import RowScript.Proofs.Display
import RowScript.Proofs.Segments

/-!
Integers in columns, as numbers and as texts. A type for integers takes a text if it is some
integer of sixty-four bits, written with any zeros in front, and does with it what it does with
the integer. So both forms meet the same bounds, also the least integer, which the sign alone keeps
within them.
-/

namespace RowScript

open Grammar Numeral

/-- A text of an integer: a sign that may be missing, any number of zeros and the decimal digits
of the absolute value, with white space around. Zero may have either sign. -/
inductive IntegerText : Int → List Char → Prop where
  | intro {n : Int} {lead sign trail : List Char} {negative : Bool} (zeros : Nat)
      (hlead : ∀ c ∈ lead, Text.isBlank c = true) (htrail : ∀ c ∈ trail, Text.isBlank c = true)
      (hs : Sign sign negative) (hbelow : n < 0 → negative = true)
      (habove : 0 < n → negative = false) :
      IntegerText n
        (lead ++ (sign ++ (List.replicate zeros '0' ++ Nat.toDigits 10 n.natAbs) ++ trail))

namespace Grammar

theorem toDigits_natOf_singleton {c : Char} (h : Digit c) :
    Nat.toDigits 10 (natOf [c]) = [c] := by
  obtain ⟨hcode, hless⟩ := natOf_singleton h
  rw [Nat.toDigits_of_lt_base hless, List.singleton_inj, ← Char.toNat_inj,
    Nat.toNat_digitChar_of_lt_ten hless, hcode]

/-- Digits are zeros and the digits of their number. -/
theorem exists_zeros {digits : List Char} (h : Digits digits) :
    ∃ zeros, digits = List.replicate zeros '0' ++ Nat.toDigits 10 (natOf digits) := by
  obtain ⟨hne, hdigits⟩ := h
  induction digits using List.reverseRec with
  | nil => exact absurd rfl hne
  | append_singleton front c ih =>
      obtain ⟨hfront, hc⟩ := List.forall_mem_append.mp hdigits
      have hdigit := List.forall_mem_singleton.mp hc
      have hlast := toDigits_natOf_singleton hdigit
      by_cases hempty : front = []
      · subst hempty
        exact ⟨0, hlast.symm⟩
      · obtain ⟨zeros, hzeros⟩ := ih hempty hfront
        have hvalue : natOf (front ++ [c]) = 10 * natOf front + natOf [c] := by
          rw [natOf_append, List.length_singleton, Nat.pow_one, Nat.mul_comm]
        cases Nat.eq_zero_or_pos (natOf front) with
        | inl hzero =>
            refine ⟨zeros + 1, ?_⟩
            rw [hzero, Nat.toDigits_zero, ← List.replicate_succ'] at hzeros
            rw [hvalue, hzero, Nat.mul_zero, Nat.zero_add, hlast, ← hzeros]
        | inr hpos =>
            refine ⟨zeros, ?_⟩
            rw [hvalue, ← Nat.toDigits_append_toDigits (by decide) hpos (natOf_singleton hdigit).2,
              hlast, ← List.append_assoc, ← hzeros]

theorem digits_zeros (zeros n : Nat) : Digits (List.replicate zeros '0' ++ Nat.toDigits 10 n) := by
  obtain ⟨hne, hdigits⟩ := digits_toDigits n
  refine ⟨List.append_ne_nil_of_right_ne_nil _ hne, List.forall_mem_append.mpr ⟨?_, hdigits⟩⟩
  intro c hc
  rw [List.eq_of_mem_replicate hc]
  exact ⟨by decide, by decide⟩

theorem natOf_zeros_append (zeros n : Nat) :
    natOf (List.replicate zeros '0' ++ Nat.toDigits 10 n) = n := by
  have hdigits : natOf (Nat.toDigits 10 n) = n := Nat.ofDigitChars_ten_toDigits
  rw [natOf_append, natOf_zeros, hdigits, Nat.zero_mul, Nat.zero_add]

theorem signed_natAbs_eq_iff {negative : Bool} {n : Int} :
    signed negative n.natAbs = n ↔
      (n < 0 → negative = true) ∧ (0 < n → negative = false) := by
  cases negative with
  | true =>
      simp only [signed, if_true, implies_true, true_and, Bool.true_eq_false, imp_false]
      omega
  | false =>
      simp only [signed, Bool.false_eq_true, if_false, imp_false, implies_true, and_true]
      omega

theorem Sign.bare {sign : List Char} {negative : Bool} (h : Sign sign negative) :
    ∀ c ∈ sign, Bare c := by
  cases h with
  | absent => exact List.forall_mem_nil _
  | plus | minus => exact List.forall_mem_singleton.mpr (by decide)

end Grammar

theorem integer?_eq_some_iff {text : List Char} {n : Int} :
    integer? text = some n ↔
      ∃ sign negative digits, text = sign ++ digits ∧ Sign sign negative ∧ Digits digits ∧
        signed negative (natOf digits) = n := by
  simp only [integer?, Option.ite_none_right_eq_some, Option.some.injEq, List.all_eq_true]
  constructor
  · rintro ⟨⟨hne, hdigits⟩, hn⟩
    obtain ⟨sign, hs, htext⟩ := exists_sign text
    exact ⟨sign, _, _, htext, hs, ⟨hne, fun c hc => isDigit_iff.mp (hdigits c hc)⟩, hn⟩
  · rintro ⟨sign, negative, digits, rfl, hs, ⟨hne, hdigits⟩, hn⟩
    have hstops : Stops (fun c => c = '+' ∨ c = '-') digits := by
      intro c hc hsign
      have hdigit := hdigits c (List.mem_of_mem_head? hc)
      obtain rfl | rfl := hsign <;> simp [Digit] at hdigit
    rw [takeSign_append hs hstops]
    exact ⟨⟨hne, fun c hc => isDigit_iff.mpr (hdigits c hc)⟩, hn⟩

/-- The texts that are read as an integer are its texts, whatever its size. -/
theorem integer?_trim_eq_some_iff {text : List Char} {n : Int} :
    integer? (Text.trim text) = some n ↔ IntegerText n text := by
  rw [integer?_eq_some_iff]
  constructor
  · rintro ⟨sign, negative, digits, htrim, hs, hdigits, hn⟩
    obtain ⟨lead, trail, hlead, htrail, htext⟩ := Text.exists_surrounding text
    obtain ⟨zeros, hzeros⟩ := exists_zeros hdigits
    have habs : natOf digits = n.natAbs := by
      rw [← hn, signed]
      split <;> omega
    rw [habs, signed_natAbs_eq_iff] at hn
    rw [htext, htrim, hzeros, habs]
    exact .intro zeros hlead htrail hs hn.1 hn.2
  · rintro @⟨lead, sign, trail, negative, zeros, hlead, htrail, hs, hbelow, habove⟩
    have hdigits := digits_zeros zeros n.natAbs
    have hne := List.append_ne_nil_of_right_ne_nil sign hdigits.1
    have hbare := List.forall_mem_append.mpr
      ⟨hs.bare, fun c hc => (hdigits.2 c hc).wordChar.bare⟩
    refine ⟨sign, negative, _, ?_, hs, hdigits, ?_⟩
    · exact (endsNonblank_of_bare hne hbare).trim_surrounded
        (fun c hc => (hbare c (List.mem_of_mem_head? hc)).1) hlead htrail
    · rw [natOf_zeros_append]
      exact signed_natAbs_eq_iff.mpr ⟨hbelow, habove⟩

namespace Value

/-- A type takes the integers that fit, and of the texts those of such integers. -/
structure TakesIntegers (type : FieldType) (fits : Int → Prop) : Prop where
  takes : ∀ (n : Int64) (value : Value),
    (int n).coerce? type = some value ↔ fits n.toInt ∧ value = int n
  alike : ∀ (n : Int64) (content : String), IntegerText n.toInt content.toList →
    (text content).coerce? type = (int n).coerce? type
  refuses : ∀ content : String, (∀ n : Int64, ¬IntegerText n.toInt content.toList) →
    (text content).coerce? type = none

theorem takesIntegers_of_word {type : FieldType} {fits : Int → Prop} {word? : Int → Option Int64}
    (hword : ∀ n m, word? n = some m ↔ m.toInt = n ∧ fits n)
    (hint : ∀ n : Int64, (int n).coerce? type = (word? n.toInt).map int)
    (htext : ∀ content : String, (text content).coerce? type =
      ((integer? (Text.trim content.toList)).bind word?).map int) :
    TakesIntegers type fits := by
  constructor
  case takes =>
    intro n value
    rw [hint, Option.map_eq_some_iff]
    constructor
    · rintro ⟨m, hm, rfl⟩
      obtain ⟨heq, hfits⟩ := (hword _ _).mp hm
      exact ⟨hfits, congrArg int (Int64.toInt_inj.mp heq)⟩
    · rintro ⟨hfits, rfl⟩
      exact ⟨n, (hword _ _).mpr ⟨rfl, hfits⟩, rfl⟩
  case alike =>
    intro n content h
    rw [htext, integer?_trim_eq_some_iff.mpr h, hint]
    rfl
  case refuses =>
    intro content h
    rw [htext, Option.map_eq_none_iff, Option.bind_eq_none_iff]
    intro n hn
    rw [Option.eq_none_iff_forall_ne_some]
    intro m hm
    obtain ⟨rfl, -⟩ := (hword _ _).mp hm
    exact h m (integer?_trim_eq_some_iff.mp hn)

/-- Integers and their texts fare alike: the smaller type takes both within its bounds, the larger
one takes both always. -/
theorem takesIntegers :
    TakesIntegers .int (fun n => -2 ^ 31 ≤ n ∧ n ≤ 2 ^ 31 - 1) ∧
      TakesIntegers .long fun _ => True := by
  constructor
  · exact takesIntegers_of_word (fun _ _ => int32?_eq_some_iff) (fun _ => rfl) fun _ => rfl
  · refine takesIntegers_of_word (fun _ _ => ?_) (fun n => ?_) fun _ => rfl
    · rw [int64?_eq_some_iff, and_true]
    · rw [int64?_eq_some_iff.mpr rfl]
      rfl

example : (text "\u3000-0002147483648\t").coerce? .int = some (int (-2147483648)) ∧
    (text "+2147483648").coerce? .int = none ∧
    (text "9223372036854775808").coerce? .long = none := ⟨rfl, rfl, rfl⟩

end Value

end RowScript
