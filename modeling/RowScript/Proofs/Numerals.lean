import Mathlib.Algebra.Ring.Nat
import RowScript.Proofs.Characters

/-!
Reading a number takes exactly a written number off a text that goes on at a boundary,
with the parts that it is written with. A number that fits a word becomes that word,
and any other becomes the double that its text stands for.
-/

namespace RowScript

theorem int64?_eq_some_iff {n : Int} {m : Int64} : int64? n = some m ↔ m.toInt = n := by
  rw [int64?, Option.ite_none_right_eq_some, Option.some.injEq, Int64.toInt_minValue,
    Int64.toInt_maxValue]
  constructor
  · rintro ⟨hbounds, rfl⟩
    exact Int64.toInt_ofInt_of_le (by omega) (by omega)
  · rintro rfl
    have hlow := m.le_toInt
    have hhigh := m.toInt_lt
    exact ⟨by omega, Int64.ofInt_toInt m⟩

/-- An integer of sixty-four bits is a word. -/
theorem exists_int64? {n : Int} (hlow : -2 ^ 63 ≤ n) (hhigh : n < 2 ^ 63) :
    ∃ word, int64? n = some word ∧ word.toInt = n :=
  ⟨Int64.ofInt n, int64?_eq_some_iff.mpr (Int64.toInt_ofInt_of_le hlow hhigh),
    Int64.toInt_ofInt_of_le hlow hhigh⟩

end RowScript

namespace RowScript.Grammar

open Numeral

theorem Mantissa.head {text whole : List Char} {fraction : Option (List Char)}
    (h : Mantissa text whole fraction) :
    ∃ c rest, text = c :: rest ∧ (Digit c ∨ c = '.') := by
  cases h with
  | whole h | point h _ =>
      obtain ⟨c, rest, rfl⟩ := List.exists_cons_of_ne_nil h.1
      exact ⟨c, _, rfl, .inl (h.2 c List.mem_cons_self)⟩
  | fraction _ => exact ⟨'.', _, rfl, .inr rfl⟩

theorem Mantissa.stops {text whole : List Char} {fraction : Option (List Char)}
    (h : Mantissa text whole fraction) (rest : List Char) :
    Stops (fun c => c = '+' ∨ c = '-') (text ++ rest) := by
  obtain ⟨c, more, rfl, hc⟩ := h.head
  rw [List.cons_append, stops_cons]
  intro hsign
  obtain rfl | rfl := hsign <;> simp [Digit] at hc

theorem takeSign_append {sign rest : List Char} {negative : Bool} (hs : Sign sign negative)
    (hr : Stops (fun c => c = '+' ∨ c = '-') rest) :
    takeSign (sign ++ rest) = (negative, rest) := by
  cases hs with
  | absent =>
      cases rest with
      | nil => rfl
      | cons c rest =>
          have hc := not_or.mp (stops_cons.mp hr)
          simp [takeSign, hc]
  | plus | minus => rfl

theorem takeDigits_append {digits rest : List Char} (hd : ∀ c ∈ digits, Digit c)
    (hr : Stops Digit rest) : takeDigits (digits ++ rest) = (digits, rest) := by
  have inside : ∀ c ∈ digits, c.isDigit = true := fun c hc => isDigit_iff.mpr (hd c hc)
  have behind : Stops (Char.isDigit · = true) rest := fun c hc => mt isDigit_iff.mp (hr c hc)
  rw [takeDigits, takeWhile_append_of_stops inside behind,
    dropWhile_append_of_stops inside behind]

theorem natOf_append (front back : List Char) :
    natOf (front ++ back) = natOf front * 10 ^ back.length + natOf back := by
  rw [natOf, Nat.ofDigitChars_append, Nat.ofDigitChars_eq_ofDigitChars_zero, Nat.mul_comm]
  rfl

theorem natOf_zeros (n : Nat) : natOf (List.replicate n '0') = 0 :=
  Nat.ofDigitChars_replicate_zero.trans (Nat.mul_zero _)

theorem natOf_singleton {c : Char} (h : Digit c) : c.toNat = 48 + natOf [c] ∧ natOf [c] < 10 := by
  obtain ⟨hlow, hhigh⟩ := h
  have hleast : 48 ≤ c.toNat := hlow
  have hmost : c.toNat ≤ 57 := hhigh
  have hzero : '0'.toNat = 48 := rfl
  rw [natOf, Nat.ofDigitChars_cons, Nat.ofDigitChars_nil]
  omega

theorem natOf_lt {digits : List Char} (h : ∀ c ∈ digits, Digit c) :
    natOf digits < 10 ^ digits.length := by
  induction digits with
  | nil => decide
  | cons c digits ih =>
      obtain ⟨hc, hdigits⟩ := List.forall_mem_cons.mp h
      have hfirst : natOf [c] ≤ 9 := Nat.le_of_lt_succ (natOf_singleton hc).2
      have hrest := ih hdigits
      rw [← List.singleton_append, natOf_append, List.length_append, List.length_singleton,
        Nat.pow_add, Nat.pow_one]
      have hfront := Nat.mul_le_mul_right (10 ^ digits.length) hfirst
      omega

theorem takeFraction_of_stops {rest : List Char} (h : Stops (· = '.') rest) :
    takeFraction rest = (none, rest) := by
  cases rest with
  | nil => rfl
  | cons c rest =>
      have hc := stops_cons.mp h
      simp [takeFraction, hc]

theorem takeExponent_of_stops {rest : List Char} (h : Stops (fun c => c = 'e' ∨ c = 'E') rest) :
    takeExponent rest = (none, rest) := by
  cases rest with
  | nil => rfl
  | cons c rest => rw [takeExponent, if_neg (stops_cons.mp h)]

theorem takeExponent_append {text rest : List Char} {power : Option Int}
    (he : Exponent text power) (hr : Boundary rest) :
    takeExponent (text ++ rest) = (power, rest) := by
  cases he with
  | absent =>
      refine takeExponent_of_stops (hr.stops fun c hc => ?_)
      obtain rfl | rfl | rfl | rfl := hc <;> decide
  | @present e sign digits negative he hs hd =>
      obtain ⟨d, more, rfl⟩ := List.exists_cons_of_ne_nil hd.1
      have hdigit := hd.2 d List.mem_cons_self
      have hsign : takeSign (sign ++ (d :: more ++ rest)) = (negative, d :: more ++ rest) := by
        apply takeSign_append hs
        rw [List.cons_append, stops_cons]
        intro hsign
        obtain rfl | rfl := hsign <;> exact absurd hdigit (by simp [Digit])
      have hdigits := takeDigits_append hd.2 (hr.stops fun _ => Separator.not_digit)
      simp only [List.cons_append, List.append_assoc, takeExponent, if_pos he] at hsign hdigits ⊢
      simp only [hsign, hdigits]

/-- What stands behind the digits of a number is neither a digit nor a point. -/
theorem Exponent.stops {text rest : List Char} {power : Option Int} (he : Exponent text power)
    (hr : Boundary rest) : Stops (fun c => Digit c ∨ c = '.') (text ++ rest) := by
  cases he with
  | absent =>
      apply hr.stops
      intro c hc hstop
      cases hstop with
      | inl hd => exact hc.not_digit hd
      | inr hpoint =>
          subst hpoint
          simp [Separator] at hc
  | present he _ _ =>
      rw [List.cons_append, stops_cons]
      obtain rfl | rfl := he <;> simp [Digit]

theorem read?_append {text rest : List Char} {n : Numeral} (h : Written text n)
    (hr : Boundary rest) : read? (text ++ rest) = some (n, rest) := by
  obtain @⟨sign, mantissa, exponent, whole, fraction, power, negative, hs, hm, he⟩ := h
  have hstops := he.stops hr
  have hsign := takeSign_append hs (hm.stops (exponent ++ rest))
  have hexponent := takeExponent_append he hr
  simp only [List.append_assoc, read?, hsign]
  cases hm with
  | whole hd =>
      have hdigits := takeDigits_append hd.2 fun c hc h => hstops c hc (.inl h)
      have hfraction := takeFraction_of_stops fun c hc h => hstops c hc (.inr h)
      simp [hdigits, hfraction, hd.1, hexponent]
  | @point _ f hd hf =>
      have hpoint : Stops Digit ('.' :: (f ++ (exponent ++ rest))) :=
        stops_cons.mpr (by simp [Digit])
      have hdigits := takeDigits_append hd.2 hpoint
      have hbehind := takeDigits_append hf fun c hc h => hstops c hc (.inl h)
      simp [hdigits, takeFraction, hbehind, hd.1, hexponent]
  | @fraction f hf =>
      have hpoint : Stops Digit ('.' :: (f ++ (exponent ++ rest))) :=
        stops_cons.mpr (by simp [Digit])
      have hdigits := takeDigits_append (List.forall_mem_nil Digit) hpoint
      have hbehind := takeDigits_append hf.2 fun c hc h => hstops c hc (.inl h)
      simp only [List.nil_append] at hdigits
      simp [hdigits, takeFraction, hbehind, hf.1, hexponent]

theorem exists_sign (text : List Char) :
    ∃ sign, Sign sign (takeSign text).1 ∧ text = sign ++ (takeSign text).2 := by
  unfold takeSign
  split
  · exact ⟨['-'], .minus, rfl⟩
  · exact ⟨['+'], .plus, rfl⟩
  · exact ⟨[], .absent, rfl⟩

theorem takeDigits_spec (text : List Char) :
    (∀ c ∈ (takeDigits text).1, Digit c) ∧ text = (takeDigits text).1 ++ (takeDigits text).2 :=
  ⟨fun _ hc => isDigit_iff.mp (List.mem_takeWhile_imp hc), List.takeWhile_append_dropWhile.symm⟩

theorem exists_exponent (text : List Char) :
    ∃ written, Exponent written (takeExponent text).1 ∧ text = written ++ (takeExponent text).2 := by
  have absent : ∃ written, Exponent written none ∧ text = written ++ text := ⟨[], .absent, rfl⟩
  cases text with
  | nil => exact absent
  | cons c rest =>
      simp only [takeExponent]
      split
      · rename_i hc
        obtain ⟨sign, hs, hrest⟩ := exists_sign rest
        obtain ⟨hdigits, hbehind⟩ := takeDigits_spec (takeSign rest).2
        split
        · exact absent
        · rename_i digits behind hne htaken
          rw [htaken] at hdigits hbehind
          exact ⟨c :: (sign ++ digits), .present hc hs ⟨hne, hdigits⟩,
            by rw [List.cons_append, List.append_assoc, ← hbehind, ← hrest]⟩
      · exact absent

theorem exists_mantissa {whole behind : List Char} (hw : ∀ c ∈ whole, Digit c)
    (hne : ¬(whole = [] ∧ (takeFraction behind).1.getD [] = [])) :
    ∃ written, Mantissa written whole (takeFraction behind).1 ∧
      whole ++ behind = written ++ (takeFraction behind).2 := by
  unfold takeFraction at hne ⊢
  split at hne
  · rename_i rest
    obtain ⟨hf, hrest⟩ := takeDigits_spec rest
    by_cases hempty : whole = []
    · subst hempty
      have hfraction : (takeDigits rest).1 ≠ [] := fun h => hne ⟨rfl, h⟩
      exact ⟨_, .fraction ⟨hfraction, hf⟩, by rw [List.cons_append, ← hrest]; rfl⟩
    · exact ⟨_, .point ⟨hempty, hw⟩ hf, by rw [List.append_assoc, List.cons_append, ← hrest]⟩
  · exact ⟨whole, .whole ⟨fun h => hne ⟨h, rfl⟩, hw⟩, rfl⟩

theorem written_of_read? {text rest : List Char} {n : Numeral} (h : read? text = some (n, rest)) :
    ∃ written, Written written n ∧ text = written ++ rest := by
  simp only [read?] at h
  split at h
  · exact absurd h (by simp)
  · rename_i hdigits
    simp only [Option.some.injEq, Prod.mk.injEq] at h
    obtain ⟨rfl, rfl⟩ := h
    obtain ⟨sign, hs, htext⟩ := exists_sign text
    obtain ⟨hwhole, hbehind⟩ := takeDigits_spec (takeSign text).2
    obtain ⟨mantissa, hm, hbody⟩ := exists_mantissa hwhole hdigits
    obtain ⟨exponent, he, hrest⟩ :=
      exists_exponent (takeFraction (takeDigits (takeSign text).2).2).2
    refine ⟨_, .intro hs hm he, ?_⟩
    rw [List.append_assoc, List.append_assoc, ← hrest, ← hbody, ← hbehind, ← htext]

theorem Written.head {text : List Char} {n : Numeral} (h : Written text n) :
    ∃ c rest, text = c :: rest ∧ (Digit c ∨ c = '.' ∨ c = '+' ∨ c = '-') := by
  obtain ⟨hs, hm, _⟩ := h
  obtain ⟨c, rest, rfl, hc⟩ := hm.head
  cases hs with
  | absent => exact ⟨c, _, rfl, hc.imp id .inl⟩
  | plus => exact ⟨'+', _, rfl, .inr (.inr (.inl rfl))⟩
  | minus => exact ⟨'-', _, rfl, .inr (.inr (.inr rfl))⟩

theorem Digit.toLower {c : Char} (h : Digit c) : c.toLower = c := by
  obtain ⟨hlow, hhigh⟩ := h
  rw [Char.le_def, UInt32.le_iff_toNat_le] at hlow hhigh
  have hupper : ¬(c.val ≥ 'A'.val ∧ c.val ≤ 'Z'.val) := by
    rw [ge_iff_le, UInt32.le_iff_toNat_le]
    have h9 : '9'.val.toNat = 57 := rfl
    have hA : 'A'.val.toNat = 65 := rfl
    omega
  exact dif_neg hupper

/-- The text of a number is no word for infinity or for what is not a number. -/
theorem ofText?_of_written {text : List Char} {n : Numeral} (h : Written text n) :
    Binary64.ofText? text = some n.toBinary64 := by
  have hend : Boundary [] := by simp [Boundary]
  have hread := read?_append h hend
  rw [List.append_nil] at hread
  obtain @⟨sign, mantissa, exponent, whole, fraction, power, negative, hs, hm, he⟩ := h
  have hsign := takeSign_append hs (hm.stops exponent)
  obtain ⟨c, rest, rfl, hc⟩ := hm.head
  have hlower : c.toLower ≠ 'i' ∧ c.toLower ≠ 'n' := by
    cases hc with
    | inl hc =>
        rw [hc.toLower]
        constructor <;> intro hletter <;> subst hletter <;> exact absurd hc (by simp [Digit])
    | inr hpoint => subst hpoint; decide
  have hword (d : Char) (more : List Char) (hd : c.toLower ≠ d) :
      String.ofList ((c :: rest ++ exponent).map Char.toLower) ≠ String.ofList (d :: more) :=
    fun heq => hd (List.cons.inj (String.ofList_injective heq)).1
  have hinf : ¬(String.ofList ((c :: rest ++ exponent).map Char.toLower) = "inf" ∨
      String.ofList ((c :: rest ++ exponent).map Char.toLower) = "infinity") :=
    not_or.mpr ⟨hword 'i' _ hlower.1, hword 'i' _ hlower.1⟩
  simp only [Binary64.ofText?, hsign, if_neg hinf, if_neg (hword 'n' _ hlower.2), hread]

theorem ofNumeral_of_fits {n : Numeral} (h : Fits n) :
    ∃ value : Int64, value.toInt = integerPart n ∧ Numeric.ofNumeral n = .int value := by
  obtain ⟨hf, he, hlow, hhigh⟩ := h
  obtain ⟨word, hword, hvalue⟩ := exists_int64? hlow hhigh
  refine ⟨word, hvalue, ?_⟩
  simp only [Numeric.ofNumeral, toInt?, hf, he, Option.bind_some]
  rw [← integerPart, hword]

theorem ofNumeral_of_not_fits {n : Numeral} (h : ¬Fits n) :
    Numeric.ofNumeral n = .float n.toBinary64 := by
  have hnone : n.toInt?.bind int64? = none := by
    cases hf : n.fraction with
    | some _ => simp [toInt?, hf]
    | none =>
        cases he : n.exponent with
        | some _ => simp [toInt?, hf, he]
        | none =>
            have hout : ¬(-2 ^ 63 ≤ integerPart n ∧ integerPart n < 2 ^ 63) :=
              fun hin => h ⟨hf, he, hin⟩
            simp only [toInt?, hf, he, Option.bind_some, int64?, Int64.toInt_minValue,
              Int64.toInt_maxValue]
            rw [← integerPart, if_neg (by omega)]
  simp only [Numeric.ofNumeral, hnone]

end RowScript.Grammar
