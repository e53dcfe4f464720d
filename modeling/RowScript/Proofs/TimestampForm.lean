import RowScript.Calendar.Rfc3339
import RowScript.Proofs.Numerals

/-!
The form of a written instant, stated apart from the reader: which text each of its parts has,
and the number that the text stands for. The reader takes exactly the texts of this form.
-/

namespace RowScript.Rfc3339

open Grammar Numeral

/-- A number of so many digits. -/
structure NumberText (width : Nat) (text : List Char) (n : Nat) : Prop where
  length : text.length = width
  digits : ∀ c ∈ text, Digit c
  value : natOf text = n

/-- A fraction of a second, and the whole nanoseconds of it. -/
inductive FractionText : List Char → Nat → Prop
  | absent : FractionText [] 0
  | present {digits : List Char} (h : Digits digits) :
      FractionText ('.' :: digits) (natOf digits * 10 ^ 9 / 10 ^ digits.length)

/-- An offset from universal time, and its minutes. -/
inductive OffsetText : List Char → Int → Prop
  | universal {c : Char} (h : c = 'Z' ∨ c = 'z') : OffsetText [c] 0
  | ahead {hours minutes : List Char} {hour minute : Nat} (hh : NumberText 2 hours hour)
      (hm : NumberText 2 minutes minute) (hhour : hour ≤ 23) (hminute : minute ≤ 59) :
      OffsetText ('+' :: (hours ++ ':' :: minutes)) (hour * 60 + minute)
  | behind {sign : Char} {hours minutes : List Char} {hour minute : Nat}
      (hsign : sign = '-' ∨ sign = '\u2212') (hh : NumberText 2 hours hour)
      (hm : NumberText 2 minutes minute) (hhour : hour ≤ 23) (hminute : minute ≤ 59) :
      OffsetText (sign :: (hours ++ ':' :: minutes)) (-(hour * 60 + minute))

/-- A date, a time of day and an offset as text, and what is written with it. -/
inductive Form : List Char → Written → Prop
  | intro {years months days hours minutes seconds fraction zone : List Char} {between : Char}
      {year month day hour minute second nanos : Nat} {offset : Int}
      (hyear : NumberText 4 years year) (hmonth : NumberText 2 months month)
      (hday : NumberText 2 days day) (hbetween : between = 'T' ∨ between = 't' ∨ between = ' ')
      (hhour : NumberText 2 hours hour) (hminute : NumberText 2 minutes minute)
      (hsecond : NumberText 2 seconds second) (hfraction : FractionText fraction nanos)
      (hzone : OffsetText zone offset) :
      Form (years ++ '-' :: (months ++ '-' :: (days ++ between :: (hours ++ ':' ::
        (minutes ++ ':' :: (seconds ++ (fraction ++ zone)))))))
        ⟨⟨year, month, day⟩, hour, minute, second, nanos, offset⟩

/-- Nine digits of a fraction, with zeros for those that are not written, are its whole
nanoseconds. -/
theorem natOf_nine {digits : List Char} (h : ∀ c ∈ digits, Digit c) :
    natOf (digits.take 9 ++ List.replicate (9 - (digits.take 9).length) '0') =
      natOf digits * 10 ^ 9 / 10 ^ digits.length := by
  have hpos (k : Nat) : 0 < 10 ^ k := Nat.pow_pos (by decide)
  by_cases hshort : digits.length ≤ 9
  · have hpower : 10 ^ 9 = 10 ^ (9 - digits.length) * 10 ^ digits.length := by
      rw [← Nat.pow_add, Nat.sub_add_cancel hshort]
    rw [List.take_of_length_le hshort, natOf_append, natOf_zeros, List.length_replicate,
      Nat.add_zero, hpower, ← Nat.mul_assoc, Nat.mul_div_cancel _ (hpos _)]
  · have hlength : (digits.take 9).length = 9 := List.length_take_of_le (by omega)
    have hbehind : (digits.drop 9).length = digits.length - 9 := List.length_drop
    have hless : natOf (digits.drop 9) < 10 ^ (digits.drop 9).length :=
      natOf_lt fun c hc => h c (List.mem_of_mem_drop hc)
    have hpower : 10 ^ digits.length = 10 ^ (digits.drop 9).length * 10 ^ 9 := by
      rw [hbehind, ← Nat.pow_add, Nat.sub_add_cancel (by omega)]
    have hsplit := natOf_append (digits.take 9) (digits.drop 9)
    rw [List.take_append_drop] at hsplit
    rw [hlength, Nat.sub_self, List.replicate_zero, List.append_nil, hpower,
      Nat.mul_div_mul_right _ _ (hpos 9), hsplit, Nat.add_comm,
      Nat.add_mul_div_right _ _ (hpos _), Nat.div_eq_of_lt hless, Nat.zero_add]

theorem number?_eq_some_iff {width n : Nat} {text rest : List Char} :
    number? width text = some (n, rest) ↔
      ∃ digits, NumberText width digits n ∧ text = digits ++ rest := by
  simp only [number?]
  constructor
  · intro h
    split at h
    · rename_i hdigits
      cases h
      refine ⟨text.take width, ⟨hdigits.1, fun c hc => ?_, rfl⟩, (List.take_append_drop ..).symm⟩
      exact isDigit_iff.mp (List.all_eq_true.mp hdigits.2 c hc)
    · cases h
  · rintro ⟨digits, ⟨rfl, hdigits, rfl⟩, rfl⟩
    have hall : digits.all Char.isDigit = true :=
      List.all_eq_true.mpr fun c hc => isDigit_iff.mpr (hdigits c hc)
    rw [List.take_left, List.drop_left, if_pos ⟨rfl, hall⟩]

theorem expect?_eq_some_iff {c : Char} {text rest : List Char} :
    expect? c text = some rest ↔ text = c :: rest := by
  cases text with
  | nil => simp [expect?]
  | cons head text => simp [expect?]

theorem expectBreak?_eq_some_iff {text rest : List Char} :
    expectBreak? text = some rest ↔
      ∃ c, (c = 'T' ∨ c = 't' ∨ c = ' ') ∧ text = c :: rest := by
  constructor
  · intro h
    unfold expectBreak? at h
    split at h
    · exact ⟨'T', .inl rfl, by rw [Option.some.inj h]⟩
    · exact ⟨'t', .inr (.inl rfl), by rw [Option.some.inj h]⟩
    · exact ⟨' ', .inr (.inr rfl), by rw [Option.some.inj h]⟩
    · cases h
  · rintro ⟨c, rfl | rfl | rfl, rfl⟩ <;> rfl

theorem exists_fractionText {text rest : List Char} {n : Nat}
    (h : nanos? text = some (n, rest)) : ∃ fraction, FractionText fraction n ∧
      text = fraction ++ rest := by
  unfold nanos? at h
  split at h
  · rename_i behind
    obtain ⟨hdigits, hbehind⟩ := takeDigits_spec behind
    split at h
    · cases h
    · rename_i digits rest hne htaken
      cases h
      rw [htaken] at hdigits hbehind
      exact ⟨'.' :: digits, natOf_nine hdigits ▸ .present ⟨hne, hdigits⟩, by rw [hbehind]; rfl⟩
  · cases h
    exact ⟨[], .absent, rfl⟩

theorem nanos?_append {fraction rest : List Char} {n : Nat} (h : FractionText fraction n)
    (hrest : Stops (fun c => Digit c ∨ c = '.') rest) :
    nanos? (fraction ++ rest) = some (n, rest) := by
  cases h with
  | absent =>
      cases rest with
      | nil => rfl
      | cons c rest =>
          have hc := (not_or.mp (stops_cons.mp hrest)).2
          simp [nanos?, hc]
  | @present digits hdigits =>
      have htaken := takeDigits_append hdigits.2 fun c hc h => hrest c hc (.inl h)
      obtain ⟨first, more, rfl⟩ := List.exists_cons_of_ne_nil hdigits.1
      rw [← natOf_nine hdigits.2]
      simp only [List.cons_append, nanos?] at htaken ⊢
      rw [htaken]

theorem number?_append {width n : Nat} {digits : List Char} (h : NumberText width digits n)
    (rest : List Char) : number? width (digits ++ rest) = some (n, rest) :=
  number?_eq_some_iff.mpr ⟨digits, h, rfl⟩

theorem offset?_eq_some_iff {text rest : List Char} {n : Int} :
    offset? text = some (n, rest) ↔ ∃ zone, OffsetText zone n ∧ text = zone ++ rest := by
  constructor
  · intro h
    cases text with
    | nil => cases h
    | cons c text =>
        rw [offset?] at h
        split at h
        · rename_i huniversal
          cases h
          exact ⟨[c], .universal huniversal, rfl⟩
        · split at h
          · rename_i hsign
            simp only [Option.bind_eq_bind, Option.bind_eq_some_iff, Prod.exists,
              number?_eq_some_iff, expect?_eq_some_iff] at h
            obtain ⟨hour, _, ⟨hours, hh, rfl⟩, _, rfl, minute, _, ⟨minutes, hm, rfl⟩, h⟩ := h
            split at h
            · rename_i hrange
              cases h
              refine ⟨c :: (hours ++ ':' :: minutes), ?_, by simp⟩
              by_cases hplus : c = '+'
              · subst hplus
                exact .ahead hh hm hrange.1 hrange.2
              · have hsigned : signed (c ≠ '+') (hour * 60 + minute) =
                    -((hour : Int) * 60 + minute) := by simp [signed, hplus]
                rw [hsigned]
                exact .behind (hsign.resolve_left hplus) hh hm hrange.1 hrange.2
            · cases h
          · cases h
  · rintro ⟨zone, hzone, rfl⟩
    cases hzone with
    | universal h => exact if_pos h
    | ahead hh hm hhour hminute =>
        simp [offset?, number?_append hh, number?_append hm, expect?, hhour, hminute, signed]
    | behind hsign hh hm hhour hminute =>
        obtain rfl | rfl := hsign <;>
          simp [offset?, number?_append hh, number?_append hm, expect?, hhour, hminute, signed]

theorem OffsetText.stops {zone : List Char} {n : Int} (h : OffsetText zone n)
    (rest : List Char) : Stops (fun c => Digit c ∨ c = '.') (zone ++ rest) := by
  cases h with
  | universal h => obtain rfl | rfl := h <;> simp [Stops, Digit]
  | ahead => simp [Stops, Digit]
  | behind hsign => obtain rfl | rfl := hsign <;> simp [Stops, Digit]

theorem written?_eq_some_iff {text : List Char} {w : Written} :
    written? text = some w ↔ Form text w := by
  simp only [written?, Option.bind_eq_bind, Option.bind_eq_some_iff, Prod.exists,
    number?_eq_some_iff, expect?_eq_some_iff, expectBreak?_eq_some_iff, offset?_eq_some_iff]
  constructor
  · rintro ⟨year, _, ⟨years, hyear, rfl⟩, _, rfl, month, _, ⟨months, hmonth, rfl⟩, _, rfl, day, _,
      ⟨days, hday, rfl⟩, _, ⟨between, hbetween, rfl⟩, hour, _, ⟨hours, hhour, rfl⟩, _, rfl, minute,
      _, ⟨minutes, hminute, rfl⟩, _, rfl, second, _, ⟨seconds, hsecond, rfl⟩, nanos, rest, hnanos,
      offset, last, ⟨zone, hzone, hrest⟩, h⟩
    obtain ⟨fraction, hfraction, rfl⟩ := exists_fractionText hnanos
    split at h
    · rename_i hlast
      cases h
      rw [hrest, hlast, List.append_nil]
      exact .intro hyear hmonth hday hbetween hhour hminute hsecond hfraction hzone
    · cases h
  · rintro ⟨hyear, hmonth, hday, hbetween, hhour, hminute, hsecond, hfraction, hzone⟩
    have hstops := hzone.stops []
    rw [List.append_nil] at hstops
    exact ⟨_, _, ⟨_, hyear, rfl⟩, _, rfl, _, _, ⟨_, hmonth, rfl⟩, _, rfl, _, _, ⟨_, hday, rfl⟩, _,
      ⟨_, hbetween, rfl⟩, _, _, ⟨_, hhour, rfl⟩, _, rfl, _, _, ⟨_, hminute, rfl⟩, _, rfl, _, _,
      ⟨_, hsecond, rfl⟩, _, _, nanos?_append hfraction hstops, _, _,
      ⟨_, hzone, (List.append_nil _).symm⟩, if_pos rfl⟩

end RowScript.Rfc3339
