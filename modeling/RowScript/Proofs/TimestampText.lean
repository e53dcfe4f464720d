import RowScript.Proofs.Calendar
import RowScript.Proofs.Lines
import RowScript.Proofs.Segments
import RowScript.Proofs.TimestampForm

/-!
Instants as text, in both directions. A written instant stands for its local time less its
offset, which is always an instant, however far the offset takes it over the end of a day or of
a year. What is written for an instant has that form as long as the year has four digits, and
starts with a sign otherwise, which no text of the form does.
-/

namespace RowScript

namespace Instant

theorem firstSecond_eq : firstSecond = -8334601228800 := by decide

theorem lastSecond_eq : lastSecond = 8210266876799 := by decide

theorem isInstant_iff {seconds : Int} {nanos : Nat} :
    isInstant seconds nanos = true ↔
      -8334601228800 ≤ seconds ∧ seconds ≤ 8210266876799 ∧ nanos < 2000000000 ∧
        (nanos < 1000000000 ∨ seconds % 60 = 59) := by
  simp [isInstant, firstSecond_eq, lastSecond_eq, and_assoc]

theorem of?_eq_some_iff {seconds : Int} {nanos : Nat} {t : Instant} :
    of? seconds nanos = some t ↔ t.seconds = seconds ∧ t.nanos = nanos := by
  rw [of?]
  constructor
  · intro h
    split at h
    · cases h
      exact ⟨rfl, rfl⟩
    · cases h
  · rintro ⟨rfl, rfl⟩
    rw [dif_pos t.inRange]

variable (t : Instant)

theorem date_isValid : t.date.isValid = true := (Date.ofDays_spec t.day).1

theorem clock_bounds : t.hour ≤ 23 ∧ t.minute ≤ 59 ∧ t.second ≤ 59 := by
  rw [hour, minute, second, secondOfDay]
  omega

/-- A leap second is the last one of its minute. -/
theorem second_of_leap (h : 1000000000 ≤ t.nanos) : t.second = 59 := by
  obtain ⟨-, -, -, hleap⟩ := isInstant_iff.mp t.inRange
  have hlast := hleap.resolve_left (by omega)
  rw [second, secondOfDay]
  omega

theorem nanos_lt : t.nanos < 2000000000 := (isInstant_iff.mp t.inRange).2.2.1

end Instant

namespace Date

end Date

namespace Rfc3339

open Grammar Numeral

/-- The calendar has the date and the clock shows the time. A second of 60 is a leap second,
which may be in any minute. -/
structure Written.Valid (w : Written) : Prop where
  date : w.date.isValid = true
  hour : w.hour ≤ 23
  minute : w.minute ≤ 59
  second : w.second ≤ 60

/-- The instant is the local time less the offset. -/
structure Written.Denotes (w : Written) (t : Instant) : Prop where
  seconds : t.seconds = w.date.toDays * 86400 + w.hour * 3600 + w.minute * 60 +
    min w.second 59 - w.offset * 60
  nanos : t.nanos = w.nanos + if w.second = 60 then 1000000000 else 0

theorem toInstant?_eq_some_iff {w : Written} {t : Instant} :
    w.toInstant? = some t ↔ w.Valid ∧ w.Denotes t := by
  rw [Written.toInstant?]
  constructor
  · intro h
    split at h
    · rename_i hvalid
      obtain ⟨hdate, hhour, hminute, hsecond⟩ := hvalid
      obtain ⟨hseconds, hnanos⟩ := Instant.of?_eq_some_iff.mp h
      refine ⟨⟨hdate, hhour, hminute, hsecond⟩, ⟨?_, hnanos⟩⟩
      rw [hseconds]
      omega
    · cases h
  · rintro ⟨⟨hdate, hhour, hminute, hsecond⟩, ⟨hseconds, hnanos⟩⟩
    rw [if_pos ⟨hdate, hhour, hminute, hsecond⟩]
    refine Instant.of?_eq_some_iff.mpr ⟨?_, hnanos⟩
    rw [hseconds]
    omega

/-- The instant that a text stands for is that of what is written. -/
theorem read?_eq_some_iff {text : List Char} {t : Instant} :
    read? text = some t ↔ ∃ w, Form text w ∧ w.Valid ∧ w.Denotes t := by
  simp only [read?, Option.bind_eq_some_iff, written?_eq_some_iff, toInstant?_eq_some_iff]

theorem NumberText.lt {width n : Nat} {text : List Char} (h : NumberText width text n) :
    n < 10 ^ width := by
  obtain ⟨rfl, hdigits, rfl⟩ := h
  exact natOf_lt hdigits

theorem FractionText.lt {text : List Char} {n : Nat} (h : FractionText text n) :
    n < 1000000000 := by
  cases h with
  | absent => decide
  | @present digits h =>
      have hpos : 0 < 10 ^ digits.length := Nat.pow_pos (by decide)
      refine (Nat.div_lt_iff_lt_mul hpos).mpr ?_
      rw [Nat.mul_comm 1000000000]
      exact Nat.mul_lt_mul_of_pos_right (natOf_lt h.2) (by decide)

theorem OffsetText.bounds {text : List Char} {n : Int} (h : OffsetText text n) :
    -1440 < n ∧ n < 1440 := by
  cases h <;> omega

theorem Form.bounds {text : List Char} {w : Written} (h : Form text w) :
    0 ≤ w.date.year ∧ w.date.year ≤ 9999 ∧ w.nanos < 1000000000 ∧
      -1440 < w.offset ∧ w.offset < 1440 := by
  obtain ⟨hyear, -, -, -, -, -, -, hfraction, hzone⟩ := h
  have hyear := hyear.lt
  exact ⟨Int.natCast_nonneg _, by dsimp only; omega, hfraction.lt, hzone.bounds⟩

section Writing

variable (t : Instant)

/-- What is written for an instant. -/
def written : Written :=
  ⟨t.date, t.hour, t.minute, t.second + t.nanos / 1000000000, t.nanos % 1000000000, 0⟩

end Writing

section Ends

theorem NumberText.exists_digit {width n : Nat} {text : List Char}
    (h : NumberText (width + 1) text n) : ∃ c rest, text = c :: rest ∧ Digit c := by
  obtain ⟨c, rest, rfl⟩ := List.exists_cons_of_length_eq_add_one h.length
  exact ⟨c, rest, rfl, h.digits c List.mem_cons_self⟩

theorem OffsetText.endsNonblank {zone : List Char} {n : Int} (h : OffsetText zone n) :
    EndsNonblank zone := by
  have hclock {sign : Char} {hours minutes : List Char} {minute : Nat}
      (hm : NumberText 2 minutes minute) : EndsNonblank (sign :: (hours ++ ':' :: minutes)) := by
    obtain ⟨c, rest, hcons, -⟩ := hm.exists_digit
    have hne : minutes ≠ [] := hcons ▸ List.cons_ne_nil c rest
    have hend := endsNonblank_of_bare hne fun c hc => (hm.digits c hc).wordChar.bare
    exact ((hend.append [':']).append hours).append [sign]
  cases h with
  | @universal c h =>
      refine ⟨[], c, rfl, ?_⟩
      obtain rfl | rfl := h <;> rfl
  | ahead _ hm => exact hclock hm
  | behind _ _ hm => exact hclock hm

theorem Form.endsNonblank {text : List Char} {w : Written} (h : Form text w) :
    EndsNonblank text := by
  obtain ⟨-, -, -, -, -, -, -, -, hzone⟩ := h
  simp only [← List.cons_append, ← List.append_assoc]
  exact hzone.endsNonblank.append _

theorem Form.exists_digit {text : List Char} {w : Written} (h : Form text w) :
    ∃ c rest, text = c :: rest ∧ Digit c := by
  obtain ⟨hyear, -⟩ := h
  obtain ⟨c, rest, rfl, hc⟩ := hyear.exists_digit
  exact ⟨c, _, rfl, hc⟩

theorem Form.trim_surrounded {lead text trail : List Char} {w : Written} (h : Form text w)
    (hlead : ∀ c ∈ lead, Text.isBlank c = true) (htrail : ∀ c ∈ trail, Text.isBlank c = true) :
    Text.trim (lead ++ (text ++ trail)) = text := by
  obtain ⟨c, rest, hcons, hc⟩ := h.exists_digit
  exact h.endsNonblank.trim_surrounded (by simp [hcons, hc.wordChar.bare.1]) hlead htrail

end Ends

end Rfc3339

end RowScript
