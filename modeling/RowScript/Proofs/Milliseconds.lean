import RowScript.Proofs.TimestampParts
import RowScript.Schema.Reconcile

/-!
Timestamps as milliseconds since 1970 and back. The directive that writes the milliseconds and the
field of a schema that takes them round in the same direction, before 1970 too, so what comes back
is the timestamp down to its millisecond. Only milliseconds outside the years of the calendar
are refused, and all that is computed on the way is an integer of sixty-four bits.
-/

namespace RowScript

/-- An operation on words, unless what it comes to is no word. -/
def checked (operation : Int → Int → Int) (a b : Int64) : Option Int64 :=
  int64? (operation a.toInt b.toInt)

/-- No step of the computation leaves the words, and it comes to the integer. -/
def Computes (computed : Option Int64) (n : Int) : Prop :=
  ∃ word, computed = some word ∧ word.toInt = n

theorem computes_int64? {n : Int} (hlow : -2 ^ 63 ≤ n) (hhigh : n < 2 ^ 63) :
    Computes (int64? n) n := exists_int64? hlow hhigh

theorem computes_checked {operation : Int → Int → Int} {a b : Int64} {m n : Int}
    (ha : a.toInt = m) (hb : b.toInt = n) (hlow : -2 ^ 63 ≤ operation m n)
    (hhigh : operation m n < 2 ^ 63) : Computes (checked operation a b) (operation m n) := by
  subst ha hb
  exact computes_int64? hlow hhigh

theorem Computes.bind {computed : Option Int64} {next : Int64 → Option Int64} {m n : Int}
    (h : Computes computed m) (hnext : ∀ word, word.toInt = m → Computes (next word) n) :
    Computes (computed.bind next) n := by
  obtain ⟨word, rfl, hword⟩ := h
  exact hnext word hword

namespace Instant

/-- The seconds since 1970 in words, from the day and the second of the day. -/
def checkedSeconds (t : Instant) : Option Int64 :=
  (int64? t.day).bind fun day =>
  (checked (· * ·) day 86400).bind fun start =>
  (int64? t.secondOfDay).bind fun second =>
  checked (· + ·) start second

/-- The milliseconds since 1970 in words. -/
def checkedMillis (t : Instant) : Option Int64 :=
  t.checkedSeconds.bind fun seconds =>
  (checked (· * ·) seconds 1000).bind fun whole =>
  (int64? t.nanos).bind fun nanos =>
  (checked (· / ·) nanos 1000000).bind fun rest =>
  checked (· + ·) whole rest

/-- The seconds and nanoseconds of milliseconds since 1970, in words. -/
def checkedParts (millis : Int64) : Option (Int64 × Int64) :=
  (checked (· / ·) millis 1000).bind fun seconds =>
  (checked (· % ·) millis 1000).bind fun rest =>
  (checked (· * ·) rest 1000000).map fun nanos => (seconds, nanos)

theorem computes_checkedSeconds (t : Instant) : Computes t.checkedSeconds t.seconds := by
  obtain ⟨hlow, hhigh, -⟩ := isInstant_iff.mp t.inRange
  have hday : t.day = t.seconds / 86400 := rfl
  have hsecond : (t.secondOfDay : Int) = t.seconds % 86400 := by
    rw [secondOfDay]
    omega
  have hseconds : t.seconds = t.day * 86400 + t.secondOfDay := by omega
  have hdayLength : (86400 : Int64).toInt = 86400 := rfl
  refine (computes_int64? (by omega) (by omega)).bind fun day hday => ?_
  refine (computes_checked hday hdayLength (by omega) (by omega)).bind fun start hstart => ?_
  refine (computes_int64? (by omega) (by omega)).bind fun second hsecond => ?_
  rw [hseconds]
  exact computes_checked hstart hsecond (by omega) (by omega)

theorem computes_checkedMillis (t : Instant) : Computes t.checkedMillis t.millis := by
  obtain ⟨hlow, hhigh, hnanos, -⟩ := isInstant_iff.mp t.inRange
  have hmillis : (1000 : Int64).toInt = 1000 := rfl
  have hmillion : (1000000 : Int64).toInt = 1000000 := rfl
  refine t.computes_checkedSeconds.bind fun seconds hseconds => ?_
  refine (computes_checked hseconds hmillis (by omega) (by omega)).bind fun whole hwhole => ?_
  refine (computes_int64? (by omega) (by omega)).bind fun nanos hnanos => ?_
  refine (computes_checked hnanos hmillion (by omega) (by omega)).bind fun rest hrest => ?_
  exact computes_checked hwhole hrest (by omega) (by omega)

theorem exists_checkedParts (ms : Int64) :
    ∃ seconds nanos, checkedParts ms = some (seconds, nanos) ∧
      ofMillis? ms.toInt = of? seconds.toInt nanos.toInt.toNat := by
  have hlow := ms.le_toInt
  have hhigh := ms.toInt_lt
  have hmillis : (1000 : Int64).toInt = 1000 := rfl
  have hmillion : (1000000 : Int64).toInt = 1000000 := rfl
  obtain ⟨seconds, hseconds, hwhole⟩ : Computes (checked (· / ·) ms 1000) (ms.toInt / 1000) :=
    computes_checked rfl hmillis (by omega) (by omega)
  obtain ⟨rest, hrest, hmod⟩ : Computes (checked (· % ·) ms 1000) (ms.toInt % 1000) :=
    computes_checked rfl hmillis (by omega) (by omega)
  obtain ⟨nanos, hnanos, hproduct⟩ :
      Computes (checked (· * ·) rest 1000000) (ms.toInt % 1000 * 1000000) :=
    computes_checked hmod hmillion (by omega) (by omega)
  refine ⟨seconds, nanos, ?_, ?_⟩
  · simp only [checkedParts, hseconds, hrest, hnanos, Option.bind_some, Option.map_some]
  · rw [ofMillis?, hwhole, hproduct]
    congr 1
    omega

theorem of?_eq_none_iff {seconds : Int} {nanos : Nat} :
    of? seconds nanos = none ↔ ¬isInstant seconds nanos = true := by
  rw [of?]
  split
  · rename_i h
    exact iff_of_false (Option.some_ne_none _) (not_not_intro h)
  · rename_i h
    exact iff_of_true rfl h

theorem millis_of_ofMillis? {millis : Int} {t : Instant} (h : ofMillis? millis = some t) :
    t.millis = millis := by
  obtain ⟨hseconds, hnanos⟩ := of?_eq_some_iff.mp h
  rw [Instant.millis, hseconds, hnanos]
  omega

theorem ofMillis?_eq_none_iff {millis : Int} :
    ofMillis? millis = none ↔ ∃ date, Date.DaysAfter (millis / 86400000) date ∧
      ¬(-262143 ≤ date.year ∧ date.year ≤ 262142) := by
  simp only [Date.daysAfter_iff, exists_eq_left]
  rw [ofMillis?, of?_eq_none_iff, isInstant_iff, Date.year_bounds_iff]
  omega

/-- The milliseconds of a leap second are those of the second behind it. -/
theorem ofMillis?_millis (t : Instant) :
    ofMillis? t.millis = of? (t.seconds + (t.nanos / 1000000000 : Nat))
      (t.nanos % 1000000000 / 1000000 * 1000000) := by
  have hnanos := t.nanos_lt
  have hseconds : t.millis / 1000 = t.seconds + (t.nanos / 1000000000 : Nat) := by
    rw [Instant.millis]
    omega
  have hrest : (t.millis % 1000).toNat = t.nanos % 1000000000 / 1000000 := by
    rw [Instant.millis]
    omega
  rw [ofMillis?, hseconds, hrest]

/-- The nanoseconds are less than a second, so none of it is carried into the seconds. -/
theorem exists_whole {t : Instant} (h : t.isLeapSecond = false) :
    ∃ whole, ofMillis? t.millis = some whole ∧ whole.seconds = t.seconds ∧
      whole.nanos = t.nanos / 1000000 * 1000000 := by
  have hnanos : t.nanos < 1000000000 := by simpa [isLeapSecond] using h
  obtain ⟨hlow, hhigh, -⟩ := isInstant_iff.mp t.inRange
  have hwhole : isInstant t.seconds (t.nanos / 1000000 * 1000000) = true :=
    isInstant_iff.mpr (by omega)
  refine ⟨⟨_, _, hwhole⟩, ?_, rfl, rfl⟩
  rw [ofMillis?_millis, Nat.div_eq_of_lt hnanos, Nat.mod_eq_of_lt hnanos, of?_eq_some_iff]
  exact ⟨(Int.add_zero _).symm, rfl⟩

end Instant

/-- Milliseconds in a field of a schema for timestamps, and in what the directive writes for the
milliseconds of a timestamp. A leap second has no milliseconds of its own, so it does not come
back. -/
structure MillisRoundTrip : Prop where
  refused : ∀ ms : Int64, (Value.int ms).coerce? .timestamp = none ↔
    ∃ date, Date.DaysAfter (ms.toInt / 86400000) date ∧
      ¬(-262143 ≤ date.year ∧ date.year ≤ 262142)
  taken : ∀ (ms : Int64) (value : Value), (Value.int ms).coerce? .timestamp = some value →
    ∃ t, value = .timestamp t ∧ DateField.milliseconds.Writes t ms
  returned : ∀ t : Instant, t.isLeapSecond = false → ∃ ms whole,
    (∀ n, DateField.milliseconds.Writes t n ↔ n = ms) ∧
      (Value.int ms).coerce? .timestamp = some (.timestamp whole) ∧
      whole.seconds = t.seconds ∧ whole.nanos = t.nanos / 1000000 * 1000000
  words_of_instant : ∀ t : Instant, Computes t.checkedMillis t.millis
  words_of_millis : ∀ ms : Int64, ∃ seconds nanos,
    Instant.checkedParts ms = some (seconds, nanos) ∧
      Instant.ofMillis? ms.toInt = Instant.of? seconds.toInt nanos.toInt.toNat

theorem millisRoundTrip : MillisRoundTrip := by
  constructor
  case refused =>
    intro ms
    rw [← Instant.ofMillis?_eq_none_iff, Value.coerce?, Option.map_eq_none_iff]
  case taken =>
    intro ms value h
    obtain ⟨t, ht, rfl⟩ := Option.map_eq_some_iff.mp h
    refine ⟨t, rfl, DateField.writes_iff.mpr (Int64.toInt_inj.mp ?_)⟩
    rw [DateField.toInt_word, DateField.of, Instant.millis_of_ofMillis? ht]
  case returned =>
    intro t h
    obtain ⟨whole, hwhole, hsame⟩ := Instant.exists_whole h
    refine ⟨DateField.word t .milliseconds, whole, fun n => DateField.writes_iff, ?_, hsame⟩
    rw [Value.coerce?, DateField.toInt_word, DateField.of, hwhole]
    rfl
  case words_of_instant => exact Instant.computes_checkedMillis
  case words_of_millis => exact Instant.exists_checkedParts

end RowScript
