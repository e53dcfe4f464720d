import RowScript.Calendar.Date

/-!
Instants of coordinated universal time. A leap second is the second 59 of its
minute with a thousand million nanoseconds or more, so that it has a place
behind that second and no number of its own.
-/

namespace RowScript

/-- The first second of the year -262143. -/
def firstSecond : Int := (Date.toDays ⟨-262143, 1, 1⟩) * 86400

/-- The last second of the year 262142. -/
def lastSecond : Int := (Date.toDays ⟨262142, 12, 31⟩) * 86400 + 86399

/-- Whether seconds since 1970 and nanoseconds make up an instant. -/
def isInstant (seconds : Int) (nanos : Nat) : Bool :=
  firstSecond ≤ seconds && seconds ≤ lastSecond && nanos < 2000000000 &&
    (nanos < 1000000000 || seconds % 60 == 59)

structure Instant where
  seconds : Int
  nanos : Nat
  inRange : isInstant seconds nanos = true
deriving DecidableEq

namespace Instant

def of? (seconds : Int) (nanos : Nat) : Option Instant :=
  if h : isInstant seconds nanos = true then some ⟨seconds, nanos, h⟩ else none

def day (t : Instant) : Int := t.seconds / 86400

def date (t : Instant) : Date := Date.ofDays t.day

def secondOfDay (t : Instant) : Nat := (t.seconds % 86400).toNat

def hour (t : Instant) : Nat := t.secondOfDay / 3600

def minute (t : Instant) : Nat := t.secondOfDay / 60 % 60

/-- Second of the minute, 59 in a leap second. -/
def second (t : Instant) : Nat := t.secondOfDay % 60

def isLeapSecond (t : Instant) : Bool := 1000000000 ≤ t.nanos

/-- Milliseconds since 1970, rounded down. A leap second runs on into the next
second. -/
def millis (t : Instant) : Int := t.seconds * 1000 + (t.nanos / 1000000 : Nat)

/-- The instant that many milliseconds after the start of 1970. -/
def ofMillis? (millis : Int) : Option Instant :=
  of? (millis / 1000) ((millis % 1000).toNat * 1000000)

end Instant

end RowScript
