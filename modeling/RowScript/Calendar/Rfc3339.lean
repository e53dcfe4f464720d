import RowScript.Calendar.Instant
import RowScript.Decimal.Numeral

/-!
The written form of instants. Writing shows the instant in universal time with
as many groups of three fraction digits as it needs. Reading takes a date, a
time of day and an offset from universal time, and gives the instant; years have
four digits there, so what is written for another year is not read back.
-/

namespace RowScript.Rfc3339

/-- The last `width` decimal digits of a number. -/
def padded : Nat → Nat → List Char
  | 0, _ => []
  | width + 1, n => padded width (n / 10) ++ [Nat.digitChar (n % 10)]

/-- A year of four digits as it is, another one with its sign. -/
def year (y : Int) : List Char :=
  if 0 ≤ y ∧ y ≤ 9999 then padded 4 y.toNat
  else
    let digits := Nat.toDigits 10 y.natAbs
    (if y < 0 then '-' else '+') :: List.replicate (4 - digits.length) '0' ++ digits

def fraction (nanos : Nat) : List Char :=
  if nanos = 0 then []
  else if nanos % 1000000 = 0 then '.' :: padded 3 (nanos / 1000000)
  else if nanos % 1000 = 0 then '.' :: padded 6 (nanos / 1000)
  else '.' :: padded 9 nanos

/-- The text of an instant. The second of a leap second is 60. -/
def write (t : Instant) : String :=
  let d := t.date
  String.ofList <|
    year d.year ++ '-' :: padded 2 d.month ++ '-' :: padded 2 d.day ++
    'T' :: padded 2 t.hour ++ ':' :: padded 2 t.minute ++
    ':' :: padded 2 (t.second + t.nanos / 1000000000) ++
    fraction (t.nanos % 1000000000) ++ ['Z']

/-- A date, a time of day and an offset in minutes, as written. -/
structure Written where
  date : Date
  hour : Nat
  minute : Nat
  second : Nat
  nanos : Nat
  offset : Int
deriving DecidableEq

/-- The instant of a written form. A second of 60 is a leap second. -/
def Written.toInstant? (w : Written) : Option Instant :=
  if w.date.isValid ∧ w.hour ≤ 23 ∧ w.minute ≤ 59 ∧ w.second ≤ 60 then
    let seconds := w.date.toDays * 86400 +
      ((w.hour * 60 + w.minute) * 60 + min w.second 59 : Nat) - w.offset * 60
    Instant.of? seconds (w.nanos + if w.second = 60 then 1000000000 else 0)
  else none

/-- A number of exactly that many digits, and what follows it. -/
def number? (width : Nat) (text : List Char) : Option (Nat × List Char) :=
  let digits := text.take width
  if digits.length = width ∧ digits.all Char.isDigit then
    some (Numeral.natOf digits, text.drop width)
  else none

/-- What follows the given character. -/
def expect? (c : Char) : List Char → Option (List Char)
  | [] => none
  | head :: rest => if head = c then some rest else none

/-- What follows the character between the date and the time. -/
def expectBreak? : List Char → Option (List Char)
  | 'T' :: rest | 't' :: rest | ' ' :: rest => some rest
  | _ => none

/-- The nanoseconds of a fraction, if there is a point, and what follows. Digits
behind the ninth do not count. -/
def nanos? : List Char → Option (Nat × List Char)
  | '.' :: rest =>
    match Numeral.takeDigits rest with
    | ([], _) => none
    | (digits, behind) =>
      let first := digits.take 9
      some (Numeral.natOf (first ++ List.replicate (9 - first.length) '0'), behind)
  | text => some (0, text)

/-- The offset in minutes and what follows it. -/
def offset? : List Char → Option (Int × List Char)
  | [] => none
  | c :: rest =>
    if c = 'Z' ∨ c = 'z' then some (0, rest)
    else if c = '+' ∨ c = '-' ∨ c = '\u2212' then do
      let (hours, rest) ← number? 2 rest
      let rest ← expect? ':' rest
      let (minutes, rest) ← number? 2 rest
      if hours ≤ 23 ∧ minutes ≤ 59 then
        some (Numeral.signed (c ≠ '+') (hours * 60 + minutes), rest)
      else none
    else none

/-- The parts of a text that has the form of an instant. -/
def written? (text : List Char) : Option Written := do
  let (year, rest) ← number? 4 text
  let rest ← expect? '-' rest
  let (month, rest) ← number? 2 rest
  let rest ← expect? '-' rest
  let (day, rest) ← number? 2 rest
  let rest ← expectBreak? rest
  let (hour, rest) ← number? 2 rest
  let rest ← expect? ':' rest
  let (minute, rest) ← number? 2 rest
  let rest ← expect? ':' rest
  let (second, rest) ← number? 2 rest
  let (nanos, rest) ← nanos? rest
  let (offset, rest) ← offset? rest
  if rest = [] then some ⟨⟨year, month, day⟩, hour, minute, second, nanos, offset⟩ else none

/-- The instant that a text stands for. -/
def read? (text : List Char) : Option Instant :=
  (written? text).bind Written.toInstant?

end RowScript.Rfc3339
