import SecureStream.Certificate

/-!
# Days

Points in time that are whole days away from a fixed one.

* `Clock.date`: year, month and day of a day number;
* `Clock.time`: noon of a day, as a certificate writes it.
-/

namespace SecureStream.Peer.Clock

/-- The day that counts as today: the number of days since the start of 1970. -/
def today : Int := 20454

/-- Year, month and day of a day number, in the calendar that has a leap day every four years but
not in three of four centuries. Years are counted from March, so that the leap day comes last. -/
def date (day : Int) : Nat × Nat × Nat :=
  let n := (day + 719468).toNat
  let era := n / 146097
  let dayOfEra := n % 146097
  let yearOfEra := (dayOfEra - dayOfEra / 1460 + dayOfEra / 36524 - dayOfEra / 146096) / 365
  let dayOfYear := dayOfEra - (365 * yearOfEra + yearOfEra / 4 - yearOfEra / 100)
  let marchMonth := (5 * dayOfYear + 2) / 153
  let month := if marchMonth < 10 then marchMonth + 3 else marchMonth - 9
  let year := era * 400 + yearOfEra + (if month ≤ 2 then 1 else 0)
  (year, month, dayOfYear - (153 * marchMonth + 2) / 5 + 1)

/-- The last decimal digits of a number, as ASCII. -/
def digits : Nat → Nat → List UInt8
  | 0, _ => []
  | k + 1, n => digits k (n / 10) ++ [.ofNat (48 + n % 10)]

/-- Noon of the day that is so many days from today. -/
def time (offset : Int) : Time :=
  let (year, month, day) := date (today + offset)
  ⟨digits 4 year ++ digits 2 month ++ digits 2 day ++ digits 6 120000⟩

/-- Now. -/
def now : Time := time 0

end SecureStream.Peer.Clock
