import SubscriptionDesk.Text.Digits

namespace SubscriptionDesk

structure CalendarDay where
  year : Int
  month : Nat
  day : Nat
  deriving DecidableEq

namespace CalendarDay

def daysPerEra : Int := 146097

def epochOffset : Int := 719468

/-- The day so many days after the first of January of 1970. Years are counted from March, so that
a leap day is the last day of its year. -/
def ofEpochDay (epochDay : Int) : CalendarDay :=
  let shifted := epochDay + epochOffset
  let era := shifted / daysPerEra
  let dayOfEra := (shifted % daysPerEra).toNat
  let yearOfEra := (dayOfEra - dayOfEra / 1460 + dayOfEra / 36524 - dayOfEra / 146096) / 365
  let dayOfYear := dayOfEra - (365 * yearOfEra + yearOfEra / 4 - yearOfEra / 100)
  let monthFromMarch := (5 * dayOfYear + 2) / 153
  let day := dayOfYear - (153 * monthFromMarch + 2) / 5 + 1
  let month := if monthFromMarch < 10 then monthFromMarch + 3 else monthFromMarch - 9
  let year := (yearOfEra : Int) + era * 400
  ⟨if month ≤ 2 then year + 1 else year, month, day⟩

end CalendarDay

namespace Instant

def millisPerDay : Int := 86400000

def padded (width value : Nat) : String := String.ofList (Text.paddedDigits width value)

def fraction (millis : Nat) : String :=
  if millis = 0 then ""
  else
    let digits := (Text.paddedDigits 3 millis).reverse.dropWhile (· == '0')
    "." ++ String.ofList digits.reverse

/-- The instant as a UTC date and time in years 0 to 9999, or else as its number. -/
def text (millis : Int64) : String :=
  let day := CalendarDay.ofEpochDay (millis.toInt / millisPerDay)
  let within := (millis.toInt % millisPerDay).toNat
  if 0 ≤ day.year ∧ day.year ≤ 9999 then
    padded 4 day.year.toNat ++ "-" ++ padded 2 day.month ++ "-" ++ padded 2 day.day ++ "T" ++
      padded 2 (within / 3600000) ++ ":" ++ padded 2 (within / 60000 % 60) ++ ":" ++
      padded 2 (within / 1000 % 60) ++ fraction (within % 1000) ++ "Z"
  else toString millis.toInt ++ " ms since epoch"

end Instant

end SubscriptionDesk
