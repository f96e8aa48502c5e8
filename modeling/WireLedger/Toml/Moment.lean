import WireLedger.Numeral
import WireLedger.Toml.Scan
/-!
# Dates and times

A date, a time of day, or a date with a time of day and perhaps its offset. Only their form and
their ranges are checked.
-/
namespace WireLedger.Toml.Scanner

/-- Takes a number of so many decimal digits, all of them or nothing. -/
def fixedDigits (count : Nat) : Scanner Nat := do
  let digits ← (takeUpTo count Char.isDigit).filter (·.length = count)
  return (Numeral.read? 10 digits).getD 0

/-- Takes a number of two digits within bounds. -/
def twoDigits (least most : Nat) : Scanner Nat :=
  (fixedDigits 2).check fun n =>
    if least ≤ n ∧ n ≤ most then return n else throw .outOfRange

/-- The number of days of a month. -/
def daysIn (year month : Nat) : Nat :=
  if month = 2 then
    if year % 4 = 0 ∧ (year % 100 ≠ 0 ∨ year % 400 = 0) then 29 else 28
  else if month = 4 ∨ month = 6 ∨ month = 9 ∨ month = 11 then 30
  else 31

/-- Takes a date. -/
def date : Scanner Unit := do
  let year ← fixedDigits 4
  let _ ← char '-'
  commit do
    let month ← twoDigits 1 12
    let _ ← char '-'
    let _ ← (twoDigits 1 31).check fun day =>
      if day ≤ daysIn year month then return day else throw .outOfRange

/-- Takes a time of day, to the second or finer; the last minute may have a second more. -/
def timeOfDay : Scanner Unit := do
  let _ ← twoDigits 0 23
  let _ ← char ':'
  commit do
    let _ ← twoDigits 0 59
    let _ ← char ':'
    let _ ← twoDigits 0 60
    let _ ← optional do
      let _ ← char '.'
      takeSome Char.isDigit

/-- Takes the offset of a time. -/
def timeOffset : Scanner Unit := labelled "time offset" <|
  orElse
    (do let _ ← satisfying fun c => c = 'Z' || c = 'z')
    (do
      let _ ← satisfying fun c => c = '+' || c = '-'
      commit do
        let _ ← twoDigits 0 23
        let _ ← char ':'
        let _ ← twoDigits 0 59)

/-- Takes a date, a time, or both. -/
def moment : Scanner Unit :=
  orElse
    (labelled "date-time" do
      date
      let _ ← optional do
        let _ ← satisfying fun c => c = 'T' || c = 't' || c = ' '
        timeOfDay
        let _ ← optional timeOffset)
    (labelled "time" timeOfDay)

end WireLedger.Toml.Scanner
