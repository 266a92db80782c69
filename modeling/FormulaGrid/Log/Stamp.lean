/-! Timestamps of log entries: universal time to the microsecond, always 27 characters. -/
namespace FormulaGrid.Log

/-- The year, month and day of a day counted from the start of 1970. Years run from March to
February, so that a leap day is the last day of its year; every 400 of them have 146097 days. -/
def civilDay (day : Nat) : Nat × Nat × Nat :=
  let shifted := day + 719468
  let era := shifted / 146097
  let dayOfEra := shifted % 146097
  let yearOfEra := (dayOfEra - dayOfEra / 1460 + dayOfEra / 36524 - dayOfEra / 146096) / 365
  let dayOfYear := dayOfEra - (365 * yearOfEra + yearOfEra / 4 - yearOfEra / 100)
  let month := (5 * dayOfYear + 2) / 153
  let dayOfMonth := dayOfYear - (153 * month + 2) / 5 + 1
  if month < 10 then (400 * era + yearOfEra, month + 3, dayOfMonth)
  else (400 * era + yearOfEra + 1, month - 9, dayOfMonth)

def zeroPadded (width n : Nat) : String :=
  let digits := toString n
  String.ofList (List.replicate (width - digits.length) '0') ++ digits

def stamp (seconds nanoseconds : Nat) : String :=
  let (year, month, day) := civilDay (seconds / 86400)
  let second := seconds % 86400
  zeroPadded 4 year ++ "-" ++ zeroPadded 2 month ++ "-" ++ zeroPadded 2 day ++ "T" ++
    zeroPadded 2 (second / 3600) ++ ":" ++ zeroPadded 2 (second / 60 % 60) ++ ":" ++
    zeroPadded 2 (second % 60) ++ "." ++ zeroPadded 6 (nanoseconds / 1000) ++ "Z"

end FormulaGrid.Log
