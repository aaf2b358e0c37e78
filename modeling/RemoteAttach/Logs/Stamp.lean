/-! The time in the name of a log file: year, month and day, then hours, minutes and seconds, with
underscores and hyphens that a file name may hold. -/

namespace RemoteAttach.Stamp

/-- A number with zeros before it, up to a width. -/
def padded (width : Nat) (n : Nat) : String :=
  let digits := toString n
  String.ofList (List.replicate (width - digits.length) '0') ++ digits

/-- The year, month and day of a day that is counted from the first of January 1970. Years are
counted from March on, so that a leap day ends one; 146097 days are 400 years. -/
def dateOfDay (day : Nat) : Nat × Nat × Nat :=
  let day := day + 719468
  let era := day / 146097
  let inEra := day % 146097
  let year := (inEra - inEra / 1460 + inEra / 36524 - inEra / 146096) / 365
  let inYear := inEra - (365 * year + year / 4 - year / 100)
  let month := (5 * inYear + 2) / 153
  let inMonth := inYear - (153 * month + 2) / 5 + 1
  let civil := if month < 10 then month + 3 else month - 9
  (year + era * 400 + (if civil ≤ 2 then 1 else 0), civil, inMonth)

/-- The stamp of a time in seconds from the beginning of 1970, in coordinated time. -/
def ofSeconds (seconds : Nat) : String :=
  let (year, month, day) := dateOfDay (seconds / 86400)
  let time := seconds % 86400
  padded 4 year ++ "-" ++ padded 2 month ++ "-" ++ padded 2 day ++ "_" ++
    padded 2 (time / 3600) ++ "-" ++ padded 2 (time / 60 % 60) ++ "-" ++ padded 2 (time % 60)

end RemoteAttach.Stamp
