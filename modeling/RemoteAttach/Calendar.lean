import RemoteAttach.Text.Numeral
import RemoteAttach.Text.Split

/-! Dates and times of day, as seconds before or after the start of a common epoch, all in universal
time: how they are written and how they are read. -/

namespace RemoteAttach.Calendar

/-- A moment in the parts that a calendar and a clock show. -/
structure Shown where
  year : Int
  /-- From 1 on. -/
  month : Nat
  day : Nat
  hour : Nat
  minute : Nat
  second : Nat
  /-- From 0 on, which is Sunday. -/
  weekday : Nat
  /-- The days of the year before this one. -/
  dayOfYear : Nat

/-- The number of days before a date, from the epoch on. -/
def daysBefore (year : Int) (month day : Nat) : Int :=
  let y := if month ≤ 2 then year - 1 else year
  let era := Int.fdiv y 400
  let yearOfEra := y - era * 400
  let shifted : Int := ((month + 9) % 12 : Nat)
  let dayOfYear := (153 * shifted + 2) / 5 + (day : Int) - 1
  let dayOfEra := yearOfEra * 365 + yearOfEra / 4 - yearOfEra / 100 + dayOfYear
  era * 146097 + dayOfEra - 719468

/-- The year, month and day after a number of days from the epoch on. -/
def dateAfter (days : Int) : Int × Nat × Nat :=
  let z := days + 719468
  let era := Int.fdiv z 146097
  let dayOfEra := z - era * 146097
  let yearOfEra := (dayOfEra - dayOfEra / 1460 + dayOfEra / 36524 - dayOfEra / 146096) / 365
  let dayOfYear := dayOfEra - (365 * yearOfEra + yearOfEra / 4 - yearOfEra / 100)
  let shifted := (5 * dayOfYear + 2) / 153
  let day := dayOfYear - (153 * shifted + 2) / 5 + 1
  let month := if shifted < 10 then shifted + 3 else shifted - 9
  (yearOfEra + era * 400 + (if month ≤ 2 then 1 else 0), month.toNat, day.toNat)

/-- The parts of a moment. -/
def shown (seconds : Int) : Shown :=
  let days := Int.fdiv seconds 86400
  let rest := (seconds - days * 86400).toNat
  let (year, month, day) := dateAfter days
  { year, month, day
    hour := rest / 3600
    minute := rest / 60 % 60
    second := rest % 60
    weekday := (Int.fmod (days + 4) 7).toNat
    dayOfYear := (days - daysBefore year 1 1).toNat }

/-- The names of the months. -/
def months : List String :=
  ["January", "February", "March", "April", "May", "June", "July", "August", "September",
    "October", "November", "December"]

/-- The names of the days of a week. -/
def weekdays : List String :=
  ["Sunday", "Monday", "Tuesday", "Wednesday", "Thursday", "Friday", "Saturday"]

/-- A number with at least some digits. -/
def digits (width : Nat) (n : Nat) : String :=
  let text := toString n
  String.ofList (List.replicate (width - text.length) '0') ++ text

/-- A number with at least some places, the first of which may be blanks. -/
def places (width : Nat) (n : Nat) : String :=
  let text := toString n
  String.ofList (List.replicate (width - text.length) ' ') ++ text

/-- The first three letters of a name. -/
def short (names : List String) (n : Nat) : String :=
  String.ofList ((names.getD n "").toList.take 3)

/-- The hour on a clock that shows twelve of them. -/
def hourOfTwelve (t : Shown) : Nat :=
  if t.hour % 12 = 0 then 12 else t.hour % 12

/-- What a letter of a format stands for, if it stands for one part. -/
def part? (seconds : Int) (t : Shown) : Char → Option String
  | 'Y' => some (toString t.year)
  | 'C' => some (digits 2 (t.year.toNat / 100))
  | 'y' => some (digits 2 (t.year.toNat % 100))
  | 'm' => some (digits 2 t.month)
  | 'd' => some (digits 2 t.day)
  | 'e' => some (places 2 t.day)
  | 'H' => some (digits 2 t.hour)
  | 'I' => some (digits 2 (hourOfTwelve t))
  | 'k' => some (places 2 t.hour)
  | 'l' => some (places 2 (hourOfTwelve t))
  | 'M' => some (digits 2 t.minute)
  | 'S' => some (digits 2 t.second)
  | 'N' => some "000000000"
  | 's' => some (toString seconds)
  | 'j' => some (digits 3 (t.dayOfYear + 1))
  | 'u' => some (toString (if t.weekday = 0 then 7 else t.weekday))
  | 'w' => some (toString t.weekday)
  | 'U' => some (digits 2 ((t.dayOfYear + 7 - t.weekday) / 7))
  | 'W' => some (digits 2 ((t.dayOfYear + 7 - (t.weekday + 6) % 7) / 7))
  | 'a' => some (short weekdays t.weekday)
  | 'A' => some (weekdays.getD t.weekday "")
  | 'b' | 'h' => some (short months (t.month - 1))
  | 'B' => some (months.getD (t.month - 1) "")
  | 'p' => some (if t.hour < 12 then "AM" else "PM")
  | 'P' => some (if t.hour < 12 then "am" else "pm")
  | 'q' => some (toString ((t.month + 2) / 3))
  | 'Z' => some "UTC"
  | 'z' => some "+0000"
  | 'n' => some "\n"
  | 't' => some "\t"
  | '%' => some "%"
  | _ => none

/-- What a letter of a format stands for, if it stands for several parts. -/
def shorthand? : Char → Option String
  | 'F' => some "%Y-%m-%d"
  | 'T' | 'X' => some "%H:%M:%S"
  | 'D' | 'x' => some "%m/%d/%y"
  | 'R' => some "%H:%M"
  | 'r' => some "%I:%M:%S %p"
  | 'c' => some "%a %b %e %H:%M:%S %Y"
  | _ => none

/-- A moment in the form of a text, where the letters after percent signs stand for its parts. -/
def formatFrom (seconds : Int) (t : Shown) (short : Bool) : List Char → List Char
  | '%' :: '-' :: c :: rest =>
    match part? seconds t c with
    | some text =>
      let bare := text.toList.dropWhile fun c => c = '0' || c = ' '
      (if bare.isEmpty then ['0'] else bare) ++ formatFrom seconds t short rest
    | none => '%' :: '-' :: c :: formatFrom seconds t short rest
  | '%' :: ':' :: 'z' :: rest => "+00:00".toList ++ formatFrom seconds t short rest
  | '%' :: c :: rest =>
    match part? seconds t c, shorthand? c with
    | some text, _ => text.toList ++ formatFrom seconds t short rest
    | none, some form =>
      let inner := if short then [] else simple form.toList
      inner ++ formatFrom seconds t short rest
    | none, none => '%' :: c :: formatFrom seconds t short rest
  | c :: rest => c :: formatFrom seconds t short rest
  | [] => []
where
  /-- The text of a form that has single parts only. -/
  simple : List Char → List Char
    | '%' :: c :: rest => ((part? seconds t c).getD "").toList ++ simple rest
    | c :: rest => c :: simple rest
    | [] => []

/-- A moment in the form of a text. -/
def format (seconds : Int) (form : String) : String :=
  String.ofList (formatFrom seconds (shown seconds) false form.toList)

/-- A number of decimal digits only. -/
def number? (text : List Char) : Option Nat :=
  if text.isEmpty then none else Text.digitsAfter 10 0 text

/-- The seconds of a time of day. -/
def timeOfDay? (text : List Char) : Option Nat := do
  let text := (Text.pieces ['.'] text).headD []
  match Text.pieces [':'] text with
  | [hour, minute] =>
    let h ← number? hour
    let m ← number? minute
    if 23 < h || 59 < m then none else some (h * 3600 + m * 60)
  | [hour, minute, second] =>
    let h ← number? hour
    let m ← number? minute
    let s ← number? second
    if 23 < h || 59 < m || 60 < s then none else some (h * 3600 + m * 60 + s)
  | _ => none

/-- The days before a date in numbers. -/
def date? (text : List Char) : Option Int := do
  let ordered ← match Text.pieces ['-'] text, Text.pieces ['/'] text with
    | [year, month, day], _ => some (year, month, day)
    | _, [month, day, year] => some (year, month, day)
    | _, _ =>
      if text.length = 8 then some (text.take 4, (text.drop 4).take 2, text.drop 6) else none
  let year ← number? ordered.1
  let month ← number? ordered.2.1
  let day ← number? ordered.2.2
  if month = 0 || 12 < month || day = 0 then none
  else
    let days := daysBefore year month day
    let (_, shownMonth, _) := dateAfter days
    if shownMonth = month && day ≤ 31 then some days else none

/-- The seconds of a unit of time. -/
def unit? (text : String) : Option Int :=
  let name := if text.endsWith "s" then String.ofList text.toList.dropLast else text
  [("sec", (1 : Int)), ("second", 1), ("min", 60), ("minute", 60), ("hour", 3600), ("day", 86400),
    ("week", 604800), ("fortnight", 1209600)].lookup name

/-- What the words of a moment have told so far. -/
structure Told where
  days : Option Int := none
  ofDay : Option Nat := none
  shift : Int := 0
  /-- A number whose unit is still to come. -/
  count : Option Int := none
  /-- The last shift that has been added. -/
  last : Int := 0

/-- Adds a shift. -/
def Told.moved (told : Told) (seconds : Int) : Told :=
  { told with shift := told.shift + seconds, last := seconds, count := none }

/-- Takes in one word of a moment, if it can be read. -/
def Told.add? (told : Told) (word : String) : Option Told :=
  let chars := word.toList
  let bare := if chars.getLast? = some 'z' then chars.dropLast else chars
  let signed : Option Int :=
    match chars with
    | '-' :: digits => (number? digits).map fun n => -(n : Int)
    | '+' :: digits => (number? digits).map fun n => (n : Int)
    | digits => if digits.length = 8 then none else (number? digits).map fun n => (n : Int)
  if ["now", "today", "utc", "z", "gmt", "+0000"].contains word then some told
  else
    match word, unit? word, signed with
    | "yesterday", _, _ => some (told.moved (-86400))
    | "tomorrow", _, _ => some (told.moved 86400)
    | "ago", _, _ => some (told.moved (-2 * told.last))
    | _, some size, _ => some (told.moved (told.count.getD 1 * size))
    | _, none, some n => some { told with count := some n }
    | _, none, none =>
      match date? bare, timeOfDay? bare, Text.cutAt 't' bare with
      | some days, _, _ => some { told with days := some days }
      | none, some ofDay, _ => some { told with ofDay := some ofDay }
      | none, none, some (date, time) => do
        let days ← date? date
        let ofDay ← timeOfDay? time
        some { told with days := some days, ofDay := some ofDay }
      | none, none, none => none

/-- The moment that a text tells, which may depend on the present one. -/
def read (now : Int) (text : String) : Option Int :=
  match text.toList with
  | '@' :: '-' :: digits => (number? digits).map fun n => -(n : Int)
  | '@' :: digits =>
    (number? ((Text.pieces ['.'] digits).headD [])).map fun n => (n : Int)
  | chars => do
    let words := ((Text.pieces [' '] chars).filter (!·.isEmpty)).map fun word =>
      (String.ofList word).toLower
    let told ← words.foldlM Told.add? {}
    if told.count.isSome then none
    else
      let base := match told.days, told.ofDay with
        | some days, ofDay => days * 86400 + ofDay.getD 0
        | none, some ofDay => Int.fdiv now 86400 * 86400 + ofDay
        | none, none => if words.isEmpty then Int.fdiv now 86400 * 86400 else now
      some (base + told.shift)

end RemoteAttach.Calendar
