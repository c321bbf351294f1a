import AslBuild.Text.Decimal
set_option autoImplicit false

/-!
# Dates

A time is a number of thousandths of a second since the start of 1970. The calendar is the Gregorian
one, also for days before it was introduced, and there is one time zone.

## Main definitions

* `AslBuild.Text.Date` — a day of the calendar.
* `AslBuild.Text.Date.number`, `AslBuild.Text.Date.ofNumber` — the days, numbered.
* `AslBuild.Text.Moment` — a day and a time of the day.
* `AslBuild.Text.Moment.read?` — the time that a text names.
* `AslBuild.Text.Moment.format` — a time in a form that a template describes.
-/

namespace AslBuild.Text

/-- A day of the calendar. -/
structure Date where
  /-- The year. -/
  year : Int
  /-- The month, from 1 on. -/
  month : Nat
  /-- The day of the month, from 1 on. -/
  day : Nat
deriving DecidableEq

namespace Date

/-- The number of a day; that of the first day of 1970 is zero. A year is taken to start in March, so
that the day that is missing from some years comes last in it. -/
def number (d : Date) : Int :=
  let year := if d.month ≤ 2 then d.year - 1 else d.year
  let era := year.fdiv 400
  let yearOfEra := year - era * 400
  let month : Int := (d.month + 9) % 12
  let dayOfYear := (153 * month + 2) / 5 + d.day - 1
  era * 146097 + yearOfEra * 365 + yearOfEra / 4 - yearOfEra / 100 + dayOfYear - 719468

/-- The day of a number. -/
def ofNumber (n : Int) : Date :=
  let n := n + 719468
  let era := n.fdiv 146097
  let dayOfEra := n - era * 146097
  let yearOfEra := (dayOfEra - dayOfEra / 1460 + dayOfEra / 36524 - dayOfEra / 146096) / 365
  let dayOfYear := dayOfEra - (365 * yearOfEra + yearOfEra / 4 - yearOfEra / 100)
  let month := (5 * dayOfYear + 2) / 153
  let day := dayOfYear - (153 * month + 2) / 5 + 1
  let shifted := if month < 10 then month + 3 else month - 9
  { year := yearOfEra + era * 400 + if shifted ≤ 2 then 1 else 0
    month := shifted.toNat
    day := day.toNat }

/-- The day of the week; Sunday is zero. -/
def weekday (d : Date) : Nat := ((d.number + 4).emod 7).toNat

/-- Whether a year has one day more than others. -/
def isLeap (year : Int) : Bool := year % 4 == 0 && (year % 100 != 0 || year % 400 == 0)

/-- The number of days in a month. -/
def monthLength (year : Int) (month : Nat) : Nat :=
  if month = 2 then (if isLeap year then 29 else 28)
  else if [4, 6, 9, 11].contains month then 30 else 31

/-- Whether there is such a day. -/
def isValid (d : Date) : Bool :=
  1 ≤ d.month && d.month ≤ 12 && 1 ≤ d.day && d.day ≤ monthLength d.year d.month

/-- The names of the months. -/
def monthNames : List String :=
  ["January", "February", "March", "April", "May", "June", "July", "August", "September",
    "October", "November", "December"]

/-- The names of the days of the week. -/
def dayNames : List String :=
  ["Sunday", "Monday", "Tuesday", "Wednesday", "Thursday", "Friday", "Saturday"]

end Date

/-- A day and a time of the day. -/
structure Moment where
  /-- The day. -/
  date : Date
  /-- The thousandths of a second since midnight. -/
  rest : Nat
deriving DecidableEq

namespace Moment

/-- The thousandths of a second in a day. -/
def dayLength : Nat := 86400000

/-- The moment of a time. -/
def ofTime (t : Int) : Moment :=
  { date := Date.ofNumber (t.fdiv dayLength), rest := (t.emod dayLength).toNat }

/-- The time of a moment. -/
def time (m : Moment) : Int := m.date.number * dayLength + m.rest

/-! ## Reading -/

/-- What was read of a time: the day, the time of the day, and what is added to it. -/
structure Reading where
  /-- The day. -/
  date : Option Date := none
  /-- The thousandths of a second since midnight. -/
  rest : Option Nat := none
  /-- The months that are added. -/
  months : Int := 0
  /-- The thousandths of a second that are added. -/
  shift : Int := 0

/-- The number that a text spells in so many digits at most. -/
def number? (text : String) (digits : Nat) : Option Nat :=
  if text.isEmpty || digits < text.length || !text.toList.all Char.isDigit then none
  else text.toNat?

/-- The number of the month of a name, or of the first letters of one. -/
def month? (text : String) : Option Nat :=
  let low := text.toLower
  if low.length < 3 then none
  else (Date.monthNames.findIdx? fun n => n.toLower == low || (n.toLower.take 3).toString == low).map
    (· + 1)

/-- The day that a text with signs between its numbers names. -/
def date? (text : String) : Option Date := do
  let d ← match text.splitOn "-", text.splitOn "/" with
    | [y, m, d], _ => do
      pure (Date.mk (← number? y 4) (← number? m 2) (← number? d 2))
    | _, [y, m, d] =>
      if y.length = 4 then do pure (Date.mk (← number? y 4) (← number? m 2) (← number? d 2))
      else do pure (Date.mk (← number? d 4) (← number? y 2) (← number? m 2))
    | _, _ =>
      if text.length = 8 then do
        pure (Date.mk (← number? (text.take 4).toString 4)
          (← number? ((text.drop 4).take 2).toString 2) (← number? (text.drop 6).toString 2))
      else none
  if d.isValid then some d else none

/-- The thousandths that a fraction of a second stands for. -/
def thousandths? (text : String) : Option Nat :=
  if text.toList.all Char.isDigit then ((text ++ "000").take 3).toString.toNat? else none

/-- The time of the day that a text names. -/
def clock? (text : String) : Option Nat := do
  let of (h m s f : Nat) : Option Nat :=
    if h < 24 && m < 60 && s < 61 then some (((h * 60 + m) * 60 + s) * 1000 + f) else none
  match text.splitOn ":" with
  | [h, m] => of (← number? h 2) (← number? m 2) 0 0
  | [h, m, s] =>
    match s.splitOn "." with
    | [s] => of (← number? h 2) (← number? m 2) (← number? s 2) 0
    | [s, f] => of (← number? h 2) (← number? m 2) (← number? s 2) (← thousandths? f)
    | _ => none
  | _ => none

/-- The offset from the one time zone that a text names, in thousandths of a second. -/
def zone? (text : String) : Option Int :=
  if ["Z", "UTC", "GMT", "UT"].contains text.toUpper then some 0
  else
    let digits := ((text.drop 1).toString.replace ":" "")
    let sign : Option Int := if text.startsWith "+" then some 1
      else if text.startsWith "-" then some (-1) else none
    match sign, number? digits 4 with
    | some sign, some n =>
      if digits.length = 2 then some (sign * n * 3600000)
      else if digits.length = 4 then some (sign * ((n / 100) * 60 + n % 100) * 60000)
      else none
    | _, _ => none

/-- The months and the thousandths of a second that a word for a span of time stands for. -/
def unit? (word : String) : Option (Int × Int) :=
  let low := word.toLower
  let one := if low.endsWith "s" && low ≠ "s" then (low.dropEnd 1).toString else low
  match one with
  | "sec" | "second" => some (0, 1000)
  | "min" | "minute" => some (0, 60000)
  | "hour" => some (0, 3600000)
  | "day" => some (0, dayLength)
  | "week" => some (0, 7 * dayLength)
  | "fortnight" => some (0, 14 * dayLength)
  | "month" => some (1, 0)
  | "year" => some (12, 0)
  | _ => none

/-- The whole number with a sign that a text spells. -/
def signed? (text : String) : Option Int :=
  let digits := if text.startsWith "+" ∨ text.startsWith "-" then (text.drop 1).toString else text
  (number? digits 9).map fun n => if text.startsWith "-" then -(n : Int) else n

/-- Read the words for a time. At most so many are read. -/
def readWords : Nat → List String → Reading → Option Reading
  | 0, _, _ => none
  | _, [], r => some r
  | n + 1, w :: ws, r =>
    let low := w.toLower
    let move (count : Int) (unit : Int × Int) (rest : List String) : Option Reading :=
      let (sign, rest) : Int × List String := match rest with
        | "ago" :: rest => (-1, rest)
        | rest => (1, rest)
      readWords n rest { r with
        months := r.months + sign * count * unit.1
        shift := r.shift + sign * count * unit.2 }
    if low = "now" ∨ low = "today" then readWords n ws r
    else if low = "yesterday" then readWords n ws { r with shift := r.shift - dayLength }
    else if low = "tomorrow" then readWords n ws { r with shift := r.shift + dayLength }
    else if low = "midnight" then readWords n ws { r with rest := some 0 }
    else match date? w, clock? w, zone? w, month? w, signed? w, unit? w with
      | some d, _, _, _, _, _ => readWords n ws { r with date := some d, rest := r.rest.or (some 0) }
      | none, some c, _, _, _, _ =>
        match ws.head?.map String.toLower with
        | some "am" => readWords n ws.tail { r with rest := some (c % (dayLength / 2)) }
        | some "pm" =>
          readWords n ws.tail { r with rest := some (c % (dayLength / 2) + dayLength / 2) }
        | _ => readWords n ws { r with rest := some c }
      | none, none, zone, month, count, unit =>
        match month, count, unit with
        | some m, _, _ =>
          match ws with
          | d :: y :: ws =>
            match number? d 2, number? y 4 with
            | some d, some y =>
              readWords n ws { r with date := some ⟨y, m, d⟩, rest := r.rest.or (some 0) }
            | _, _ => none
          | _ => none
        | none, some k, _ =>
          match ws with
          | u :: ws =>
            match unit? u, month? u, ws with
            | some unit, _, ws => move k unit ws
            | none, some m, y :: ws =>
              match number? y 4 with
              | some y => readWords n ws
                { r with date := some ⟨y, m, k.toNat⟩, rest := r.rest.or (some 0) }
              | none => none
            | _, _, _ =>
              match zone with
              | some z => readWords n (u :: ws) { r with shift := r.shift - z }
              | none => none
          | [] =>
            match zone with
            | some z => readWords n [] { r with shift := r.shift - z }
            | none => none
        | none, none, some unit => move 1 unit ws
        | none, none, none =>
          match zone with
          | some z => readWords n ws { r with shift := r.shift - z }
          | none => if low = "next" then readWords n ("+1" :: ws) r
            else if low = "last" then readWords n ("-1" :: ws) r
            else none

/-- A day so many months later. -/
def laterBy (months : Int) (d : Date) : Date :=
  let all := d.year * 12 + (d.month - 1 : Int) + months
  { d with year := all.fdiv 12, month := (all.emod 12).toNat + 1 }

/-- Words, with signs that stand alone put in front of the next ones. -/
def joinSigns : List String → List String
  | "+" :: w :: ws => ("+" ++ w) :: joinSigns ws
  | "-" :: w :: ws => ("-" ++ w) :: joinSigns ws
  | w :: ws => w :: joinSigns ws
  | [] => []

/-- The words of a text for a time. -/
def wordsOf (text : String) : List String :=
  let spaced (c d : Char) : Bool := c.isDigit && (d == 'T' || d == 't')
  let cs := text.toList
  let cs := (List.range cs.length).map fun i =>
    let c := cs[i]?.getD ' '
    if (c = ',' ∨ c = '\t') ∨ (0 < i ∧ spaced (cs[i - 1]?.getD ' ') c ∧
        (cs[i + 1]?.getD ' ').isDigit) then ' ' else c
  let text := String.ofList cs
  let text := if text.endsWith "Z" && (text.toList.any (· == ':')) then
    (text.dropEnd 1).toString ++ " Z" else text
  joinSigns ((text.splitOn " ").filter fun w => !w.isEmpty)

/-- The time that a text names, given the present one. -/
def read? (now : Int) (text : String) : Option Int :=
  match text.toList with
  | '@' :: cs =>
    match Decimal.read cs with
    | some (d, []) => some d.thousandths
    | _ => none
  | _ => do
    let ws := wordsOf text
    let r ← readWords (2 * ws.length + 2) ws {}
    let base := ofTime now
    let date := laterBy r.months (r.date.getD base.date)
    pure (Moment.time { date, rest := r.rest.getD (if ws.isEmpty then 0 else base.rest) } + r.shift)

/-! ## Writing -/

/-- A number in so many digits at least. -/
def padded (fill : Char) (width n : Nat) : String :=
  let ds := (toString n).toList
  String.ofList (List.replicate (width - ds.length) fill ++ ds)

/-- The first letters of a name. -/
def short (name : String) : String := (name.take 3).toString

/-- The number of the day in its year, from zero on. -/
def dayOfYear (d : Date) : Nat := (d.number - (Date.mk d.year 1 1).number).toNat

/-- The week of a day and the year that it is counted in: weeks start with Mondays, and the first one
of a year holds its fourth day. -/
def week (d : Date) : Int × Nat :=
  let thursday := Date.ofNumber (d.number - ((d.weekday + 6) % 7 : Nat) + 3)
  (thursday.year, dayOfYear thursday / 7 + 1)

/-- What a letter stands for in a template, if that is not put together from others. -/
def field (t : Int) : Char → Option String :=
  let m := ofTime t
  let seconds := m.rest / 1000
  let hour := seconds / 3600
  let minute := seconds / 60 % 60
  let half := if hour % 12 = 0 then 12 else hour % 12
  let weekday := m.date.weekday
  let year := m.date.year.toNat
  fun c => match c with
    | 'Y' => some (toString m.date.year)
    | 'C' => some (padded '0' 2 (year / 100))
    | 'y' => some (padded '0' 2 (year % 100))
    | 'm' => some (padded '0' 2 m.date.month)
    | 'd' => some (padded '0' 2 m.date.day)
    | 'e' => some (padded ' ' 2 m.date.day)
    | 'H' => some (padded '0' 2 hour)
    | 'I' => some (padded '0' 2 half)
    | 'k' => some (padded ' ' 2 hour)
    | 'l' => some (padded ' ' 2 half)
    | 'M' => some (padded '0' 2 minute)
    | 'S' => some (padded '0' 2 (seconds % 60))
    | 'N' => some (padded '0' 3 (m.rest % 1000) ++ "000000")
    | 's' => some (toString (t.fdiv 1000))
    | 'j' => some (padded '0' 3 (dayOfYear m.date + 1))
    | 'a' => some (short (Date.dayNames[weekday]?.getD ""))
    | 'A' => some (Date.dayNames[weekday]?.getD "")
    | 'b' | 'h' => some (short (Date.monthNames[m.date.month - 1]?.getD ""))
    | 'B' => some (Date.monthNames[m.date.month - 1]?.getD "")
    | 'u' => some (toString (if weekday = 0 then 7 else weekday))
    | 'w' => some (toString weekday)
    | 'q' => some (toString ((m.date.month + 2) / 3))
    | 'U' => some (padded '0' 2 ((dayOfYear m.date + 7 - weekday) / 7))
    | 'W' => some (padded '0' 2 ((dayOfYear m.date + 7 - (weekday + 6) % 7) / 7))
    | 'V' => some (padded '0' 2 (week m.date).2)
    | 'G' => some (toString (week m.date).1)
    | 'g' => some (padded '0' 2 ((week m.date).1 % 100).toNat)
    | 'p' => some (if hour < 12 then "AM" else "PM")
    | 'P' => some (if hour < 12 then "am" else "pm")
    | 'Z' => some "UTC"
    | 'z' => some "+0000"
    | 'n' => some "\n"
    | 't' => some "\t"
    | '%' => some "%"
    | _ => none

/-- The templates that letters stand for. -/
def composed : List (Char × String) :=
  [('F', "%Y-%m-%d"), ('T', "%H:%M:%S"), ('X', "%H:%M:%S"), ('R', "%H:%M"), ('D', "%m/%d/%y"),
    ('x', "%m/%d/%y"), ('c', "%a %b %e %H:%M:%S %Y"), ('r', "%I:%M:%S %p")]

/-- A time in the form that a template describes, letters being put together so many levels deep. -/
def formatUpTo (t : Int) : Nat → List Char → String
  | 0, _ => ""
  | _, [] => ""
  | n + 1, '%' :: c :: cs =>
    match field t c, composed.lookup c, c, cs with
    | some text, _, _, cs => text ++ formatUpTo t n cs
    | none, some inner, _, cs => formatUpTo t n (inner.toList ++ cs)
    | none, none, '-', d :: cs =>
      let text := (field t d).getD ""
      let bare := String.ofList (text.toList.dropWhile fun c => c == '0' || c == ' ')
      (if bare.isEmpty then "0" else bare) ++ formatUpTo t n cs
    | none, none, ':', 'z' :: cs => "+00:00" ++ formatUpTo t n cs
    | none, none, '3', 'N' :: cs => padded '0' 3 ((ofTime t).rest % 1000) ++ formatUpTo t n cs
    | none, none, c, cs => "%" ++ c.toString ++ formatUpTo t n cs
  | n + 1, c :: cs => c.toString ++ formatUpTo t n cs

/-- A time in the form that a template describes. -/
def format (t : Int) (template : String) : String :=
  formatUpTo t (20 * template.length + 20) template.toList

end Moment

end AslBuild.Text
