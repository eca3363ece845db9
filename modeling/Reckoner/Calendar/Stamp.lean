import Reckoner.Calendar.Moment
import Reckoner.Text.Letter

/-!
Time stamps: the text of a moment in files, such as `2024-03-20T12:00:00.5Z`. A stamp is written in
universal time with as few groups of three decimals as hold the fraction. It is read with blanks
allowed before numbers and signs, with any offset from universal time, and with a letter or a blank
between date and time. A reader takes what it needs from the front of a text and returns the rest.
-/

namespace Reckoner.Stamp

/-- The decimals of a second, without trailing groups of zeros. -/
def fractionText (nanos : Nat) : Text :=
  if nanos = 0 then []
  else if nanos % 1000000 = 0 then '.' :: Text.padded 3 (nanos / 1000000)
  else if nanos % 1000 = 0 then '.' :: Text.padded 6 (nanos / 1000)
  else '.' :: Text.padded 9 nanos

/-- The stamp of a moment. -/
def text (moment : Moment) : Text :=
  moment.date.text ++ ['T'] ++ moment.clockText
    ++ fractionText (moment.nanos % Moment.secondNanos) ++ ['Z']

/-- Digits at the front of a text, at least one and at most `most`, and the rest. -/
def digits? (most : Nat) (text : Text) : Option (Text × Text) :=
  let run := (text.take most).takeWhile Text.isDigit
  if run = [] then none else some (run, text.drop run.length)

/-- A number of at most `most` digits, after any white space. -/
def number? (most : Nat) (text : Text) : Option (Nat × Text) := do
  let (run, rest) ← digits? most (Text.trimStart text)
  return (Nat.ofDigitChars 10 run 0, rest)

/-- A sign that has to come next, after any white space. -/
def mark? (c : Char) (text : Text) : Option Text :=
  match Text.trimStart text with
  | [] => none
  | first :: rest => if first = c then some rest else none

/-- A year: four digits at most, or any count of them after a sign. -/
def year? (text : Text) : Option (Int × Text) :=
  match Text.trimStart text with
  | '-' :: rest => do
    let (run, rest) ← digits? rest.length rest
    return (-(Nat.ofDigitChars 10 run 0 : Int), rest)
  | '+' :: rest => do
    let (run, rest) ← digits? rest.length rest
    return ((Nat.ofDigitChars 10 run 0 : Int), rest)
  | other => do
    let (year, rest) ← number? 4 other
    return ((year : Int), rest)

/-- A date. -/
def date? (text : Text) : Option (Date × Text) := do
  let (year, rest) ← year? text
  let (month, rest) ← number? 2 (← mark? '-' rest)
  let (day, rest) ← number? 2 (← mark? '-' rest)
  let date : Date := ⟨year, month, day⟩
  if date.isValid then some (date, rest) else none

/-- Nanoseconds from decimals; those beyond the ninth are ignored. -/
def fraction? (text : Text) : Option (Nat × Text) :=
  match text with
  | '.' :: rest => do
    let (run, rest) ← digits? 9 rest
    return (Nat.ofDigitChars 10 run 0 * Nat.pow 10 (9 - run.length), rest.dropWhile Text.isDigit)
  | _ => some (0, text)

/-- The second of a day, and nanoseconds after it. A sixtieth second is the leap second. -/
def clock? (text : Text) : Option ((Nat × Nat) × Text) := do
  let (hour, rest) ← number? 2 text
  let (minute, rest) ← number? 2 (← mark? ':' rest)
  let (second, rest) ← number? 2 (← mark? ':' rest)
  let (nanos, rest) ← fraction? rest
  if hour < 24 && minute < 60 && second ≤ 60 then
    let whole := hour * 3600 + minute * 60
    some (if second = 60 then (whole + 59, nanos + Moment.secondNanos) else (whole + second, nanos),
      rest)
  else none

/-- Two digits. -/
def pair? (text : Text) : Option (Nat × Text) :=
  match text with
  | a :: b :: rest =>
    if Text.isDigit a && Text.isDigit b then some (Nat.ofDigitChars 10 [a, b] 0, rest) else none
  | _ => none

/-- Hours and minutes of an offset in seconds, colons and white space between them. -/
def span? (text : Text) : Option (Nat × Text) := do
  let (hours, rest) ← pair? text
  let (minutes, rest) ← pair? (rest.dropWhile (fun c => c = ':' || Text.isBlank c))
  let seconds := hours * 3600 + minutes * 60
  if minutes < 60 && seconds < 86400 then some (seconds, rest) else none

/-- How many seconds local time is ahead of universal time. -/
def offset? (text : Text) : Option (Int × Text) :=
  match text with
  | 'Z' :: rest | 'z' :: rest => some (0, rest)
  | '+' :: rest => (span? rest).map (fun (seconds, rest) => ((seconds : Int), rest))
  | '-' :: rest | '−' :: rest => (span? rest).map (fun (seconds, rest) => (-(seconds : Int), rest))
  | a :: b :: c :: rest =>
    if [a.toUpper, b.toUpper, c.toUpper] = ['U', 'T', 'C'] then some (0, rest) else none
  | _ => none

/-- What may stand between the date and the time of day. -/
def isDivider (c : Char) : Bool := c = 'T' || c = 't' || c = ' '

/-- The moment of a stamp. -/
def read? (text : Text) : Option Moment := do
  let (date, rest) ← date? text
  let divider :: rest := rest | none
  if !isDivider divider then none
  let ((second, nanos), rest) ← clock? rest
  let (offset, rest) ← offset? (Text.trimStart rest)
  let moment : Moment := ⟨date.toDays * Moment.daySeconds + second - offset, nanos⟩
  if Text.isAllBlank rest && Date.isYear moment.date.year then some moment else none

example : (read? "2024-03-20T12:00:00.5+01:00".toList).map text
    = some "2024-03-20T11:00:00.500Z".toList := by decide +kernel

end Reckoner.Stamp
