import FeedHydration.Text.Blank
import FeedHydration.Text.Search

/-!
Instants of the Gregorian calendar in UTC, to the nanosecond. A leap second keeps its own number 60.
The reader takes RFC 3339 and a little more (blanks between the parts, any case of the letters, an
offset without a colon); the writer always ends in `Z` and writes the fewest of 0, 3, 6 or 9 digits
of the second's fraction that lose nothing.
-/

namespace FeedHydration

namespace Instant

def isLeapYear (year : Int) : Bool :=
  year % 4 == 0 && (year % 100 != 0 || year % 400 == 0)

def daysInMonth (year : Int) (month : Nat) : Nat :=
  match month with
  | 2 => if isLeapYear year then 29 else 28
  | 4 | 6 | 9 | 11 => 30
  | _ => 31

def minYear : Int := -262143

def maxYear : Int := 262142

def isDate (year : Int) (month day : Nat) : Bool :=
  minYear ≤ year && year ≤ maxYear && 1 ≤ month && month ≤ 12 && 1 ≤ day &&
    day ≤ daysInMonth year month

def isTime (hour minute second nanosecond : Nat) : Bool :=
  hour < 24 && minute < 60 && second ≤ 60 && nanosecond < Nat.pow 10 9

end Instant

structure Instant where
  year : Int
  month : Nat
  day : Nat
  hour : Nat
  minute : Nat
  second : Nat
  nanosecond : Nat
  date_valid : Instant.isDate year month day = true
  time_valid : Instant.isTime hour minute second nanosecond = true
deriving DecidableEq

namespace Instant

/-- A number that grows with time: the fields are its digits in a mixed base. -/
def rank (t : Instant) : Int :=
  (((((t.year * 13 + t.month) * 32 + t.day) * 24 + t.hour) * 60 + t.minute) * 61 + t.second) *
    Int.ofNat (Nat.pow 10 9) + t.nanosecond

/-- Not later than. -/
instance : LE Instant := ⟨fun a b => a.rank ≤ b.rank⟩

instance (a b : Instant) : Decidable (a ≤ b) :=
  inferInstanceAs (Decidable (a.rank ≤ b.rank))

/-- A calendar day, not yet checked. -/
structure Day where
  year : Int
  month : Nat
  day : Nat

def Day.next (d : Day) : Day :=
  if d.day < daysInMonth d.year d.month then { d with day := d.day + 1 }
  else if d.month < 12 then ⟨d.year, d.month + 1, 1⟩
  else ⟨d.year + 1, 1, 1⟩

def Day.previous (d : Day) : Day :=
  if 1 < d.day then { d with day := d.day - 1 }
  else if 1 < d.month then ⟨d.year, d.month - 1, daysInMonth d.year (d.month - 1)⟩
  else ⟨d.year - 1, 12, 31⟩

/-- What a text gives: local time and its offset from UTC in minutes. -/
structure Reading where
  date : Day
  hour : Nat
  minute : Nat
  second : Nat
  nanosecond : Nat
  offset : Int

/-- An offset is less than a day, so UTC is at most one day away. -/
def ofReading? (r : Reading) : Option Instant :=
  if isDate r.date.year r.date.month r.date.day && r.offset.natAbs < 24 * 60 then
    let minutes : Int := r.hour * 60 + r.minute - r.offset
    let date :=
      if minutes < 0 then r.date.previous
      else if 24 * 60 ≤ minutes then r.date.next
      else r.date
    let minutes := (minutes % (24 * 60)).toNat
    if hdate : isDate date.year date.month date.day = true then
      if htime : isTime (minutes / 60) (minutes % 60) r.second r.nanosecond = true then
        some ⟨date.year, date.month, date.day, minutes / 60, minutes % 60, r.second, r.nanosecond,
          hdate, htime⟩
      else none
    else none
  else none

def digitsValue (digits : List Char) : Nat :=
  digits.foldl (fun n c => n * 10 + (c.toNat - '0'.toNat)) 0

/-- One to `width` digits, blanks before them. -/
def number? (width : Nat) (text : List Char) : Option (Nat × List Char) :=
  let text := Text.trimStart text
  let digits := (text.take width).takeWhile Char.isDigit
  if digits.isEmpty then none else some (digitsValue digits, text.drop digits.length)

def literal? (c : Char) (text : List Char) : Option (List Char) :=
  match Text.trimStart text with
  | d :: rest => if d = c then some rest else none
  | [] => none

/-- A signed year may have any number of digits. -/
def year? (text : List Char) : Option (Int × List Char) :=
  let signed (rest : List Char) : Option (Nat × List Char) :=
    if rest.head?.any Char.isDigit then number? rest.length rest else none
  match Text.trimStart text with
  | '-' :: rest => (signed rest).map fun (n, rest) => (-n, rest)
  | '+' :: rest => (signed rest).map fun (n, rest) => (n, rest)
  | text => (number? 4 text).map fun (n, rest) => (n, rest)

/-- Digits of the fraction beyond the ninth are dropped. -/
def fraction? : List Char → Option (Nat × List Char)
  | '.' :: text =>
    let digits := text.takeWhile Char.isDigit
    if digits.isEmpty then none
    else
      let kept := digits.take 9
      some (digitsValue kept * Nat.pow 10 (9 - kept.length), text.drop digits.length)
  | text => some (0, text)

def twoDigits? : List Char → Option (Nat × List Char)
  | c :: d :: rest =>
    if c.isDigit && d.isDigit then some (digitsValue [c, d], rest) else none
  | _ => none

/-- Hours and minutes of an offset, with colons or blanks between them. -/
def offsetMinutes? (text : List Char) : Option (Nat × List Char) := do
  let (hours, text) ← twoDigits? text
  let (minutes, text) ← twoDigits? (text.dropWhile fun c => c == ':' || Text.isBlank c)
  if minutes < 60 then some (hours * 60 + minutes, text) else none

def offset? (text : List Char) : Option (Int × List Char) :=
  match Text.trimStart text with
  | c :: rest =>
    if c = 'Z' ∨ c = 'z' then some (0, rest)
    else if c = '+' then (offsetMinutes? rest).map fun (n, rest) => (n, rest)
    else if c = '-' ∨ c = '−' then (offsetMinutes? rest).map fun (n, rest) => (-n, rest)
    else if (c :: rest.take 2).map Char.toUpper = ['U', 'T', 'C'] then some (0, rest.drop 2)
    else none
  | [] => none

def separator? : List Char → Option (List Char)
  | c :: rest => if c = 'T' ∨ c = 't' ∨ c = ' ' then some rest else none
  | [] => none

def reading? (text : List Char) : Option Reading := do
  let (year, text) ← year? text
  let (month, text) ← number? 2 (← literal? '-' text)
  let (day, text) ← number? 2 (← literal? '-' text)
  let (hour, text) ← number? 2 (← separator? text)
  let (minute, text) ← number? 2 (← literal? ':' text)
  let (second, text) ← number? 2 (← literal? ':' text)
  let (nanosecond, text) ← fraction? text
  let (offset, text) ← offset? text
  if (Text.trimStart text).isEmpty then
    if hour < 24 ∧ minute < 60 then
      some ⟨⟨year, month, day⟩, hour, minute, second, nanosecond, offset⟩
    else none
  else none

def parse? (text : String) : Option Instant := do
  ofReading? (← reading? text.toList)

/-- Decimal digits, with zeros in front up to a width. -/
def padded (width n : Nat) : List Char :=
  let digits := Nat.toDigits 10 n
  List.replicate (width - digits.length) '0' ++ digits

/-- A year outside 0 to 9999 needs a sign. -/
def renderYear (year : Int) : List Char :=
  if 0 ≤ year ∧ year ≤ 9999 then padded 4 year.toNat
  else (if year < 0 then '-' else '+') :: padded 4 year.natAbs

def renderFraction (nanosecond : Nat) : List Char :=
  if nanosecond = 0 then []
  else if nanosecond % Nat.pow 10 6 = 0 then '.' :: padded 3 (nanosecond / Nat.pow 10 6)
  else if nanosecond % Nat.pow 10 3 = 0 then '.' :: padded 6 (nanosecond / Nat.pow 10 3)
  else '.' :: padded 9 nanosecond

def render (t : Instant) : List Char :=
  renderYear t.year ++ '-' :: (padded 2 t.month ++ '-' :: (padded 2 t.day ++ 'T' ::
    (padded 2 t.hour ++ ':' :: (padded 2 t.minute ++ ':' :: (padded 2 t.second ++
      (renderFraction t.nanosecond ++ ['Z']))))))

def text (t : Instant) : String :=
  String.ofList t.render

end Instant

end FeedHydration
