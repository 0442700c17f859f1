import VoxelCache.Toml.Text

/-!
# Numbers, dates and times in a TOML document

Digits may be separated by single underscores.  A decimal number has no leading
zeros; with a fraction or an exponent it is floating-point, rounded to nearest.
Integers have 64 bits.  Of dates and times it is only checked that they exist.
-/

namespace VoxelCache

section Number

namespace Toml

section Digits

def isDecimal (c : Char) : Bool :=
  '0' ≤ c && c ≤ '9'

/-- The value of a digit below a base, if it is one. -/
def digit? (base : Nat) (c : Char) : Option Nat :=
  (hexValue? c).filter (· < base)

def isDigitOf (base : Nat) (c : Char) : Bool :=
  (digit? base c).isSome

/-- The digits behind a first digit; an underscore must stand between digits. -/
def moreDigits (base : Nat) : Reader (List Char)
  | '_' :: c :: rest =>
      if isDigitOf base c then
        (moreDigits base rest).map fun (more, rest) => (c :: more, rest)
      else
        none
  | c :: rest =>
      if c == '_' then none
      else if isDigitOf base c then
        (moreDigits base rest).map fun (more, rest) => (c :: more, rest)
      else
        some ([], c :: rest)
  | [] => some ([], [])

/-- At least one digit. -/
def digits (base : Nat) : Reader (List Char)
  | c :: rest =>
      if isDigitOf base c then
        (moreDigits base rest).map fun (more, rest) => (c :: more, rest)
      else
        none
  | [] => none

/-- The number that digits write. -/
def numberOf (base : Nat) (digits : List Char) : Nat :=
  digits.foldl (fun n c => base * n + (digit? base c).getD 0) 0

/-- A sign, if there is one; the answer says whether it is a minus. -/
def sign : List Char → Bool × List Char
  | '-' :: rest => (true, rest)
  | '+' :: rest => (false, rest)
  | s => (false, s)

end Digits

section Numbers

/-- A number of a document. -/
inductive Number where
  | integer (value : Int)
  | float (value : Float)

/-- Whether an integer has 64 bits. -/
def fitsWord (n : Int) : Bool :=
  -9223372036854775808 ≤ n && n ≤ 9223372036854775807

/-- Whole digits of a decimal number: a single zero, or no leading zero. -/
def wholeDigits : Reader (List Char)
  | '0' :: rest => some (['0'], rest)
  | s => digits 10 s

/-- The digits behind a point, if there is one. -/
def fractionDigits : Reader (List Char)
  | '.' :: rest => digits 10 rest
  | s => some ([], s)

/-- The exponent, if there is one. -/
def exponent : Reader (Option Int)
  | c :: rest =>
      if c == 'e' || c == 'E' then
        let (isNegative, rest) := sign rest
        (digits 10 rest).map fun (digits, rest) =>
          let n : Int := numberOf 10 digits
          (some (if isNegative then -n else n), rest)
      else
        some (none, c :: rest)
  | [] => some (none, [])

/-- Decimal orders of magnitude beyond which all numbers are zero or infinite. -/
def magnitudeLimit : Int := 400

/-- The floating-point number nearest to a decimal number. -/
def nearestFloat (digits : List Char) (exponent : Int) : Float :=
  let n := numberOf 10 digits
  let magnitude := (toString n).length + exponent
  if n = 0 ∨ magnitude < -magnitudeLimit then
    0
  else if magnitudeLimit < magnitude then
    1 / 0
  else if exponent < 0 then
    Float.ofScientific n true exponent.natAbs
  else
    Float.ofScientific n false exponent.natAbs

/-- A decimal number; one that is too large for floating point is refused. -/
def decimal : Reader Number := fun s =>
  let (isNegative, s) := sign s
  (wholeDigits s).bind fun (whole, rest) =>
    (fractionDigits rest).bind fun (fraction, rest) =>
      (exponent rest).bind fun (power, rest) =>
        if fraction.isEmpty && power.isNone then
          let n : Int := numberOf 10 whole
          let n := if isNegative then -n else n
          if fitsWord n then some (.integer n, rest) else none
        else
          let x := nearestFloat (whole ++ fraction) (power.getD 0 - fraction.length)
          let x := if isNegative then -x else x
          if x == 1 / 0 then none else some (.float x, rest)

/-- An integer in another base, behind its mark. -/
def based (base : Nat) : Reader Number := fun s =>
  (digits base s).bind fun (digits, rest) =>
    let n : Int := numberOf base digits
    if fitsWord n then some (.integer n, rest) else none

/-- Infinity and the value that is no number. -/
def special : Reader Number := fun s =>
  let (isNegative, s) := sign s
  match s with
  | 'i' :: 'n' :: 'f' :: rest => some (.float (if isNegative then -(1 / 0) else 1 / 0), rest)
  | 'n' :: 'a' :: 'n' :: rest => some (.float (0 / 0), rest)
  | _ => none

/-- A number of any form. -/
def number : Reader Number
  | '0' :: 'x' :: rest => based 16 rest
  | '0' :: 'o' :: rest => based 8 rest
  | '0' :: 'b' :: rest => based 2 rest
  | s => special s <|> decimal s

end Numbers

section Dates

/-- A fixed number of decimal digits. -/
def fixedDigits (length : Nat) : Reader Nat := fun s =>
  let digits := s.take length
  if digits.length = length ∧ digits.all isDecimal then
    some (numberOf 10 digits, s.drop length)
  else
    none

/-- A number of two digits in a range. -/
def twoDigits (low high : Nat) : Reader Nat := fun s =>
  (fixedDigits 2 s).filter fun (n, _) => low ≤ n && n ≤ high

/-- The text behind a character that must come next. -/
def expect (c : Char) : List Char → Option (List Char)
  | d :: rest => if c == d then some rest else none
  | [] => none

def isLeapYear (year : Nat) : Bool :=
  year % 4 == 0 && (year % 100 != 0 || year % 400 == 0)

def daysIn (year month : Nat) : Nat :=
  if month = 2 then
    if isLeapYear year then 29 else 28
  else if month = 4 ∨ month = 6 ∨ month = 9 ∨ month = 11 then
    30
  else
    31

/-- The text behind a day of the calendar. -/
def date? (s : List Char) : Option (List Char) :=
  (fixedDigits 4 s).bind fun (year, rest) =>
    (expect '-' rest).bind fun rest =>
      (twoDigits 1 12 rest).bind fun (month, rest) =>
        (expect '-' rest).bind fun rest =>
          (twoDigits 1 (daysIn year month) rest).map (·.2)

/-- The text behind the parts of a second, if they are given. -/
def secondParts : List Char → List Char
  | '.' :: c :: rest => if isDecimal c then rest.dropWhile isDecimal else '.' :: c :: rest
  | s => s

/-- The text behind a time of day; a minute may have a leap second. -/
def time? (s : List Char) : Option (List Char) :=
  (twoDigits 0 23 s).bind fun (_, rest) =>
    (expect ':' rest).bind fun rest =>
      (twoDigits 0 59 rest).bind fun (_, rest) =>
        (expect ':' rest).bind fun rest =>
          (twoDigits 0 60 rest).map fun (_, rest) => secondParts rest

/-- The text behind the offset of a time zone, if it is given. -/
def skipOffset (s : List Char) : List Char :=
  match s with
  | 'Z' :: rest => rest
  | 'z' :: rest => rest
  | c :: rest =>
      if c == '+' || c == '-' then
        let offset := (twoDigits 0 23 rest).bind fun (_, rest) =>
          (expect ':' rest).bind fun rest =>
            (twoDigits 0 59 rest).map (·.2)
        offset.getD s
      else
        s
  | [] => s

/-- The text behind a date, a time, or a date with a time. -/
def dateTime? (s : List Char) : Option (List Char) :=
  match date? s with
  | none => time? s
  | some rest =>
      match rest with
      | c :: later =>
          if c == 'T' || c == 't' || c == ' ' then
            some (((time? later).map skipOffset).getD rest)
          else
            some rest
      | [] => some rest

end Dates

end Toml

end Number

end VoxelCache
