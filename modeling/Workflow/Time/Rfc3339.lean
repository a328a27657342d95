import Workflow.Text.Basic
import Workflow.Time.Instant

set_option autoImplicit false

namespace Workflow

namespace Instant

def padded (width n : Nat) : List Char :=
  (List.range width).reverse.map fun i => Nat.digitChar (n / Nat.pow 10 i % 10)

def yearText (year : Int) : List Char :=
  if 0 ≤ year ∧ year ≤ 9999 then padded 4 year.toNat
  else
    let digits := (toString year.natAbs).toList
    (if year < 0 then '-' else '+') :: (List.replicate (4 - digits.length) '0' ++ digits)

def fractionText (nano : Nat) : List Char :=
  if nano = 0 then []
  else if nano % 1000000 = 0 then '.' :: padded 3 (nano / 1000000)
  else if nano % 1000 = 0 then '.' :: padded 6 (nano / 1000)
  else '.' :: padded 9 nano

def dateTimeText (t : Instant) (separator : Char) : List Char :=
  let date := Calendar.ofDays (t.second / secondsPerDay)
  let time := (t.second % secondsPerDay).toNat
  let leap := t.nano / billion
  yearText date.year ++ '-' :: padded 2 date.month ++ '-' :: padded 2 date.day ++
    separator :: padded 2 (time / 3600) ++ ':' :: padded 2 (time / 60 % 60) ++
    ':' :: padded 2 (time % 60 + leap) ++ fractionText (t.nano % billion)

def render (t : Instant) : String := String.ofList (t.dateTimeText 'T' ++ ['Z'])

def display (t : Instant) : String := String.ofList (t.dateTimeText ' ' ++ " UTC".toList)

abbrev Scan (α : Type) := List Char → Option (α × List Char)

def digits (width : Nat) : Scan Nat := fun s =>
  let taken := (s.take width).takeWhile Char.isDigit
  if taken.isEmpty then none
  else some (taken.foldl (fun n c => n * 10 + (c.toNat - 48)) 0, s.drop taken.length)

def expect (c : Char) : Scan Unit
  | d :: rest => if c = d then some ((), rest) else none
  | [] => none

def part : Scan Nat := fun s => digits 2 (Text.dropBlanks s)

def partAfter (separator : Char) : Scan Nat := fun s => do
  let (_, s) ← expect separator (Text.dropBlanks s)
  part s

def year : Scan Int := fun s =>
  match Text.dropBlanks s with
  | '-' :: s => (digits s.length s).map fun (n, s) => (-(n : Int), s)
  | '+' :: s => (digits s.length s).map fun (n, s) => ((n : Int), s)
  | s => (digits 4 s).map fun (n, s) => ((n : Int), s)

def fraction : Scan Nat
  | '.' :: s => do
    let (n, rest) ← digits 9 s
    return (n * Nat.pow 10 (9 - (s.length - rest.length)), rest.dropWhile Char.isDigit)
  | s => some (0, s)

def twoDigits (limit : Nat) : Scan Nat
  | a :: b :: rest =>
    let n := (a.toNat - 48) * 10 + (b.toNat - 48)
    if a.isDigit && b.isDigit && n ≤ limit then some (n, rest) else none
  | _ => none

def offset : Scan Int := fun s =>
  match s with
  | 'Z' :: s => some (0, s)
  | 'z' :: s => some (0, s)
  | sign :: rest =>
    if (s.take 3).map Char.toUpper = ['U', 'T', 'C'] then some (0, s.drop 3)
    else if sign = '+' ∨ sign = '-' ∨ sign = '\u2212' then do
      let (hours, rest) ← twoDigits 99 rest
      let (minutes, rest) ← twoDigits 59 (rest.dropWhile fun c => c = ':' || Text.isBlank c)
      let seconds : Int := (hours * 3600 + minutes * 60 : Nat)
      return (if sign = '+' then seconds else -seconds, rest)
    else none
  | [] => none

def compose? (date : Calendar.Date) (hour minute second nano : Nat) (east : Int) :
    Option Instant :=
  let leap := second / 60
  let start := Calendar.toDays date * secondsPerDay
  let here := start + (hour * 3600 + minute * 60 + (second - leap) : Nat)
  if Calendar.valid date && hour < 24 && minute < 60 && second ≤ 60 &&
      -secondsPerDay < east && east < secondsPerDay && firstSecond ≤ here && here ≤ lastSecond then
    make? (here - east) (nano + leap * billion)
  else none

def readChars (s : List Char) : Option Instant := do
  let (year, s) ← year s
  let (month, s) ← partAfter '-' s
  let (day, s) ← partAfter '-' s
  let s ← match s with
    | c :: rest => if c = 'T' ∨ c = 't' ∨ c = ' ' then some rest else none
    | [] => none
  let (hour, s) ← part s
  let (minute, s) ← partAfter ':' s
  let (second, s) ← partAfter ':' s
  let (nano, s) ← fraction s
  let (east, s) ← offset (Text.dropBlanks s)
  if (Text.dropBlanks s).isEmpty then compose? ⟨year, month, day⟩ hour minute second nano east
  else none

def parse? (s : String) : Option Instant := readChars s.toList

end Instant

end Workflow
