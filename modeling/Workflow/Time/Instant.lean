/-!
Instants with nanoseconds, from the year -262143 to the year 262142. A leap second is kept as the
second before it with a billion or more nanoseconds, so instants are ordered by second and then by
nanosecond.
-/

set_option autoImplicit false

namespace Workflow.Calendar

structure Date where
  year : Int
  month : Nat
  day : Nat
deriving DecidableEq, Repr

def leap (year : Int) : Bool := year % 4 = 0 && (year % 100 ≠ 0 || year % 400 = 0)

def daysBeforeYear (year : Int) : Int :=
  365 * year + (year + 3) / 4 - (year + 99) / 100 + (year + 399) / 400

def epoch : Int := daysBeforeYear 1970

def monthLengths (year : Int) : List Nat :=
  [31, if leap year then 29 else 28, 31, 30, 31, 30, 31, 31, 30, 31, 30, 31]

def valid (date : Date) : Bool :=
  1 ≤ date.month && 1 ≤ date.day &&
    match (monthLengths date.year)[date.month - 1]? with
    | some length => date.day ≤ length
    | none => false

def daysBeforeMonth (date : Date) : Nat :=
  ((monthLengths date.year).take (date.month - 1)).foldl (fun (sum days : Nat) => sum + days) 0

def toDays (date : Date) : Int :=
  daysBeforeYear date.year + daysBeforeMonth date + (date.day - 1) - epoch

def yearOf (day : Int) : Int :=
  let near := day * 400 / 146097
  if day < daysBeforeYear near then near - 1
  else if daysBeforeYear (near + 1) ≤ day then near + 1
  else near

def monthOf (day month : Nat) : List Nat → Nat × Nat
  | [] => (month, day + 1)
  | length :: rest => if day < length then (month, day + 1) else monthOf (day - length) (month + 1) rest

def ofDays (days : Int) : Date :=
  let day := days + epoch
  let year := yearOf day
  let (month, rest) := monthOf (day - daysBeforeYear year).toNat 1 (monthLengths year)
  ⟨year, month, rest⟩

end Workflow.Calendar

namespace Workflow

namespace Instant

def billion : Nat := 1000000000

def firstSecond : Int := -8334601228800

def lastSecond : Int := 8210266876799

-- In range, with a leap second only at the end of a minute.
def Proper (second : Int) (nano : Nat) : Prop :=
  firstSecond ≤ second ∧ second ≤ lastSecond ∧
    (nano < billion ∨ nano < 2 * billion ∧ second % 60 = 59)

instance (second : Int) (nano : Nat) : Decidable (Proper second nano) := by
  unfold Proper
  infer_instance

end Instant

structure Instant where
  second : Int
  nano : Nat
  proper : Instant.Proper second nano
deriving DecidableEq

namespace Instant

def make? (second : Int) (nano : Nat) : Option Instant :=
  if proper : Proper second nano then some ⟨second, nano, proper⟩ else none

def epoch : Instant := ⟨0, 0, by decide⟩

instance : Inhabited Instant := ⟨epoch⟩

def Before (a b : Instant) : Prop := a.second < b.second ∨ a.second = b.second ∧ a.nano < b.nano

instance : LT Instant := ⟨Before⟩
instance (a b : Instant) : Decidable (a < b) :=
  inferInstanceAs (Decidable (a.second < b.second ∨ a.second = b.second ∧ a.nano < b.nano))

def AtMost (a b : Instant) : Prop := ¬b < a

instance : LE Instant := ⟨AtMost⟩
instance (a b : Instant) : Decidable (a ≤ b) := inferInstanceAs (Decidable (¬b < a))

-- Whole seconds later, or earlier for a negative number. A move out of a leap second passes it
-- whole when it goes back and not at all when it goes forward.
def shift? (t : Instant) (seconds : Int) : Option Instant :=
  if seconds = 0 then some t
  else if t.nano < billion then make? (t.second + seconds) t.nano
  else make? (t.second + seconds + if seconds < 0 then 1 else 0) (t.nano - billion)

def secondsPerDay : Int := 86400

def addDays? (t : Instant) (days : Nat) : Option Instant := t.shift? (days * secondsPerDay)

def millennium : Int := 946684800

def wholeMicroseconds (t : Instant) : Instant :=
  let micros := Int.tdiv ((t.second - millennium) * billion + t.nano) 1000
  (make? (millennium + micros / 1000000) ((micros % 1000000).toNat * 1000)).getD t

end Instant

end Workflow
