import Mathlib.Algebra.Ring.Nat
import Mathlib.Tactic.Common

/-!
Dates of the Gregorian calendar. A date is counted by its ordinal, the number of days from the
first day of the year one.
-/

namespace Calendar

def isLeap (year : Nat) : Bool := year % 4 = 0 && (year % 100 ≠ 0 || year % 400 = 0)

def daysInMonth (year : Nat) : Nat → Nat
  | 2 => if isLeap year then 29 else 28
  | 4 | 6 | 9 | 11 => 30
  | _ => 31

/-- A year, a month and a day that name a date. -/
structure IsDate (year month day : Nat) : Prop where
  inCalendar : 1 ≤ year ∧ year ≤ 9999
  inYear : 1 ≤ month ∧ month ≤ 12
  inMonth : 1 ≤ day ∧ day ≤ daysInMonth year month

instance (year month day : Nat) : Decidable (IsDate year month day) :=
  decidable_of_iff ((1 ≤ year ∧ year ≤ 9999) ∧ (1 ≤ month ∧ month ≤ 12) ∧
      1 ≤ day ∧ day ≤ daysInMonth year month)
    ⟨fun ⟨year, month, day⟩ => ⟨year, month, day⟩,
      fun is => ⟨is.inCalendar, is.inYear, is.inMonth⟩⟩

structure Date where
  year : Nat
  month : Nat
  day : Nat
  isDate : IsDate year month day
  deriving DecidableEq, Repr

namespace Date

def ofParts (year month day : Nat) : Option Date :=
  if isDate : IsDate year month day then some ⟨year, month, day, isDate⟩ else none

def daysBeforeYear (year : Nat) : Nat :=
  (year - 1) * 365 + (year - 1) / 4 - (year - 1) / 100 + (year - 1) / 400

def daysBeforeMonth (year month : Nat) : Nat :=
  ((List.range (month - 1)).map fun earlier => daysInMonth year (earlier + 1)).sum

/-- The first day of the year one is the first day. -/
def ordinal (date : Date) : Nat :=
  daysBeforeYear date.year + daysBeforeMonth date.year date.month + date.day

theorem ordinal_pos (date : Date) : 1 ≤ date.ordinal :=
  Nat.le_trans date.isDate.inMonth.1 (Nat.le_add_left _ _)

end Date

end Calendar
