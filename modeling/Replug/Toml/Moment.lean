import Replug.Toml.Number

/-!
# Dates and times

A document may hold a date, a time of day, or both, with or without an offset.  No setting is a
date, so a date that is well formed is all that a reader has to know: `moment` gives nothing but
the characters after it.
-/

set_option autoImplicit false

namespace Replug.Toml

def fixedDigits : Nat → Reader Nat
  | 0, cs => some (0, cs)
  | n + 1, cs =>
    match cs with
    | [] => none
    | c :: rest =>
      if isDigit c then
        (fixedDigits n rest).map fun (tail, rest) =>
          ((c.toNat - '0'.toNat) * Nat.pow 10 n + tail, rest)
      else none

def expect (c : Char) : List Char → Option (List Char)
  | d :: rest => if d = c then some rest else none
  | [] => none

def isLeapYear (y : Nat) : Bool := y % 4 == 0 && (y % 100 != 0 || y % 400 == 0)

def daysIn (year month : Nat) : Nat :=
  if month = 2 then if isLeapYear year then 29 else 28
  else if month = 4 || month = 6 || month = 9 || month = 11 then 30
  else 31

def date (cs : List Char) : Option (List Char) := do
  let (year, cs) ← fixedDigits 4 cs
  let cs ← expect '-' cs
  let (month, cs) ← fixedDigits 2 cs
  if month < 1 || 12 < month then none
  let cs ← expect '-' cs
  let (day, cs) ← fixedDigits 2 cs
  if day < 1 || daysIn year month < day then none
  return cs

def secondFraction : List Char → List Char
  | '.' :: c :: rest => if isDigit c then rest.dropWhile isDigit else '.' :: c :: rest
  | cs => cs

/-- The rest after a time of day.  A minute may have a leap second. -/
def timeOfDay (cs : List Char) : Option (List Char) := do
  let (hour, cs) ← fixedDigits 2 cs
  if 23 < hour then none
  let cs ← expect ':' cs
  let (minute, cs) ← fixedDigits 2 cs
  if 59 < minute then none
  let cs ← expect ':' cs
  let (second, cs) ← fixedDigits 2 cs
  if 60 < second then none
  return secondFraction cs

/-- The rest after an offset from universal time, if there is one. -/
def offset? : List Char → Option (List Char)
  | [] => none
  | c :: cs =>
    if c = 'Z' || c = 'z' then some cs
    else if c = '+' || c = '-' then do
      let (hour, cs) ← fixedDigits 2 cs
      if 23 < hour then none
      let cs ← expect ':' cs
      let (minute, cs) ← fixedDigits 2 cs
      if 59 < minute then none
      return cs
    else none

def dateTimeGap? : List Char → Option (List Char)
  | c :: rest => if c = 'T' || c = 't' || c = ' ' then some rest else none
  | [] => none

def moment (cs : List Char) : Option (List Char) :=
  match date cs with
  | none => timeOfDay cs
  | some afterDate =>
    match (dateTimeGap? afterDate).bind timeOfDay with
    | none => some afterDate
    | some afterTime => some ((offset? afterTime).getD afterTime)

end Replug.Toml
