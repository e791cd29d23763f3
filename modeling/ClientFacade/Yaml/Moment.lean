import ClientFacade.Yaml.Node

/-!
# Dates

A date has to exist in the Gregorian calendar, and a time on the clock. Its text is the date, the
time with six digits for a fraction that is not zero, and the offset from universal time.
-/

namespace ClientFacade.Yaml.Moment

def isLeap (year : Nat) : Bool := year % 4 = 0 && (year % 100 ≠ 0 || year % 400 = 0)

def monthLength (year month : Nat) : Nat :=
  if month = 2 then (if isLeap year then 29 else 28)
  else if [4, 6, 9, 11].elem month then 30
  else 31

def padded (width n : Nat) : Text :=
  let digits := Text.ofNat n
  List.replicate (width - digits.length) '0' ++ digits

def dateProblem? (moment : Moment) : Option Text :=
  if moment.year = 0 then some ("year " ++ Text.ofNat moment.year ++ " is out of range")
  else if moment.month = 0 ∨ 12 < moment.month then some "month must be in 1..12"
  else if moment.day = 0 ∨ monthLength moment.year moment.month < moment.day then
    some "day is out of range for month"
  else none

def timeProblem? (hour minute second : Nat) : Option Text :=
  if 23 < hour then some "hour must be in 0..23"
  else if 59 < minute then some "minute must be in 0..59"
  else if 59 < second then some "second must be in 0..59"
  else none

/-- A span of minutes as days and seconds, the days rounded down. -/
def span (minutes : Int) : Text :=
  let days := Int.fdiv minutes 1440
  let seconds := Int.fmod minutes 1440 * 60
  let parts : List Text :=
    (if days = 0 then [] else [("days=" : Text) ++ Text.ofInt days]) ++
      (if seconds = 0 then [] else [("seconds=" : Text) ++ Text.ofInt seconds])
  "datetime.timedelta(" ++ Text.join ", " parts ++ ")"

def offsetProblem? (offset : Option Int) : Option Text :=
  match offset with
  | none => none
  | some minutes =>
    if minutes.natAbs < 1440 then none
    else some ("offset must be a timedelta strictly between -timedelta(hours=24) and " ++
      "timedelta(hours=24), not " ++ span minutes ++ ".")

def micros (fraction : Text) : Nat :=
  numberOf ((fraction ++ List.replicate 6 '0').take 6)

def offsetText (minutes : Int) : Text :=
  (if minutes < 0 then ['-'] else ['+']) ++ padded 2 (minutes.natAbs / 60) ++ [':'] ++
    padded 2 (minutes.natAbs % 60)

def text? (moment : Moment) : Except Text Text :=
  let date := padded 4 moment.year ++ ['-'] ++ padded 2 moment.month ++ ['-'] ++
    padded 2 moment.day
  match moment.time with
  | none =>
    match dateProblem? moment with
    | some reason => .error reason
    | none => .ok date
  | some (hour, minute, second, fraction) =>
    match (offsetProblem? moment.offset).or
        ((dateProblem? moment).or (timeProblem? hour minute second)) with
    | some reason => .error reason
    | none =>
      let part : Text := if micros fraction = 0 then [] else '.' :: padded 6 (micros fraction)
      let zone : Text :=
        match moment.offset with
        | none => []
        | some minutes => offsetText minutes
      .ok (date ++ [' '] ++ padded 2 hour ++ [':'] ++ padded 2 minute ++ [':'] ++
        padded 2 second ++ part ++ zone)

end ClientFacade.Yaml.Moment
