import PromptTemplate.Text.Basic

namespace PromptTemplate

structure Date where
  year : Nat
  month : Nat
  day : Nat
  deriving DecidableEq, Repr

namespace Date

def isLeap (year : Nat) : Bool :=
  year % 4 = 0 && (year % 100 ≠ 0 || year % 400 = 0)

def daysIn (year month : Nat) : Nat :=
  if month = 2 then (if isLeap year then 29 else 28)
  else if month = 4 || month = 6 || month = 9 || month = 11 then 30
  else 31

def ofNumbers? (year month day : Nat) : Option Date :=
  if 1 ≤ year && year ≤ 9999 && 1 ≤ month && month ≤ 12 && 1 ≤ day && day ≤ daysIn year month then
    some ⟨year, month, day⟩
  else none

def toText (d : Date) : Text :=
  Text.ofNatPadded 4 d.year ++ '-' :: Text.ofNatPadded 2 d.month ++
    '-' :: Text.ofNatPadded 2 d.day

end Date

structure Clock where
  hour : Nat
  minute : Nat
  second : Nat
  microsecond : Nat
  deriving DecidableEq, Repr

namespace Clock

def ofNumbers? (hour minute second microsecond : Nat) : Option Clock :=
  if hour < 24 && minute < 60 && second < 60 && microsecond < 1000000 then
    some ⟨hour, minute, second, microsecond⟩
  else none

def microseconds (fraction : Text) : Nat :=
  (List.range 6).foldl (fun n i => n * 10 + ((fraction[i]?.map fun c => c.toNat - 0x30).getD 0)) 0

def toText (c : Clock) : Text :=
  Text.ofNatPadded 2 c.hour ++ ':' :: Text.ofNatPadded 2 c.minute ++
    ':' :: Text.ofNatPadded 2 c.second ++
    if c.microsecond = 0 then [] else '.' :: Text.ofNatPadded 6 c.microsecond

def numbers (c : Clock) : List Nat :=
  [c.hour, c.minute] ++
    if c.microsecond ≠ 0 then [c.second, c.microsecond]
    else if c.second ≠ 0 then [c.second]
    else []

end Clock

/-- Offsets count minutes, positive ones lying east. -/
inductive Moment where
  | date (d : Date)
  | time (c : Clock)
  | dateTime (d : Date) (c : Clock) (offset : Option Int)
  deriving DecidableEq, Repr

namespace Moment

def isOffset (minutes : Int) : Bool :=
  minutes.natAbs < 1440

def offsetText (minutes : Int) : Text :=
  (if minutes < 0 then '-' else '+') :: Text.ofNatPadded 2 (minutes.natAbs / 60) ++
    ':' :: Text.ofNatPadded 2 (minutes.natAbs % 60)

def toText : Moment → Text
  | .date d => d.toText
  | .time c => c.toText
  | .dateTime d c offset =>
      d.toText ++ ' ' :: c.toText ++
        match offset with
        | none => []
        | some minutes => offsetText minutes

def numbers (ns : List Nat) : Text :=
  Text.join ", ".toList (ns.map Text.ofNat)

def zone (minutes : Int) : Text :=
  if minutes = 0 then "datetime.timezone.utc".toList
  else
    "datetime.timezone(datetime.timedelta(".toList ++
      (if minutes < 0 then "days=-1, ".toList else []) ++ "seconds=".toList ++
      Text.ofInt ((minutes % 1440) * 60) ++ "))".toList

def quoted : Moment → Text
  | .date d => "datetime.date(".toList ++ numbers [d.year, d.month, d.day] ++ [')']
  | .time c => "datetime.time(".toList ++ numbers c.numbers ++ [')']
  | .dateTime d c offset =>
      "datetime.datetime(".toList ++ numbers ([d.year, d.month, d.day] ++ c.numbers) ++
        (match offset with
        | none => []
        | some minutes => ", tzinfo=".toList ++ zone minutes) ++ [')']

def typeName : Moment → Text
  | .date _ => "date".toList
  | .time _ => "time".toList
  | .dateTime .. => "datetime".toList

end Moment

end PromptTemplate
