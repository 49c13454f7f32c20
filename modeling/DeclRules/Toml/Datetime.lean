/-! Dates and times of day, with their written form. -/

namespace DeclRules.Toml

structure Date where
  year : Nat
  month : Nat
  day : Nat
deriving DecidableEq

/-- A time of day; a minute may have a leap second. -/
structure Time where
  hour : Nat
  minute : Nat
  second : Nat
  nanosecond : Nat
deriving DecidableEq

inductive Offset where
  | utc
  /-- Ahead of UTC by this many minutes. -/
  | minutes (m : Int)
deriving DecidableEq

inductive Datetime where
  | date (d : Date)
  | time (t : Time)
  | both (d : Date) (t : Time) (offset : Option Offset)
deriving DecidableEq

def isLeap (year : Nat) : Bool := year % 4 == 0 && (year % 100 != 0 || year % 400 == 0)

def daysIn (year month : Nat) : Nat :=
  if month = 2 then if isLeap year then 29 else 28
  else if month = 4 ∨ month = 6 ∨ month = 9 ∨ month = 11 then 30
  else 31

/-- A number with zeros in front up to a width. -/
def padded (width n : Nat) : String :=
  let s := toString n
  String.ofList (List.replicate (width - s.length) '0') ++ s

/-- A text without the zeros at its end. -/
def trimZeros (s : String) : String :=
  String.ofList ((s.toList.reverse.dropWhile (· == '0')).reverse)

def Date.text (d : Date) : String :=
  padded 4 d.year ++ "-" ++ padded 2 d.month ++ "-" ++ padded 2 d.day

def Time.text (t : Time) : String :=
  padded 2 t.hour ++ ":" ++ padded 2 t.minute ++ ":" ++ padded 2 t.second ++
    if t.nanosecond = 0 then "" else "." ++ trimZeros (padded 9 t.nanosecond)

def Offset.text : Offset → String
  | utc => "Z"
  | minutes m =>
    (if m < 0 then "-" else "+") ++ padded 2 (m.natAbs / 60) ++ ":" ++ padded 2 (m.natAbs % 60)

def Datetime.text : Datetime → String
  | date d => d.text
  | time t => t.text
  | both d t offset => d.text ++ "T" ++ t.text ++ (offset.map Offset.text).getD ""

end DeclRules.Toml
