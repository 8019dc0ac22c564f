import Lineage.Command.Execution
import Std.Time.Zoned

/-!
# The program

Reads the files that the command line names, carries it out, and prints or
writes the result.
-/

namespace Lineage.Command

/-- A number with a zero in front when it has one digit. -/
def twoDigits (n : Nat) : String :=
  Decimal.padded 2 n

/-- The names of the days of the week, Monday first. -/
def weekdayNames : List String :=
  ["Monday", "Tuesday", "Wednesday", "Thursday", "Friday", "Saturday", "Sunday"]

/-- A time as reports print it, such as `Thursday, March 7, 2024 1:05 PM`. Days
of the week are counted from 1, Monday being the first. -/
def timeText (weekday : Nat) (year : Int) (month day hour minute : Nat) : String :=
  let clock := if hour % 12 = 0 then 12 else hour % 12
  weekdayNames.getD (weekday - 1) "" ++ ", " ++ monthNames.getD (month - 1) "" ++ " " ++
    toString day ++ ", " ++ toString year ++ " " ++ toString clock ++ ":" ++ twoDigits minute ++
    (if hour < 12 then " AM" else " PM")

/-- Reads the files with the given paths, as far as they can be read. -/
def readFiles (paths : List String) : IO (List (String × String)) := do
  let mut files := []
  for path in paths do
    try
      let text ← IO.FS.readFile path
      files := (path, text) :: files
    catch _ => pure ()
  return files

/-- The present time: that of the place if it is known, else universal
time. -/
def presentTime : IO Std.Time.PlainDateTime := do
  try Std.Time.PlainDateTime.now
  catch _ => return .ofWallTime (.ofTimestamp (← Std.Time.Timestamp.now) .zero)

/-- The files and the time that a command works with. -/
def surroundings (paths : List String) : IO Surroundings := do
  let files ← readFiles paths
  let time ← presentTime
  let year := time.year.toInt
  let month := time.month.val.toNat
  let day := time.day.val.toNat
  return {
    read := fun path => files.lookup path
    today := (Calendar.commonEraDay? year month day).getD 0
    now := timeText time.weekday.toOrdinal.val.toNat year month day time.hour.val.toNat
      time.minute.val.toNat }

/-- Prints and writes a result, and gives the exit code. -/
def finish (result : Result) : IO UInt32 := do
  IO.print result.stdout
  IO.eprint result.stderr
  match result.write with
  | none => return result.code.toUInt32
  | some (path, text) =>
    try
      IO.FS.writeFile path text
      return result.code.toUInt32
    catch e =>
      IO.eprintln s!"Error: {e}"
      return 1

end Lineage.Command

open Lineage.Command in
/-- The command line. -/
def main (texts : List String) : IO UInt32 := do
  match parse texts with
  | .error e => finish (.ofUsageError e)
  | .ok request => finish (request.carryOut (← surroundings request.paths))
