import ProbeKit.Text.Digit
import ProbeKit.Text.Quoted

/-!
# What may be wrong with YAML text

Most faults make a text malformed, and nothing more is said about them.  The other causes come
from values that look right and name nothing: a code that is no character, digits that make no
number, a day that no calendar has.
-/

namespace ProbeKit.Outside.Yaml

open Text

/-- Why a text has no value. -/
inductive Problem where
  /-- The text is not well formed. -/
  | malformed
  /-- The code of an escape is above the last character. -/
  | codePoint
  /-- The code of an escape is above all sensible bounds. -/
  | hugeCodePoint
  /-- A text is no integer in a base. -/
  | integer (base : Nat) (text : String)
  /-- An integer has too many digits. -/
  | digits (e : TooManyDigits)
  /-- A text is no floating-point number. -/
  | float (text : String)
  /-- A number has too many parts. -/
  | hugeNumber
  /-- A number has no characters. -/
  | emptyNumber
  /-- A text is no truth value. -/
  | truth (text : String)
  /-- A text is no point in time. -/
  | moment
  /-- A year is outside the calendar. -/
  | year (n : Nat)
  /-- A month is outside the year. -/
  | month
  /-- A day is outside the month. -/
  | day
  /-- An hour is outside the day. -/
  | hour
  /-- A minute is outside the hour. -/
  | minute
  /-- A second is outside the minute. -/
  | second
  /-- A time zone is a day or more away; its distance in minutes. -/
  | zone (minutes : Int)
  deriving DecidableEq

/-- A stretch of minutes as days and seconds. -/
def daysAndSeconds (minutes : Int) : String :=
  let seconds := minutes * 60
  let days := seconds.fdiv 86400
  let rest := seconds.fmod 86400
  if rest = 0 then s!"days={days}" else s!"days={days}, seconds={rest}"

/-- What is wrong, in words. -/
def Problem.message : Problem → String
  | .malformed => "malformed document"
  | .codePoint => "chr() arg not in range(0x110000)"
  | .hugeCodePoint => "Python int too large to convert to C int"
  | .integer base text => s!"invalid literal for int() with base {base}: " ++ quoted text
  | .digits e => e.message
  | .float text => "could not convert string to float: " ++ quoted text
  | .hugeNumber => "int too large to convert to float"
  | .emptyNumber => "string index out of range"
  | .truth text => quoted text
  | .moment => "'NoneType' object has no attribute 'groupdict'"
  | .year n => s!"year {n} is out of range"
  | .month => "month must be in 1..12"
  | .day => "day is out of range for month"
  | .hour => "hour must be in 0..23"
  | .minute => "minute must be in 0..59"
  | .second => "second must be in 0..59"
  | .zone minutes =>
    "offset must be a timedelta strictly between -timedelta(hours=24) and timedelta(hours=24)" ++
      ", not datetime.timedelta(" ++ daysAndSeconds minutes ++ ")."

/-- The kind of error that it is, unless it is that a text is no document. -/
def Problem.kind : Problem → String
  | .hugeCodePoint | .hugeNumber => "OverflowError"
  | .emptyNumber => "IndexError"
  | .truth _ => "KeyError"
  | .moment => "AttributeError"
  | _ => "ValueError"

end ProbeKit.Outside.Yaml
