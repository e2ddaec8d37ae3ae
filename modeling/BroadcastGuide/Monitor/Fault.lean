/-!
Why the live view cannot be measured or drawn.
-/

namespace BroadcastGuide.Monitor

inductive Fault
  /-- A quotient, a reading of the clock or a width is too large for its numbers. -/
  | tooLarge
  /-- A row of characters is longer than memory. -/
  | noMemory
  /-- A rate line has room for none of its values. -/
  | noValues
  /-- The theme has no style of that name. -/
  | unknownStyle
  /-- Drawing is held back to no times a second. -/
  | noRate
  /-- A message was logged in a year that the calendar lacks. -/
  | year (number : Int)
  /-- A message was logged in a year that the system cannot count. -/
  | yearUncountable
  /-- The texts of a log record do not fit its format. -/
  | recordTexts
  /-- The format of a log record ends within a place for a text. -/
  | recordFormat
  deriving DecidableEq, Repr

def Fault.message : Fault → String
  | .tooLarge => "number too large"
  | .noMemory => "out of memory"
  | .noValues => "max() arg is an empty sequence"
  | .unknownStyle => "unknown style"
  | .noRate => "division by zero"
  | .year number => s!"year {number} is out of range"
  | .yearUncountable => "year too large"
  | .recordTexts => "texts do not fit the format"
  | .recordFormat => "incomplete format"

end BroadcastGuide.Monitor
