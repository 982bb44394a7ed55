import Reckoner.Binary64.Elementary
import Reckoner.CommandLine.Logging
import Reckoner.Settings.Numeral

/-!
# What the program finds

What the commands rely on without computing it: the elementary functions, the forms in which the
option parser takes an integer, and the level of logging.  Whatever uses them takes them as an
argument.
-/

namespace Reckoner.CommandLine

/-- What is found when the program runs. -/
structure Host where
  /-- The elementary functions. -/
  elementary : Elementary
  /-- The integer that the value of an option stands for, if the option parser takes it for one. -/
  readInteger : String → Option Int
  /-- The value of the variable that names the level of logging. -/
  level : Option String

namespace Host

/-- The platform with the variable unset.  In the runs that were observed, its option parser takes
the forms of integers that settings have, such as `17.00` and `0__5`, and no digits of other scripts.
What is proved about commands holds of every host and does not depend on it. -/
def platform : Host where
  elementary := .platform
  readInteger text := (Settings.readInteger text).toOption
  level := none

end Host

end Reckoner.CommandLine
