/-!
# The level of logging

A variable of the environment names the level from which messages are logged.  The name is looked up
in upper case among everything that the logging library defines, so that most texts stand for the
default level, but two of them for something that is no level.
-/

namespace Reckoner.CommandLine

/-- The environment variable that names the level of logging. -/
def levelVariable : String := "LOG_LEVEL"

namespace Logging

/-- The characters beyond ASCII whose upper-case forms consist of ASCII letters. -/
def wideForms : List (Char × String) :=
  [('ß', "SS"), ('ı', "I"), ('ſ', "S"), ('ﬀ', "FF"), ('ﬁ', "FI"), ('ﬂ', "FL"), ('ﬃ', "FFI"),
    ('ﬄ', "FFL"), ('ﬅ', "ST"), ('ﬆ', "ST")]

/-- The upper-case form of a character.  Where it would hold other characters than ASCII letters, the
character is kept, since no name holds them. -/
def upperCase (c : Char) : List Char :=
  if 'a' ≤ c ∧ c ≤ 'z' then [Char.ofNat (c.toNat - 32)]
  else (wideForms.lookup c).elim [c] String.toList

/-- The names that stand for something else than a level, with what is then said. -/
def otherNames : List (String × String) :=
  [("BASIC_FORMAT", "Unknown level: '%(levelname)s:%(name)s:%(message)s'"),
    ("_STYLES", "Level not an integer or a valid string")]

/-- What is wrong with the level that a text stands for, if something is. -/
def levelError? (level : String) : Option String :=
  otherNames.lookup (String.ofList (level.toList.flatMap upperCase))

end Logging

end Reckoner.CommandLine
