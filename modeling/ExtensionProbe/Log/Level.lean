import ExtensionProbe.Log.Event
import ExtensionProbe.Text.Case

/-!
# Levels of a log

Levels are numbers, and some of them have names. A name is found in small or capital letters.

* `ofName?_name`: the level of a severity is found by the name of the severity.
-/

namespace ExtensionProbe.Log.Level

/-- The names that a level can be asked for by. -/
def names : List (String × Int) :=
  [("CRITICAL", 50), ("FATAL", 50), ("ERROR", 40), ("WARN", 30), ("WARNING", 30), ("INFO", 20),
    ("DEBUG", 10), ("NOTSET", 0)]

/-- The level that a name stands for. -/
def ofName? (s : String) : Option Int :=
  names.lookup (String.ofList (Text.capitals s.toList))

/-- The name of a level. One without a name of its own goes by its number. -/
def name (level : Int) : String :=
  if level = 50 then "CRITICAL"
  else if level = 40 then "ERROR"
  else if level = 30 then "WARNING"
  else if level = 20 then "INFO"
  else if level = 10 then "DEBUG"
  else if level = 0 then "NOTSET"
  else "Level " ++ toString level

theorem name_level (s : Severity) : name s.level = s.name := by cases s <;> rfl

theorem ofName?_name (s : Severity) : ofName? s.name = some s.level := by cases s <;> decide

end ExtensionProbe.Log.Level
