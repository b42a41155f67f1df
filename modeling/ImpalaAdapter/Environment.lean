/-
This file describes the variables of the environment.
-/

namespace ImpalaAdapter

/-- Bytes that are not text can still name a path, which is shown as the given display. -/
inductive EnvironmentValue where
  | text (text : String)
  | bytes (display : String)
deriving DecidableEq

/-- An environment gives values to some of the names. -/
structure Environment where
  value? : String → Option EnvironmentValue

namespace Environment

/-- A variable can be read only when its value is text. -/
def read? (environment : Environment) (name : String) : Option String :=
  match environment.value? name with
  | some (.text text) => some text
  | _ => none

/-- Every value can name a path. -/
def path? (environment : Environment) (name : String) : Option String :=
  match environment.value? name with
  | some (.text text) => some text
  | some (.bytes display) => some display
  | none => none

/-- The value after an equals sign is found by the text before it, which can reach into the value
when the name has an equals sign of its own. -/
def lookup (name : String) (entry : String × EnvironmentValue) : Option EnvironmentValue :=
  if name.isEmpty then none
  else if entry.1 = name then some entry.2
  else
    match entry.2 with
    | .text text =>
        let line := entry.1.toList ++ '=' :: text.toList
        let start := name.toList ++ ['=']
        if start.isPrefixOf line then some (.text (String.ofList (line.drop start.length))) else none
    | .bytes _ => none

/-- The first of several variables with one name wins. -/
def ofList (entries : List (String × EnvironmentValue)) : Environment where
  value? name := entries.findSome? (lookup name)

end Environment

end ImpalaAdapter
