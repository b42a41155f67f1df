/-
This file starts the command line.
-/

import ImpalaAdapter.CommandLine.Run

namespace ImpalaAdapter.CommandLine

/-- A line of the environment block has a name, an equals sign and a value. -/
def variableOfLine (line : ByteArray) : Option (String × EnvironmentValue) :=
  let bytes := line.toList
  let name := bytes.takeWhile (· != '='.toUInt8)
  let value := (bytes.dropWhile (· != '='.toUInt8)).drop 1
  match String.fromUTF8? name.toByteArray, String.fromUTF8? value.toByteArray with
  | some name, some text => some (name, .text text)
  | some name, none =>
      some (name, .bytes (String.ofList (value.map fun byte => Char.ofNat byte.toNat)))
  | none, _ => none

/-- Null bytes end the lines of the environment block. -/
def environmentOfBlock (block : ByteArray) : Environment :=
  let lines := block.toList.foldr
    (fun (byte : UInt8) (lines : List (List UInt8)) =>
      if byte == 0 then [] :: lines
      else
        match lines with
        | [] => [[byte]]
        | line :: rest => (byte :: line) :: rest) []
  .ofList (lines.filterMap fun line => variableOfLine line.toByteArray)

/-- The system reports with this code that a path leads to a directory. -/
def directoryCode : UInt32 := 21

/-- A path that leads to nothing, or through a file, has no entry. -/
def readEntry (path : String) : IO (Option FileEntry) := do
  try
    let bytes ← IO.FS.readBinFile path
    pure (some (match String.fromUTF8? bytes with
      | some text => .text text
      | none => .unreadable "stream did not contain valid UTF-8"))
  catch
    | .noFileOrDirectory .. => pure none
    | .inappropriateType _ osCode _ =>
        pure (if osCode = directoryCode then some .directory else none)
    | failure => pure (some (.unreadable (toString failure)))

/-- A line of the table of users holds the number of a user and the home directory. -/
def homeOfLine? (user line : String) : Option String :=
  match line.splitOn ":" with
  | [_, _, number, _, _, home, _] => if number = user then some home else none
  | _ => none

/-- The home directory that the system has for the user who runs the process. -/
def registeredHome? : IO (Option String) := do
  try
    let status ← IO.FS.readFile "/proc/self/status"
    let users ← IO.FS.readFile "/etc/passwd"
    let user := (status.splitOn "\n").findSome? fun line =>
      if line.startsWith "Uid:" then (line.splitOn "\t")[1]? else none
    pure (user.bind fun user => (users.splitOn "\n").findSome? (homeOfLine? user))
  catch _ => pure none

def homeDirectory? (environment : Environment) : IO (Option String) :=
  match environment.path? "HOME" with
  | some home => if home.isEmpty then registeredHome? else pure (some home)
  | none => registeredHome?

/-- The directory with the configuration of a user is set by an absolute path, and otherwise stands
in the home directory. -/
def findConfigurationDirectory (environment : Environment) : IO (Option String) := do
  match (environment.path? "XDG_CONFIG_HOME").filter isAbsolute with
  | some directory => pure (some directory)
  | none => pure ((← homeDirectory? environment).map fun home => joinPath home ".config")

/-- Only the paths at which settings can stand are looked at. -/
def readFiles (environment : Environment) (configurationDirectory? : Option String) :
    IO FileSystem := do
  let paths := (environment.read? Settings.fileVariable).toList ++ [Settings.localPath] ++
    (Settings.userPath? configurationDirectory?).toList
  let entries ← paths.mapM fun path => do pure (path, ← readEntry path)
  pure { entry? := fun path => (entries.lookup path).join }

def findSurroundings : IO Settings.Surroundings := do
  let environment := environmentOfBlock (← IO.FS.readBinFile "/proc/self/environ")
  let configurationDirectory? ← findConfigurationDirectory environment
  pure {
    environment := environment
    configurationDirectory? := configurationDirectory?
    files := ← readFiles environment configurationDirectory?
    refusal := fun _ => "the text is no settings file" }

end ImpalaAdapter.CommandLine

open ImpalaAdapter.CommandLine in
def main (arguments : List String) : IO UInt32 := do
  let outcome := run arguments (← findSurroundings)
  IO.print outcome.output
  unless outcome.errorLine.isEmpty do IO.eprintln outcome.errorLine
  pure outcome.code
