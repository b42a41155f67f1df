/-
This file divides the arguments of a command into options and plain arguments.
-/

import ImpalaAdapter.Text.Search

namespace ImpalaAdapter.CommandLine

/-- A flag takes no value. The value of a lenient option can start with a hyphen. -/
inductive ValueRule where
  | flag
  | value
  | lenientValue
deriving DecidableEq

structure OptionRule where
  name : String
  short : Option Char := none
  values : ValueRule := .value

/-- The shape of a command lists its options and counts its plain arguments. -/
structure CommandShape where
  options : List OptionRule := []
  plain : Nat := 0

/-- A usage error ends the reading, and so does a request for help. -/
inductive Stop where
  | usage
  | help
deriving DecidableEq

/-- The options have been given with these values, and the plain arguments in this order. -/
structure Given where
  options : List (String × String) := []
  plain : List String := []
deriving DecidableEq

namespace Given

/-- An option is given at most once. -/
def record (given : Given) (name value : String) : Except Stop Given :=
  if (given.options.lookup name).isSome then .error .usage
  else .ok { given with options := given.options ++ [(name, value)] }

def option? (given : Given) (name : String) : Option String :=
  given.options.lookup name

end Given

namespace CommandShape

def byName? (shape : CommandShape) (name : List Char) : Option OptionRule :=
  shape.options.find? fun rule => rule.name.toList == name

def byLetter? (shape : CommandShape) (letter : Char) : Option OptionRule :=
  shape.options.find? fun rule => rule.short == some letter

/-- An option is complete, or it waits for a value in the next argument. -/
inductive Step where
  | complete (given : Given)
  | waiting (rule : OptionRule) (given : Given)

/-- A flag refuses a value, and every other option takes one. -/
def giveOption (rule : OptionRule) (value : Option (List Char)) (given : Given) :
    Except Stop Step :=
  match rule.values, value with
  | .flag, none => (given.record rule.name "").map .complete
  | .flag, some _ => .error .usage
  | _, some text => (given.record rule.name (String.ofList text)).map .complete
  | _, none => .ok (.waiting rule given)

/-- The name of a long option ends at an equals sign, and the value follows it. -/
def readLong (shape : CommandShape) (text : List Char) (given : Given) : Except Stop Step :=
  let (name, value) :=
    match Text.cutAt '=' text with
    | some (name, value) => (name, some value)
    | none => (text, none)
  match shape.byName? name with
  | some rule => giveOption rule value given
  | none => .error (if name = "help".toList ∧ value.isNone then .help else .usage)

/-- The letters of a cluster are flags up to an option that takes the rest as its value. An equals
sign before the value is dropped. -/
def readCluster (shape : CommandShape) : List Char → Given → Except Stop Step
  | [], given => .ok (.complete given)
  | letter :: rest, given =>
      match shape.byLetter? letter with
      | some rule =>
          if rule.values = .flag then do
            let recorded ← given.record rule.name ""
            readCluster shape rest recorded
          else
            giveOption rule
              (match rest with
                | [] => none
                | '=' :: value => some value
                | value => some value)
              given
      | none => .error (if letter = 'h' then .help else .usage)

/-- A hyphen alone is a plain argument. -/
def isOption (argument : List Char) : Bool :=
  match argument with
  | '-' :: _ :: _ => true
  | _ => false

def readOption (shape : CommandShape) (argument : List Char) (given : Given) :
    Except Stop Step :=
  match argument with
  | '-' :: '-' :: text => shape.readLong text given
  | _ :: letters => shape.readCluster letters given
  | [] => .error .usage

/-- After two hyphens all arguments are plain. A waiting option takes the next argument, which
starts with a hyphen only when the option is lenient. -/
def read (shape : CommandShape) : List String → Option OptionRule → Given → Except Stop Given
  | [], none, given =>
      if given.plain.length = shape.plain then .ok given else .error .usage
  | [], some _, _ => .error .usage
  | argument :: rest, some rule, given =>
      if isOption argument.toList && rule.values != .lenientValue then .error .usage
      else do
        let recorded ← given.record rule.name argument
        shape.read rest none recorded
  | argument :: rest, none, given =>
      if argument = "--" then
        let plain := given.plain ++ rest
        if plain.length = shape.plain then .ok { given with plain := plain } else .error .usage
      else if isOption argument.toList then do
        match ← shape.readOption argument.toList given with
        | .complete recorded => shape.read rest none recorded
        | .waiting rule recorded => shape.read rest (some rule) recorded
      else if given.plain.length < shape.plain then
        shape.read rest none { given with plain := given.plain ++ [argument] }
      else .error .usage

end CommandShape

end ImpalaAdapter.CommandLine
