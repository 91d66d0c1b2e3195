import TableFeed.Config.Setting
import TableFeed.Text.Split

/-!
# The command line

Settings on a command line: `--flag value`, `--flag=value` and the switch `--dry-run`. A value that
stands by itself is looked at only when the next flag or the end of the line settles it, so an
unknown argument is reported before it. A flag given twice is refused. The environment gives the
settings that the line does not.
-/

namespace TableFeed

/-- The settings given so far. `pending` is a flag whose value is not settled: the value may stand
in the next argument, or it has been seen there. -/
structure CommandLine where
  given : List (Setting × String) := []
  pending : Option (Setting × Option String) := none
  deriving Repr

namespace CommandLine

/-- Takes a value for a setting. -/
def accept (c : CommandLine) (s : Setting) (value : String) : Except SettingError CommandLine :=
  if (c.given.lookup s).isSome then .error .argumentConflict
  else (s.check value).map fun v => { c with given := c.given ++ [(s, v)] }

/-- Settles the pending flag. -/
def settle (c : CommandLine) : Except SettingError CommandLine :=
  match c.pending with
  | none => .ok c
  | some (_, none) => .error .invalidValue
  | some (s, some value) => { c with pending := none }.accept s value

/-- What an argument is. -/
inductive Argument where
  /-- `--` -/
  | escape
  /-- `--name` or `--name=value` -/
  | long (name : String) (value : Option String)
  /-- `-` and at least one letter. -/
  | short (letters : List Char)
  | plain
  deriving Repr

/-- Reads an argument. -/
def Argument.of (s : String) : Argument :=
  match s.toList with
  | ['-', '-'] => .escape
  | '-' :: '-' :: rest =>
    let (name, value) := Split.first (· = '=') rest
    .long (String.ofList name) (value.map String.ofList)
  | '-' :: c :: rest => .short (c :: rest)
  | _ => .plain

/-- A flag with its value, if that is attached. -/
def long (c : CommandLine) (name : String) (value : Option String) :
    Except SettingError CommandLine :=
  match Setting.ofFlag? name with
  | none =>
    if name = "help" then
      if value.isSome then .error .tooManyValues else do
        let _ ← c.settle
        throw .displayHelp
    else .error .unknownArgument
  | some s =>
    if s.isSwitch then
      if value.isSome then .error .tooManyValues else do (← c.settle).accept s "true"
    else do
      let c ← c.settle
      match value with
      | some v => c.accept s v
      | none => return { c with pending := some (s, none) }

/-- Takes the arguments in turn. -/
def read : List String → CommandLine → Except SettingError CommandLine
  | [], c => c.settle
  | arg :: rest, c =>
    match Argument.of arg with
    | .escape => if rest.isEmpty then c.settle else .error .unknownArgument
    | .long name value => do read rest (← c.long name value)
    | .short letters =>
      if letters.head? = some 'h' then do
        let _ ← c.settle
        throw .displayHelp
      else .error .unknownArgument
    | .plain =>
      match c.pending with
      | some (s, none) => read rest { c with pending := some (s, some arg) }
      | _ => .error .unknownArgument

/-- Takes the settings that are not given from the environment. -/
def readEnvironment (env : List (String × String)) :
    List Setting → CommandLine → Except SettingError CommandLine
  | [], c => .ok c
  | s :: rest, c =>
    match c.given.lookup s, env.lookup s.variableName with
    | none, some value => do readEnvironment env rest (← c.accept s value)
    | _, _ => readEnvironment env rest c

/-- The settings that a command line and an environment give. -/
def settings (args : List String) (env : List (String × String)) :
    Except SettingError (List (Setting × String)) := do
  let c ← read args {}
  let c ← readEnvironment env Setting.all c
  return c.given

end CommandLine

end TableFeed
