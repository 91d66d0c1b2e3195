import TableFeed.Config.Basic
import TableFeed.Publishing.Broker
import TableFeed.Publishing.LogPublisher
import TableFeed.Service.Adapter

/-!
# The program

Takes its configuration from the command line and the environment, loads the store and polls every
file that it lists. What is read goes to the log: the program opens no connection, so a
configuration that asks for a broker ends with the failure to reach one.
-/

namespace TableFeed.Program

/-- The settings that the environment gives. -/
def environment : IO (List (String × String)) :=
  Setting.all.filterMapM fun s => do
    return (← IO.getEnv s.variableName).map (s.variableName, ·)

/-- How to call the program. -/
def usage : String :=
  let flags := Setting.all.map fun s =>
    if s.isSwitch then s!"[--{s.flag}]" else s!"[--{s.flag} VALUE]"
  "usage: tablefeed " ++ " ".intercalate flags

/-- How many levels the word of a log level lets through. -/
def levelsShown (word : String) : Nat :=
  match word.toLower with
  | "off" => 0
  | "error" => 1
  | "warn" => 2
  | "info" => 3
  | _ => 4

/-- The place of a level among all, from one. -/
def place : Level → Nat
  | .error => 1
  | .warn => 2
  | .info => 3
  | .debug => 4

/-- Writes the lines of a log that are to be shown. -/
def report (c : Config) (log : List LogLine) : IO Unit :=
  for line in log do
    if place line.level ≤ levelsShown c.logLevel then IO.eprintln line.text

/-- The files with one more as the machine has it now, if it can be read. -/
def look (files : Files) (path : String) : IO Files := do
  let .ok content ← (IO.FS.readBinFile path).toBaseIO | return files
  match files.write path content.toList with
  | .ok files => return files
  | .error _ => return files

/-- The adapter with its sources as the machine has them now. -/
def refresh (a : Adapter LogPublisher) : IO (Adapter LogPublisher) := do
  let files ← (a.registry.sources.map fun s => s.reader.display).foldlM look {}
  return { a with surroundings := { a.surroundings with files } }

/-- Lets the adapter run with the clock of the machine, from a moment of it. -/
partial def poll (c : Config) (a : Adapter LogPublisher) (since : Nat) : IO Unit := do
  IO.sleep 100
  let now ← IO.monoMsNow
  let a ← refresh a
  let a := a.elapse (.ofMillis (now - since))
  report c a.log
  poll c { a with log := [] } now

/-- Runs the program with a configuration. -/
def start (c : Config) : IO UInt32 := do
  if ¬ c.dryRun then
    let (log, failure) := c.broker.connectUnanswered
    report c (log ++ [⟨.error, failure.message⟩])
    return 1
  let files ← look {} c.configFile
  let a : Adapter LogPublisher :=
    { kind := c.readerKind, path := c.configFile,
      access := { user := c.fsUser, password := c.fsPass },
      surroundings := { files }, publisher := {} }
  let (a, _) := a.load
  let (a, started) := a.start
  report c (a.log ++ [⟨.info, s!"Polling {started} {c.readerKind.tag} reader(s)"⟩])
  poll c { a with log := [] } (← IO.monoMsNow)
  return 0

end TableFeed.Program

/-- Runs the program that the arguments and the environment describe. -/
def main (args : List String) : IO UInt32 := do
  match TableFeed.Config.parse args (← TableFeed.Program.environment) with
  | .ok c => TableFeed.Program.start c
  | .error .displayHelp =>
    IO.println TableFeed.Program.usage
    return 0
  | .error _ =>
    IO.eprintln TableFeed.Program.usage
    return 2
