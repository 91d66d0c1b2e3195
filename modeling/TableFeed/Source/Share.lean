import TableFeed.Text.Blank
import TableFeed.Text.Utf8

/-!
# Network shares

A file may lie on a share that has to be mounted first. The share of a path is what precedes its
last separator; the command that mounts one takes the share, a user and a password.
-/

namespace TableFeed.Share

/-- A separator of a path. -/
def isSeparator (c : Char) : Bool :=
  c = '\\' || c = '/'

/-- The part of a path before its last separator. -/
def root? (path : String) : Option String :=
  match path.toList.reverse.dropWhile (!isSeparator ·) with
  | [] => none
  | _ :: before => some (String.ofList before.reverse)

/-- A mount: the share, the user and the password. -/
structure Mount where
  share : String
  user : String
  password : String
  deriving DecidableEq, Repr

/-- The arguments of the command that mounts a share. -/
def Mount.arguments (m : Mount) : List String :=
  ["use", m.share, "/user:" ++ m.user, m.password]

/-- The end of a command: its exit code and what it wrote as errors. -/
structure Exit where
  code : Int
  stderr : List UInt8
  deriving Repr

/-- Why a share was not mounted. -/
inductive MountError where
  /-- There is no such command. -/
  | noCommand
  /-- The command cannot be given these arguments. -/
  | nulInArgument
  /-- The command failed and wrote this. -/
  | failed (text : String)
  deriving DecidableEq, Repr

/-- The wording of a failed mount. -/
def MountError.message : MountError → String
  | .noCommand => "No such file or directory (os error 2)"
  | .nulInArgument => "nul byte found in provided data"
  | .failed text => text

/-- No argument has a NUL. -/
def Mount.sendable (m : Mount) : Bool :=
  m.arguments.all fun a => !a.toList.contains '\x00'

/-- Mounts a share with a command, if there is one: the arguments the command got, the failure. -/
def Mount.run (m : Mount) (command : Option Exit) : Option (List String) × Option MountError :=
  if ¬ m.sendable then (none, some .nulInArgument)
  else
    match command with
    | none => (none, some .noCommand)
    | some ⟨code, stderr⟩ =>
      (some m.arguments,
        if code = 0 then none else some (.failed (Blank.trim (Utf8.decodeLossy stderr))))

end TableFeed.Share
