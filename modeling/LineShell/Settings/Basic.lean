import LineShell.FileSystem.Walk
import LineShell.Settings.Environment
import LineShell.Text.Case

/-!
# Settings

What can be configured, read from the environment once and resolved when it is needed.
-/

namespace LineShell

/-- The settings of the program. -/
structure Settings where
  startDirectory : Text
  sentinel : Text
  logLevel : Text
  apiHost : Text
  apiPort : Int
  /-- The directory that `~` stands for. -/
  home : Text
  deriving DecidableEq

/-- What is wrong with a setting. -/
inductive SettingsFault where
  | badInteger (name value : Text)
  | noStartDirectory (path : Text)
  | unknownLevel (name : Text)
  /-- A user was to be looked up whose name holds the null character. -/
  | nullByte
  /-- The start directory is a relative path, and the working directory was removed. -/
  | noWorkingDirectory
  deriving DecidableEq

/-- The wording of a wrong setting. -/
def SettingsFault.message : SettingsFault → Text
  | .badInteger name value =>
      "Environment variable " ++ name ++ " must be an integer, got " ++ value.quoted
  | .noStartDirectory path => "Start directory does not exist: " ++ path
  | .unknownLevel name => "Unknown log level: " ++ name
  | .nullByte => Fault.nullByte.message
  | .noWorkingDirectory => Fault.unplaced

namespace Settings

/-- The variable that holds the port of the interface. -/
def portVariable : Text := "MINISHELL_API_PORT"

/-- The settings that an environment makes, in a working directory. -/
def ofEnvironment (working : Text) (environment : Environment) : Except SettingsFault Settings :=
  match environment.integer portVariable 8000 with
  | .error value => .error (.badInteger portVariable value)
  | .ok apiPort =>
      .ok
        { startDirectory := environment.getD "MINISHELL_START_DIR" working
          sentinel := environment.getD "MINISHELL_CAPTURE_SENTINEL" "exit"
          logLevel := (environment.getD "MINISHELL_LOG_LEVEL" "WARNING").upper
          apiHost := environment.getD "MINISHELL_API_HOST" "127.0.0.1"
          apiPort
          home := environment.getD "HOME" "/" }

/-- A given value, unless it is missing or empty. -/
def orElse (given : Option Text) (default : Text) : Text :=
  match given with
  | some (first :: rest) => first :: rest
  | _ => default

/-- A path in which a leading `~` component is the home directory.  A component `~` with a name
stands for itself, since there are no users whose home could be meant; but none can be looked up
under a name that holds the null character. -/
def expandHome (home path : Text) : Except SettingsFault Text :=
  match path with
  | '~' :: rest =>
      if rest.isEmpty || Path.isAbsolute rest then
        let expanded := Text.trimEndWhere Path.isSlash home ++ rest
        .ok (if expanded.isEmpty then "/" else expanded)
      else if Text.hasNull (rest.takeWhile (!Path.isSlash ·)) then .error .nullByte
      else .ok path
  | _ => .ok path

/-- The directory that a session starts in: the given one, or else the configured one. -/
def startIn (settings : Settings) (host : Host) (files : FileSystem) (given : Option Text) :
    Except SettingsFault Text := do
  match files.absolute? (← expandHome settings.home (orElse given settings.startDirectory)) with
  | none => .error .noWorkingDirectory
  | some path =>
      if files.isDirectory host path then .ok path else .error (.noStartDirectory path)

/-- The names of the logging levels and their numbers. -/
def levels : List (Text × Nat) :=
  [ ("CRITICAL", 50), ("FATAL", 50), ("ERROR", 40), ("WARN", 30), ("WARNING", 30), ("INFO", 20),
    ("DEBUG", 10), ("NOTSET", 0) ]

/-- The number of a logging level by name: the given one, or else the configured one. -/
def level (settings : Settings) (given : Option Text) : Except SettingsFault Nat :=
  let name := (orElse given settings.logLevel).upper
  match levels.lookup name with
  | some number => .ok number
  | none => .error (.unknownLevel name)

end Settings

end LineShell
