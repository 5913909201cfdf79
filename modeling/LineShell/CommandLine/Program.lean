import LineShell.Command.Standard
import LineShell.CommandLine.Usage
import LineShell.Console.Display
import LineShell.Session.Interpreter
import LineShell.Settings.Basic

/-!
# The program

One run of the program from its arguments to its end: with commands on the command line it runs
these and captures from the standard input, without any it takes the standard input as a terminal.
-/

namespace LineShell

namespace CommandLine

/-- What breaks off a run of the program. -/
inductive Breakdown where
  /-- Something in the session. -/
  | session (escape : Escape)
  /-- The size of the screen is no number. -/
  | screenSize (fault : Digits.Fault)
  /-- A message cannot be shown because it is taken as markup. -/
  | markup (fault : Markup.Fault)
  deriving DecidableEq

/-- The wording of what breaks off a run. -/
def Breakdown.message : Breakdown → Text
  | .session escape => escape.message
  | .screenSize fault => fault.message
  | .markup fault => fault.message

/-- How a run of the program ended. -/
inductive Ending where
  /-- The program ran and gave a status. -/
  | status (code : Nat)
  /-- The command line was answered with help or refused. -/
  | exited (code : Nat)
  /-- The run broke off. -/
  | brokenOff (breakdown : Breakdown)
  deriving DecidableEq

/-- What a run of the program leaves. -/
structure Outcome where
  ending : Ending
  /-- The texts on the standard output, in order. -/
  output : Text := []
  errors : Text := []
  files : FileSystem
  /-- What is left of the standard input. -/
  unread : Text

/-- The number of columns in the environment, for usage and help. -/
def usageColumns (environment : Environment) : Nat :=
  match (environment.get? "COLUMNS").bind Digits.integer? with
  | some (.ofNat (count + 1)) => count + 1
  | _ => ScreenSize.defaultColumns

/-- What the banner of a terminal session says. -/
def bannerText : Text := "Type 'help' for a list of commands, 'exit' to quit."

/-- Runs lines until one ends the session. -/
def runCommands (setup : Setup) (registry : Registry) : List (Option Text) → Shell Unit
  | [] => pure ()
  | line? :: rest => do
      if (← Shell.session).running then
        match line? with
        | none => throw .lineWithoutText
        | some line =>
            let _ ← Interpreter.processLine setup registry line
            runCommands setup registry rest

/-- What the texts that were written look like on a screen. -/
def shown (display : Display) (columns : Nat) (texts : List Text) : Text :=
  texts.flatMap (display.text columns)

/-- The outcome of a computation over a world. -/
def Outcome.ofResult (display : Display) (columns : Nat) (before : Text) :
    EStateM.Result Escape World Nat → Outcome
  | .ok code world =>
      { ending := .status code
        output := before ++ shown display columns world.output
        files := world.files
        unread := world.reader.unread }
  | .error escape world =>
      { ending := .brokenOff (.session escape)
        output := before ++ shown display columns world.output
        files := world.files
        unread := world.reader.unread }

/-- Runs a session in a directory, on commands or on the standard input. -/
def runSession (display : Display) (setup : Setup) (columns : Nat) (arguments : Arguments)
    (directory input : Text) (files : FileSystem) : Outcome :=
  let registry := standardRegistry setup
  let session : Session := { directory }
  if arguments.commands.isEmpty then
    let world : World := { files, session, output := [], reader := .terminal input }
    Outcome.ofResult display columns (display.panel columns programName bannerText)
      (Interpreter.run setup registry world)
  else
    let world : World := { files, session, output := [], reader := .stream input }
    Outcome.ofResult display columns []
      ((do runCommands setup registry arguments.commands; return 0 : Shell Nat) world)

/-- The outcome of a run that has to refuse its settings. -/
def refuseSettings (display : Display) (columns : Nat) (fault : SettingsFault) (input : Text)
    (files : FileSystem) : Outcome :=
  match display.notice columns ("[red]Error:[/red] " ++ fault.message) with
  | .ok errors => { ending := .status 2, errors, files, unread := input }
  | .error fault => { ending := .brokenOff (.markup fault), files, unread := input }

/-- Runs the program with settings on a screen with so many columns. -/
def runWith (display : Display) (host : Host) (columns : Nat) (settings : Settings)
    (arguments : Arguments) (input : Text) (files : FileSystem) : Outcome :=
  match settings.level arguments.logLevel with
  | .error fault => refuseSettings display columns fault input files
  | .ok _ =>
      match settings.startIn host files arguments.directory with
      | .error .nullByte => { ending := .brokenOff (.session .nullByte), files, unread := input }
      | .error .noWorkingDirectory =>
          { ending := .brokenOff (.session .noWorkingDirectory), files, unread := input }
      | .error fault => refuseSettings display columns fault input files
      | .ok directory =>
          let setup : Setup := { host, sentinel := settings.sentinel }
          runSession display setup columns arguments directory input files

/-- Runs the program.  Settings that make no sense end it before anything else. -/
def run (host : Host) (environment : Environment) (arguments : List Text) (input : Text)
    (files : FileSystem) (display : Display := {}) : Except SettingsFault Outcome := do
  let settings ← Settings.ofEnvironment (files.workingPath?.getD "/") environment
  let width := textWidth (usageColumns environment)
  match read arguments with
  | .help => return { ending := .exited 0, output := help width, files, unread := input }
  | .refused fault =>
      return { ending := .exited 2, errors := refusal width fault, files, unread := input }
  | .run arguments =>
      match display.columns environment with
      | .error fault => return { ending := .brokenOff (.screenSize fault), files, unread := input }
      | .ok columns => return runWith display host columns settings arguments input files

end CommandLine

end LineShell
