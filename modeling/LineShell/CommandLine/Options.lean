import LineShell.Text.Digits
import LineShell.Text.Quoted

/-!
# Command line options

The options of the program and how they are found in a list of arguments: by their short or long
name, by the beginning of a long name, with a value after an equals sign, behind a short name or in
the next argument.
-/

namespace LineShell

namespace CommandLine

/-- The options of the program. -/
inductive OptionKind where
  | help
  | directory
  | command
  | logLevel
  deriving DecidableEq

namespace OptionKind

/-- All options in the order in which they are listed. -/
def all : List OptionKind :=
  [.help, .directory, .command, .logLevel]

/-- The names of an option, the short one first. -/
def names : OptionKind → List Text
  | .help => ["-h", "--help"]
  | .directory => ["-d", "--directory"]
  | .command => ["-c", "--command"]
  | .logLevel => ["--log-level"]

/-- What the value of an option is called, if it takes one. -/
def valueName? : OptionKind → Option Text
  | .help => none
  | .directory => some "DIRECTORY"
  | .command => some "COMMANDS"
  | .logLevel => some "LOG_LEVEL"

/-- What an option is for. -/
def description : OptionKind → Text
  | .help => "show this help message and exit"
  | .directory => "Directory the session starts in (default: MINISHELL_START_DIR or cwd)"
  | .command => "Run this line and exit; repeat to run several lines in order"
  | .logLevel => "Logging level (default: MINISHELL_LOG_LEVEL or WARNING)"

/-- The names of an option as messages give them. -/
def label (kind : OptionKind) : Text :=
  Text.joinWith "/" kind.names

end OptionKind

/-- All option names, each with its option. -/
def optionNames : List (Text × OptionKind) :=
  OptionKind.all.flatMap fun kind => kind.names.map fun name => (name, kind)

/-- The option of a name. -/
def optionOf? (name : Text) : Option OptionKind :=
  optionNames.lookup name

/-- An option found in an argument, with the text that is joined to it. -/
structure Found where
  kind : OptionKind
  name : Text
  joined : Option Text := none
  deriving DecidableEq

/-- Whether an option was found by a short name, which other short names can follow. -/
def Found.isShort (found : Found) : Bool :=
  !Text.startsWith found.name "--"

/-- What an argument is by its form. -/
inductive Form where
  /-- An ordinary word. -/
  | word
  /-- The sign that no options follow. -/
  | endOfOptions
  | option (found : Found)
  /-- It looks like an option and is none. -/
  | unknownOption
  deriving DecidableEq

/-- Why a command line is refused. -/
inductive UsageFault where
  | ambiguous (argument : Text) (names : List Text)
  | needsValue (kind : OptionKind)
  | takesNoValue (kind : OptionKind) (value : Text)
  | unrecognized (arguments : List Text)
  deriving DecidableEq

/-- The wording of a refused command line. -/
def UsageFault.message : UsageFault → Text
  | .ambiguous argument names =>
      "ambiguous option: " ++ argument ++ " could match " ++ Text.joinWith ", " names
  | .needsValue kind => "argument " ++ kind.label ++ ": expected one argument"
  | .takesNoValue kind value =>
      "argument " ++ kind.label ++ ": ignored explicit argument " ++ value.quoted
  | .unrecognized arguments => "unrecognized arguments: " ++ Text.joinWith " " arguments

/-- An argument split at its first equals sign. -/
def splitEquals (argument : Text) : Text × Option Text :=
  match argument.dropWhile (· != '=') with
  | [] => (argument, none)
  | _ :: value => (argument.takeWhile (· != '='), some value)

/-- Whether a text is a minus sign and a decimal number, which no option looks like. -/
def isNegativeNumber (argument : Text) : Bool :=
  let argument := if Text.endsWith argument "\n" then argument.dropLast else argument
  let isDigit := fun character => (Digits.value? character).isSome
  match argument with
  | '-' :: number =>
      match number.dropWhile isDigit with
      | [] => !number.isEmpty
      | '.' :: decimals => !decimals.isEmpty && decimals.all isDigit
      | _ => false
  | _ => false

/-- The options that an argument can stand for although it is not the exact name of one: those whose
long name it begins, or the one whose short name begins it. -/
def candidates (argument : Text) : List Found :=
  if Text.startsWith argument "--" then
    let (start, value) := splitEquals argument
    optionNames.filterMap fun (name, kind) =>
      if Text.startsWith name start then some { kind, name, joined := value } else none
  else
    optionNames.filterMap fun (name, kind) =>
      if name = argument.take 2 then
        some { kind, name, joined := some (argument.drop 2) }
      else if Text.startsWith name argument then some { kind, name }
      else none

/-- The form of an argument that begins with a dash, is longer and names no option exactly. -/
def formOfInexact (argument : Text) : Except UsageFault Form :=
  match candidates argument with
  | [found] => .ok (.option found)
  | [] =>
      if isNegativeNumber argument || argument.contains ' ' then .ok .word
      else .ok .unknownOption
  | several => .error (.ambiguous argument (several.map (·.name)))

/-- The form of an argument. -/
def formOf (argument : Text) : Except UsageFault Form :=
  if argument = "--" then .ok .endOfOptions
  else if !Text.startsWith argument "-" then .ok .word
  else
    match optionOf? argument with
    | some kind => .ok (.option { kind, name := argument })
    | none =>
        if argument.length = 1 then .ok .word
        else
          match splitEquals argument with
          | (name, some value) =>
              match optionOf? name with
              | some kind => .ok (.option { kind, name, joined := some value })
              | none => formOfInexact argument
          | (_, none) => formOfInexact argument

/-- The forms of all arguments.  Whatever follows the end of the options is a word. -/
def forms : List Text → Except UsageFault (List (Text × Form))
  | [] => .ok []
  | argument :: rest => do
      let form ← formOf argument
      if form = .endOfOptions then
        return (argument, form) :: rest.map fun word => (word, .word)
      else
        return (argument, form) :: (← forms rest)

/-- What the command line asks for.  A value can be given and yet be none: for a directory or a
level that is as if it were not given, but a command stays in its place. -/
structure Arguments where
  directory : Option Text := none
  commands : List (Option Text) := []
  logLevel : Option Text := none
  deriving DecidableEq

/-- The outcome of reading a command line. -/
inductive Reading where
  | run (arguments : Arguments)
  | help
  | refused (fault : UsageFault)
  deriving DecidableEq

/-- The arguments with the value of one more option. -/
def Arguments.set (arguments : Arguments) (kind : OptionKind) (value : Option Text) : Arguments :=
  match kind with
  | .help => arguments
  | .directory => { arguments with directory := value }
  | .command => { arguments with commands := arguments.commands ++ [value] }
  | .logLevel => { arguments with logLevel := value }

/-- What one option argument does. -/
inductive Effect where
  /-- An option got its value from the argument itself. -/
  | setTo (kind : OptionKind) (value : Option Text)
  /-- An option takes the next argument as its value. -/
  | setToNext (kind : OptionKind)
  /-- Help was asked for. -/
  | help
  deriving DecidableEq

/-- The value that a text gives to the option it is joined to.  The sign that no options follow is
taken out of values, so alone it gives none. -/
def joinedValue (text : Text) : Option Text :=
  if text = "--" then none else some text

/-- Checks the short names that are written behind the one for help.  Each of them is an option of
its own, up to the first that takes a value: its value is what is left of the argument, or else the
next word. -/
def checkBehindHelp (hasNext : Bool) : Text → Except UsageFault Unit
  | [] => .ok ()
  | letter :: rest =>
      match optionOf? ['-', letter] with
      | none => .error (.takesNoValue .help (letter :: rest))
      | some .help => checkBehindHelp hasNext rest
      | some kind => if rest.isEmpty && !hasNext then .error (.needsValue kind) else .ok ()

/-- What an option argument does, or why it is refused; `hasNext` tells whether a word follows that
can be taken as a value.  Asking for help wins over whatever is joined to it, as long as that is
well formed. -/
def effectOf (hasNext : Bool) (found : Found) : Except UsageFault Effect :=
  match found.kind, found.joined with
  | .help, none => .ok .help
  | .help, some text => do
      if !found.isShort || text.isEmpty then .error (.takesNoValue .help text)
      checkBehindHelp hasNext text
      return .help
  | kind, some text => .ok (.setTo kind (joinedValue text))
  | kind, none => if hasNext then .ok (.setToNext kind) else .error (.needsValue kind)

/-- Reads the forms of the arguments in turn; what belongs to no option is collected. -/
def readForms : List (Text × Form) → Arguments → List Text → Reading
  | [], arguments, extras =>
      if extras.isEmpty then .run arguments else .refused (.unrecognized extras)
  | (argument, .option found) :: rest, arguments, extras =>
      let hasNext := match rest with
        | (_, .word) :: _ => true
        | _ => false
      match effectOf hasNext found with
      | .error fault => .refused fault
      | .ok .help => .help
      | .ok (.setTo kind value) => readForms rest (arguments.set kind value) extras
      | .ok (.setToNext kind) =>
          match rest with
          | (value, _) :: rest => readForms rest (arguments.set kind (some value)) extras
          | [] => .refused (.unrecognized (extras ++ [argument]))
  | (argument, _) :: rest, arguments, extras => readForms rest arguments (extras ++ [argument])

/-- Reads a command line. -/
def read (arguments : List Text) : Reading :=
  match forms arguments with
  | .error fault => .refused fault
  | .ok forms => readForms forms {} []

end CommandLine

end LineShell
