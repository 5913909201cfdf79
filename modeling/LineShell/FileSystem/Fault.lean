import LineShell.Text.Quoted

/-!
# What can go wrong with files

The causes for which the system refuses a path, the faults that an operation ends in, and the one
wording of each.
-/

namespace LineShell

/-- Why the system refuses an operation on a path. -/
inductive Cause where
  | noEntry
  | unavailable
  | busy
  | taken
  | otherDevice
  | notDirectory
  | isDirectory
  | invalid
  | noSpace
  | nameTooLong
  | notEmpty
  | linkLoop
  deriving DecidableEq

namespace Cause

/-- The number that the system gives a cause. -/
def number : Cause → Nat
  | .noEntry => 2
  | .unavailable => 6
  | .busy => 16
  | .taken => 17
  | .otherDevice => 18
  | .notDirectory => 20
  | .isDirectory => 21
  | .invalid => 22
  | .noSpace => 28
  | .nameTooLong => 36
  | .notEmpty => 39
  | .linkLoop => 40

/-- What the system says of a cause. -/
def text : Cause → Text
  | .noEntry => "No such file or directory"
  | .unavailable => "No such device or address"
  | .busy => "Device or resource busy"
  | .taken => "File exists"
  | .otherDevice => "Invalid cross-device link"
  | .notDirectory => "Not a directory"
  | .isDirectory => "Is a directory"
  | .invalid => "Invalid argument"
  | .noSpace => "No space left on device"
  | .nameTooLong => "File name too long"
  | .notEmpty => "Directory not empty"
  | .linkLoop => "Too many levels of symbolic links"

end Cause

/-- What an operation on files ends in when it fails. -/
inductive Fault where
  /-- The system refused a path. -/
  | system (cause : Cause) (path : Text)
  /-- The machine broke off what was written to an opened file. -/
  | brokenOff
  /-- The same in the course of a copy. -/
  | copyBrokenOff (source target : Text)
  /-- Source and target of a copy are one file. -/
  | sameFile (source target : Text)
  /-- A named pipe cannot be copied from or to. -/
  | namedPipe (path : Text)
  /-- A file was to be copied to a missing name that is spelled as a directory. -/
  | noDirectory (path : Text)
  /-- A walk through a directory tree went deeper than it was allowed to. -/
  | tooDeep (path : Text)
  /-- A path holds the null character, which the system cannot be handed. -/
  | nullByte
  /-- A path was to be made absolute, and the working directory was removed. -/
  | noWorkingDirectory
  /-- The same in the course of a copy. -/
  | copyUnplaced
  /-- The same for the entries of a directory that were to be described. -/
  | listingUnplaced (path : Text)
  /-- The directory to list does not exist. -/
  | noListing (path : Text)
  /-- The path to list is not a directory. -/
  | notListing (path : Text)
  /-- The file to read does not exist. -/
  | noFile (path : Text)
  /-- The file to read is a directory. -/
  | fileIsDirectory (path : Text)
  /-- The entry to copy or move does not exist. -/
  | noSource (path : Text)
  /-- A directory was to be copied to a place within itself. -/
  | copyIntoItself (path : Text)
  /-- A directory was to be moved to a place within itself. -/
  | moveIntoItself (path : Text)
  /-- The copy that stands for a move was made, but its source could not be removed. -/
  | sourceKept (path : Text)
  /-- The entry to describe has no path. -/
  | emptyPath
  /-- The entry to describe does not exist. -/
  | noPath (path : Text)
  deriving DecidableEq

namespace Fault

/-- What the system says of a cause where it names no path. -/
def bare (cause : Cause) : Text :=
  "[Errno " ++ Text.ofNat cause.number ++ "] " ++ cause.text

/-- What the system says where the working directory was removed. -/
def unplaced : Text :=
  bare .noEntry

/-- The wording of a fault. -/
def message : Fault → Text
  | .system cause path => bare cause ++ ": " ++ Text.quoted path
  | .brokenOff => bare .noSpace
  | .copyBrokenOff source target =>
      bare .noSpace ++ ": " ++ Text.quoted source ++ " -> " ++ Text.quoted target
  | .sameFile source target =>
      Text.quoted source ++ " and " ++ Text.quoted target ++ " are the same file"
  | .namedPipe path => "`" ++ path ++ "` is a named pipe"
  | .noDirectory path => "Directory does not exist: " ++ path
  | .tooDeep path => "[Errno 36] File name too long: " ++ Text.quoted path
  | .nullByte => "embedded null byte"
  | .noWorkingDirectory | .copyUnplaced => unplaced
  | .listingUnplaced path => "Failed to list entries in " ++ path ++ ": " ++ unplaced
  | .noListing path => "Directory does not exist: " ++ path
  | .notListing path => "Path is not a directory: " ++ path
  | .noFile path => "File does not exist: " ++ path
  | .fileIsDirectory path => "Path is a directory: " ++ path
  | .noSource path => "Source does not exist: " ++ path
  | .copyIntoItself path => "Cannot copy a directory into itself: " ++ path
  | .moveIntoItself path => "Cannot move a directory into itself: " ++ path
  | .sourceKept path => "Copied but failed to remove source: " ++ path
  | .emptyPath => "Path must be a non-empty string"
  | .noPath path => "Path does not exist: " ++ path

/-- Whether a fault says that what an operation was asked for does not exist. -/
def isNotFound : Fault → Bool
  | .noListing _ | .noFile _ | .noSource _ => true
  | _ => false

end Fault

end LineShell
