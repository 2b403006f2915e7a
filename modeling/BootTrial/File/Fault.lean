/-!
# File faults

Why the file system refuses an operation, and the words in which it says so.
-/

namespace BootTrial

/-- A refusal of the file system. -/
inductive FileFault where
  /-- Nothing is there. -/
  | notFound
  /-- Something is there already. -/
  | alreadyExists
  /-- A part of the path, or its end, is no directory. -/
  | notDirectory
  /-- A directory stands where a file is wanted. -/
  | isDirectory
  /-- The path makes no sense for the operation, as when a directory is to move into itself. -/
  | invalidArgument
  /-- A directory entry that cannot be renamed, such as `..`. -/
  | busy
  /-- A name of more than 255 octets, or a path of more than 4095. -/
  | nameTooLong
  /-- The directory still holds entries. -/
  | notEmpty
  /-- A program without a form the machine can run. -/
  | notRunnable
  /-- A file that may not be run, or no file at all, where a program is wanted. -/
  | permissionDenied
  /-- A program that is to be run by a program that is to be run by another, and so on. -/
  | tooManyLevels
  /-- A NUL in a path. -/
  | nulInPath
  /-- A file that was to hold text does not. -/
  | notText
  deriving DecidableEq, Repr

/-- The words of a refusal. -/
def FileFault.words : FileFault → String
  | .notFound => "No such file or directory"
  | .notRunnable => "Exec format error"
  | .permissionDenied => "Permission denied"
  | .busy => "Device or resource busy"
  | .alreadyExists => "File exists"
  | .notDirectory => "Not a directory"
  | .isDirectory => "Is a directory"
  | .invalidArgument => "Invalid argument"
  | .nameTooLong => "File name too long"
  | .notEmpty => "Directory not empty"
  | .tooManyLevels => "Too many levels of symbolic links"
  | .nulInPath => "file name contained an unexpected NUL byte"
  | .notText => "stream did not contain valid UTF-8"

/-- The number that the system has for a refusal. -/
def FileFault.number? : FileFault → Option Nat
  | .notFound => some 2
  | .notRunnable => some 8
  | .permissionDenied => some 13
  | .busy => some 16
  | .alreadyExists => some 17
  | .notDirectory => some 20
  | .isDirectory => some 21
  | .invalidArgument => some 22
  | .nameTooLong => some 36
  | .notEmpty => some 39
  | .tooManyLevels => some 40
  | .nulInPath | .notText => none

/-- A refusal as it is reported: its words, with its number where it has one. -/
def FileFault.message (fault : FileFault) : String :=
  fault.words ++
    match fault.number? with
    | some n => " (os error " ++ toString n ++ ")"
    | none => ""

end BootTrial
