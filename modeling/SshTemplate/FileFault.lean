/-!
# `FileFault` — why a file could not be used

The causes an operation on files can fail with, apart from the operation that failed. The wording
is the operating system's, number included, because users meet it unchanged at the end of an error
report.
-/

set_option autoImplicit false

namespace SshTemplate

inductive FileFault where
  | notFound
  | busy
  | alreadyExists
  | notADirectory
  | isADirectory
  | invalidArgument
  | directoryNotEmpty
  | nameTooLong
  /-- The content was to be read as text and is not UTF-8. -/
  | notText
  /-- A path with a NUL character names nothing. -/
  | nulInPath
  deriving DecidableEq

def FileFault.message : FileFault → String
  | notFound => "No such file or directory (os error 2)"
  | busy => "Device or resource busy (os error 16)"
  | alreadyExists => "File exists (os error 17)"
  | notADirectory => "Not a directory (os error 20)"
  | isADirectory => "Is a directory (os error 21)"
  | invalidArgument => "Invalid argument (os error 22)"
  | directoryNotEmpty => "Directory not empty (os error 39)"
  | nameTooLong => "File name too long (os error 36)"
  | notText => "stream did not contain valid UTF-8"
  | nulInPath => "file name contained an unexpected NUL byte"

end SshTemplate
