/-!
# Why the operating system refuses

The errors of the operating system that can arise, each with its number and its text, and the
reasons that are none of its errors.
-/

namespace RoundTrip

/-- An error of the operating system. -/
inductive Errno where
  | noEntry | argumentListTooLong | execFormat | accessDenied | fileExists | notDirectory
  | isDirectory | nameTooLong | directoryNotEmpty | tooManyLinks
  deriving DecidableEq, Inhabited

namespace Errno

/-- The number of an error. -/
def number : Errno → Nat
  | .noEntry => 2
  | .argumentListTooLong => 7
  | .execFormat => 8
  | .accessDenied => 13
  | .fileExists => 17
  | .notDirectory => 20
  | .isDirectory => 21
  | .nameTooLong => 36
  | .directoryNotEmpty => 39
  | .tooManyLinks => 40

/-- What an error is called. -/
def phrase : Errno → String
  | .noEntry => "No such file or directory"
  | .argumentListTooLong => "Argument list too long"
  | .execFormat => "Exec format error"
  | .accessDenied => "Permission denied"
  | .fileExists => "File exists"
  | .notDirectory => "Not a directory"
  | .isDirectory => "Is a directory"
  | .nameTooLong => "File name too long"
  | .directoryNotEmpty => "Directory not empty"
  | .tooManyLinks => "Too many levels of symbolic links"

end Errno

/-- Why a file or a program cannot be used. -/
inductive Reason where
  /-- The operating system says so. -/
  | errno (error : Errno)
  /-- A program name or an argument holds a zero byte. -/
  | zeroInArgument
  /-- A file name holds a zero byte. -/
  | zeroInFileName
  /-- The content of the file is no text. -/
  | notText
  /-- Another reason, given by its text. -/
  | stated (text : String)
  deriving DecidableEq, Inhabited

/-- What messages call a reason. -/
def Reason.text : Reason → String
  | .errno error => error.phrase ++ " (os error " ++ toString error.number ++ ")"
  | .zeroInArgument => "nul byte found in provided data"
  | .zeroInFileName => "file name contained an unexpected NUL byte"
  | .notText => "stream did not contain valid UTF-8"
  | .stated text => text

end RoundTrip
