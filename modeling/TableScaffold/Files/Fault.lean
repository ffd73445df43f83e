import TableScaffold.Text.Basic

/-!
# Why a file cannot be used

A file operation fails for one of a few reasons; the wording is the one that the
operating system gives, with its number.
-/

namespace TableScaffold

/-- Why a file or directory cannot be read, written or made. -/
inductive FileFault where
  /-- nothing is there -/
  | notFound
  /-- something is there already -/
  | alreadyExists
  /-- a file stands where a directory is wanted -/
  | notDirectory
  /-- a directory stands where a file is wanted -/
  | isDirectory
  /-- a name or the whole path is too long -/
  | nameTooLong
  /-- a path with the character of code 0 -/
  | nulInName
  /-- a file that is to hold a text does not -/
  | invalidText
  /-- any other reason, as the system words it -/
  | other (message : Text)
  deriving DecidableEq, Repr

/-- The wording of a fault. -/
def FileFault.message : FileFault → Text
  | notFound => "No such file or directory (os error 2)".toList
  | alreadyExists => "File exists (os error 17)".toList
  | notDirectory => "Not a directory (os error 20)".toList
  | isDirectory => "Is a directory (os error 21)".toList
  | nameTooLong => "File name too long (os error 36)".toList
  | nulInName => "file name contained an unexpected NUL byte".toList
  | invalidText => "stream did not contain valid UTF-8".toList
  | other message => message

end TableScaffold
