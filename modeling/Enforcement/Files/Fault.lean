/-! Reasons why a path cannot be read, written or created. -/

namespace Enforcement.Files

inductive Fault where
  | notFound
  | permission
  | alreadyExists
  | notDirectory
  | isDirectory
  | nameTooLong
  | nameWithNul
  | notText
  deriving DecidableEq, Repr, Inhabited

def Fault.message : Fault → String
  | notFound => "No such file or directory (os error 2)"
  | permission => "Permission denied (os error 13)"
  | alreadyExists => "File exists (os error 17)"
  | notDirectory => "Not a directory (os error 20)"
  | isDirectory => "Is a directory (os error 21)"
  | nameTooLong => "File name too long (os error 36)"
  | nameWithNul => "file name contained an unexpected NUL byte"
  | notText => "stream did not contain valid UTF-8"

end Enforcement.Files
