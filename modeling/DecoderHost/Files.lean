/-!
What can go wrong with files.
-/

namespace DecoderHost

/-- Why a step on the file system failed. -/
inductive FileFault where
  | notFound | exists | notDirectory | isDirectory | nameTooLong | invalidPath
  | other (reason : String)
  deriving DecidableEq, Repr

/-- The wording of a failed step. -/
def FileFault.message : FileFault → String
  | notFound => "No such file or directory (os error 2)"
  | «exists» => "File exists (os error 17)"
  | notDirectory => "Not a directory (os error 20)"
  | isDirectory => "Is a directory (os error 21)"
  | nameTooLong => "File name too long (os error 36)"
  | invalidPath => "file name contained an unexpected NUL byte"
  | other reason => reason

/-- The contents of the file at a path. -/
abbrev FileReader := String → Except FileFault (List UInt8)

end DecoderHost
