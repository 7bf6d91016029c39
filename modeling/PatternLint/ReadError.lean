/-! Why a file could not be read as text. -/

namespace PatternLint

inductive ReadError where
  | notFound
  | notDirectory
  | isDirectory
  | notUtf8
  | denied
  | noDevice
  deriving Repr, DecidableEq

def ReadError.message : ReadError → String
  | .notFound => "No such file or directory (os error 2)"
  | .notDirectory => "Not a directory (os error 20)"
  | .isDirectory => "Is a directory (os error 21)"
  | .notUtf8 => "stream did not contain valid UTF-8"
  | .denied => "Permission denied (os error 13)"
  | .noDevice => "No such device or address (os error 6)"

end PatternLint
