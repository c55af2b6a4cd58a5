import Codemod.FileTree
import Codemod.Text.Utf8

/-! Failures that concern one file and do not stop the others. -/

namespace Codemod

inductive FileError where
  | read (path : Path) (cause : IoError)
  | encoding (path : Path) (cause : Utf8.DecodeError)
  | write (path : Path) (cause : IoError)
deriving DecidableEq

namespace FileError

def path : FileError → Path
  | .read p _ => p
  | .encoding p _ => p
  | .write p _ => p

def message : FileError → String
  | .read p cause => "read " ++ p.spelling ++ ": " ++ cause.message
  | .encoding p cause => "decode " ++ p.spelling ++ ": not valid UTF-8 (" ++ cause.message ++ ")"
  | .write p cause => "write " ++ p.spelling ++ ": " ++ cause.message

end FileError

end Codemod
