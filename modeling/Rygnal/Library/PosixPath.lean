import Rygnal.Library.PyText

/-! # Pure POSIX paths and glob patterns

The components of a `PurePosixPath` and `fnmatch.fnmatchcase`, over lists of code points.
-/

namespace Rygnal.Library.PosixPath
open Rygnal.Library.PyText

def isAbsolute (path : Text) : Bool := path.head? = some '/'

/-- `PurePosixPath(path).parts` below the root. -/
def parts (path : Text) : List Text := (splitOn '/' path).filter fun part => part ≠ [] ∧ part ≠ ['.']

/-- `PurePosixPath(path).name`. -/
def name (path : Text) : Text := (parts path).getLastD []

/-- `.stem` and `.suffix` of a name: a dot at either end starts no suffix. -/
def splitSuffix (name : Text) : Text × Text :=
  let extension := (name.reverse.takeWhile (· != '.')).reverse
  match name.reverse.dropWhile (· != '.') with
  | _ :: c :: before =>
    if extension = [] then (name, []) else ((c :: before).reverse, '.' :: extension)
  | _ => (name, [])

def stem (path : Text) : Text := (splitSuffix (name path)).1

def suffix (path : Text) : Text := (splitSuffix (name path)).2

/-- `fnmatch.fnmatchcase` for a pattern without character classes. -/
def fnmatchcase : Text → Text → Bool
  | [], path => path.isEmpty
  | '*' :: pattern, path => path.tails.any (fnmatchcase pattern)
  | _ :: _, [] => false
  | p :: pattern, c :: path => (p = '?' || p = c) && fnmatchcase pattern path

end Rygnal.Library.PosixPath
