/-!
Path texts: their components, joining two paths, and the directory a path lies in.
-/

namespace ScriptBinding.Files

def components (path : String) : List (List Char) := path.toList.splitOn '/'

def isAbsolute (path : String) : Bool := path.toList.head? = some '/'

def join (base path : String) : String :=
  if isAbsolute path then path
  else if base.isEmpty || base.toList.getLast? = some '/' then base ++ path
  else base ++ "/" ++ path

/-- The text before the last component of a path, without slashes at its end unless it has nothing
else, and the last component. -/
def splitLast (path : List Char) : List Char × List Char :=
  let last := (path.reverse.takeWhile (· ≠ '/')).reverse
  let front := path.reverse.dropWhile (· ≠ '/')
  let bare := front.dropWhile (· = '/')
  ((if bare.isEmpty then front else bare).reverse, last)

/-- As `splitLast`, but slashes at the end of the path do not count. -/
def parentAndName (path : List Char) : List Char × List Char :=
  let (front, last) := splitLast path
  if last.isEmpty then splitLast front else (front, last)

end ScriptBinding.Files
