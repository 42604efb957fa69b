/-! Paths as texts: joined, and taken apart without looking at any file. -/

namespace Enforcement.Files

/-- Drops what does not change a path from the end of it, which is written backwards. -/
def dropIdle : List Char → List Char
  | [] => []
  | ['/'] => ['/']
  | '/' :: rest => dropIdle rest
  | '.' :: '/' :: rest => dropIdle ('/' :: rest)
  | path => path

def fileName? (path : String) : Option String :=
  let name := ((dropIdle path.toList.reverse).takeWhile (· != '/')).reverse
  if name.isEmpty || name == ['.'] || name == ['.', '.'] then none else some (String.ofList name)

/-- The path without its last component; empty when there is only one. -/
def parent? (path : String) : Option String :=
  match dropIdle path.toList.reverse with
  | [] => none
  | ['/'] => none
  | backwards => some (String.ofList (dropIdle (backwards.dropWhile (· != '/'))).reverse)

def isAbsolute (path : String) : Bool := path.toList.head? == some '/'

/-- A path below a directory; an absolute path stays as it is. -/
def join (base path : String) : String :=
  if isAbsolute path || base.isEmpty then path
  else if base.toList.getLast? == some '/' then base ++ path
  else base ++ "/" ++ path

def names (path : List Char) : List String :=
  go path []
where
  go : List Char → List Char → List String
    | [], name => [String.ofList name.reverse]
    | c :: rest, name =>
      if c = '/' then String.ofList name.reverse :: go rest [] else go rest (c :: name)

end Enforcement.Files
