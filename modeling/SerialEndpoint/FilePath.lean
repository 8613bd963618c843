/-
Names of files and directories as texts of segments between slashes.

A name is kept as it was written; only `parent?` looks past repeated
slashes and single dots, which say nothing about where a file is.
-/

namespace SerialEndpoint.FilePath

/-- True of a name that starts at the root. -/
def isAbsolute (path : String) : Bool := path.toList.head? == some '/'

/-- A name taken from a base directory: an absolute name stays as it is,
any other is put after the base, with a slash between them where the base
does not end in one. -/
def join (base path : String) : String :=
  if isAbsolute path then path
  else if base.isEmpty || base.toList.getLast? == some '/' then base ++ path
  else base ++ "/" ++ path

/-- The texts between the slashes of a name. -/
def split (path : List Char) : List (List Char) :=
  match path with
  | [] => [[]]
  | c :: rest =>
    if c = '/' then [] :: split rest
    else match split rest with
      | [] => [[c]]
      | first :: more => (c :: first) :: more

/-- The segments of a name: what stands between its slashes, without
empty texts. -/
def segments (path : String) : List String :=
  ((split path.toList).filter (· ≠ [])).map String.ofList

/-- A name without what adds nothing at its end: slashes after the first
character, and single dots that are a segment of their own after another
one. Written on the reversed name. -/
def dropIdleEnd : List Char → List Char
  | '/' :: c :: rest => dropIdleEnd (c :: rest)
  | '.' :: '/' :: rest => dropIdleEnd ('/' :: rest)
  | path => path

/-- The directory that a name lies in: the name without its last segment.
The root and the empty name lie in none; a name of one segment lies in
the empty name. -/
def parent? (path : String) : Option String :=
  let reversed := dropIdleEnd path.toList.reverse
  match reversed with
  | [] | ['/'] => none
  | reversed =>
    let above := reversed.dropWhile (· ≠ '/')
    some (String.ofList (dropIdleEnd above).reverse)

end SerialEndpoint.FilePath
