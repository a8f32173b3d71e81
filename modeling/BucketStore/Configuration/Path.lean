namespace BucketStore.Path

/-- The start of an absolute path: two slashes alone are kept apart from any other number. -/
def root (cs : List Char) : List Char :=
  match (cs.takeWhile (· == '/')).length with
  | 0 => []
  | 2 => ['/', '/']
  | _ => ['/']

/-- A path without empty parts and without single dots. -/
def normal (path : String) : String :=
  let cs := path.toList
  let parts := (cs.splitOn '/').filter fun part => !part.isEmpty && part != ['.']
  let text := root cs ++ List.intercalate ['/'] parts
  if text.isEmpty then "." else String.ofList text

end BucketStore.Path
