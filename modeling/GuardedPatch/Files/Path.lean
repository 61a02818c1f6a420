set_option autoImplicit false

/-! # Paths

A path is a text whose parts are divided by slashes. Empty parts and single dots do not count when a path is taken
apart, except for a dot in front. The parent of a path is what is left of it without its last part. -/

namespace GuardedPatch.Files

/-- The parts of a path, empty ones included. -/
def parts (path : String) : List String :=
  go [] path.toList
where
  /-- The parts from here on, after the characters of the current part in reverse. -/
  go (current : List Char) : List Char → List String
    | [] => [String.ofList current.reverse]
    | '/' :: rest => String.ofList current.reverse :: go [] rest
    | c :: rest => go (c :: current) rest

/-- Drops slashes at the front of a reversed path, and dots that are a part of their own but not the first one. -/
def dropIdle : List Char → List Char
  | '/' :: rest => dropIdle rest
  | '.' :: '/' :: rest => dropIdle rest
  | cs => cs

/-- The text of the path without its last part: empty for a path of one part, nothing for a path without parts. -/
def parent? (path : String) : Option String :=
  match dropIdle path.toList.reverse with
  | [] => none
  | cs =>
    match cs.dropWhile (· != '/') with
    | [] => some ""
    | rest =>
      match dropIdle rest with
      | [] => some "/"
      | text => some (String.ofList text.reverse)

/-- The parts of a path that lead somewhere: none that are empty or single dots. -/
def steps (path : String) : List String :=
  (parts path).filter fun p => p != "" && p != "."

/-- The place that a path leads to if every step back is taken off the text. -/
def settled (path : String) : List String :=
  (steps path).foldl (fun place p => if p = ".." then place.dropLast else place ++ [p]) []

end GuardedPatch.Files
