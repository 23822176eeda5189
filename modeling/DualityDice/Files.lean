import DualityDice.Text.Utf8

namespace DualityDice

/-- The files around a program: the names of the directories that it runs in,
the innermost first, and the contents of the regular files that paths name. A
path begins at the top if it is full, else in the innermost directory. -/
structure Files where
  place : List Text
  contents? : Text → Option Bytes

namespace Files

def isFull (path : Text) : Bool :=
  path.head? == some '/'

def fullPath (place : List Text) (path : Text) : Text :=
  place.foldl (fun path name => '/' :: name ++ path) ('/' :: path)

def outwards (path : Text) : List Text → List Text
  | [] => [fullPath [] path]
  | name :: place => fullPath (name :: place) path :: outwards path place

def attempts (place : List Text) (path : Text) : List Text :=
  if isFull path then [path] else outwards path place

/-- The contents of the first file that a full path for the given one names.
There may be none although the path itself names a file: a full path is longer,
and a system bounds the length of paths. -/
def find? (files : Files) (path : Text) : Option Bytes :=
  (attempts files.place path).findSome? files.contents?

end Files

end DualityDice
