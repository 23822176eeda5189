import DualityDice.Files

namespace DualityDice

/-- A directory and all below it: its own name and those of the directories
around it, the innermost first, and the paths of files from this directory on
with their contents, in the order in which they were written. A file takes the
place of an earlier one that its path leads to. -/
structure Directory where
  place : List Text
  files : List (Text × Bytes)

namespace Directory

/-- The steps of a path that count: empty steps and single full stops stay
where they are. -/
def steps (path : Text) : List Text :=
  (path.splitAll '/').filter fun step => step ≠ [] ∧ step ≠ ['.']

def next? (place : List Text) (step : Text) : Option (List Text) :=
  if step = ['.', '.'] then if place.isEmpty then none else some place.dropLast
  else some (place ++ [step])

/-- The places that steps lead through from a place before the last one, and
the last one. -/
def walk? : List Text → List Text → Option (List (List Text) × List Text)
  | place, [] => some ([], place)
  | place, step :: rest => do
      let next ← next? place step
      let (passed, last) ← walk? next rest
      some (place :: passed, last)

def route? (path : Text) : Option (List (List Text) × List Text) :=
  walk? [] (steps path)

def isDirectory (directory : Directory) (place : List Text) : Bool :=
  place.isEmpty ||
    directory.files.any fun (path, _) =>
      (route? path).any fun (passed, _) => passed.contains place

/-- The contents of the file at a place: of those written there, the last. -/
def fileAt? (directory : Directory) (place : List Text) : Option Bytes :=
  (directory.files.reverse.find? fun (path, _) =>
    (route? path).any fun (_, last) => last = place).map Prod.snd

def endsInDirectory (path : Text) : Bool :=
  match (path.splitAll '/').getLast? with
  | some step => step = [] ∨ step = ['.']
  | none => true

/-- A path as it goes on from this directory. A full path has to lead through
the directory. -/
def within? (directory : Directory) (path : Text) : Option Text :=
  if Files.isFull path then path.dropStart? (Files.fullPath directory.place [])
  else some path

/-- A path takes fewer bytes than this, or it names nothing. -/
def pathLimit : Nat := 4096

/-- The contents of the regular file that a path names. All that the path leads
through has to be directories. -/
def contents? (directory : Directory) (path : Text) : Option Bytes :=
  if endsInDirectory path ∨ pathLimit ≤ Text.byteCount path then none
  else do
    let path ← directory.within? path
    let (passed, last) ← route? path
    if passed.all directory.isDirectory then directory.fileAt? last else none

def toFiles (directory : Directory) : Files where
  place := directory.place
  contents? := directory.contents?

end Directory

end DualityDice
