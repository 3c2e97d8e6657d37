/-! Paths as they are spelled, and why a disk refuses one. -/

namespace Querent

/-- Why the disk refuses something. -/
inductive DiskFault
  | missing
  | present
  | notDirectory
  | isDirectory
  | tooLong
  | zeroCharacter
  /-- Anything else, such as a right that is missing or a medium that fails, in the words of the
  system. -/
  | other (message : String)
deriving DecidableEq, Repr

/-- The wording of a disk fault, which is that of Linux and of its numbers. -/
def DiskFault.message : DiskFault → String
  | missing => "No such file or directory (os error 2)"
  | present => "File exists (os error 17)"
  | notDirectory => "Not a directory (os error 20)"
  | isDirectory => "Is a directory (os error 21)"
  | tooLong => "File name too long (os error 36)"
  | zeroCharacter => "file name contained an unexpected NUL byte"
  | other message => message

/-- What stands between the slashes of a path: names, single and double dots, or nothing. -/
abbrev Path := List String

/-- Runs of characters between slashes. -/
def slashRuns : List Char → List (List Char)
  | [] => [[]]
  | '/' :: rest => [] :: slashRuns rest
  | c :: rest =>
    match slashRuns rest with
    | [] => [[c]]
    | run :: others => (c :: run) :: others

/-- The path that a text spells. -/
def pathOf (text : String) : Path :=
  (slashRuns text.toList).map String.ofList

/-- Whether a step of a path stays where it is. -/
def staysPut (step : String) : Bool :=
  step == "" || step == "."

namespace Path

/-- The most bytes of a name. -/
def nameLimit : Nat := 255

/-- The most bytes of a path, with the zero byte that ends it. -/
def sizeLimit : Nat := 4096

/-- How many bytes spell a path, with a slash behind each step or the zero byte that ends it. -/
def size : Path → Nat
  | [] => 0
  | step :: rest => step.utf8ByteSize + 1 + size rest

/-- Why a path leads nowhere on any disk. -/
def fault? (path : Path) : Option DiskFault :=
  if path.any fun step => step.toList.contains '\x00' then some .zeroCharacter
  else if sizeLimit < size path then some .tooLong
  else none

/-- A path without the slashes that end it. -/
def withoutEnd (path : Path) : Path :=
  (path.reverse.dropWhile (· == "")).reverse

/-- The names and double dots of a path. -/
def names (path : Path) : List String :=
  path.filter fun step => !staysPut step

end Path

end Querent
