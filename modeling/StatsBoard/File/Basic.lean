/-!
# Files

How files are reached. What is done with them is written for any monad in which they can be read
and written, so that the same steps run on the files of a machine and on a tree of files that is a
value.
-/

namespace StatsBoard

/-- Why a file cannot be read or written. -/
inductive FileFault where
  | notFound
  /-- A file stands where a directory should. -/
  | notDirectory
  /-- A directory stands where a file should. -/
  | isDirectory
  | alreadyExists
  | other (reason : String)
deriving DecidableEq, Repr

namespace FileFault

/-- What is said of a fault. -/
def message : FileFault → String
  | notFound => "No such file or directory (os error 2)"
  | notDirectory => "Not a directory (os error 20)"
  | isDirectory => "Is a directory (os error 21)"
  | alreadyExists => "File exists (os error 17)"
  | other reason => reason

end FileFault

/-- What can be done with files. -/
structure Disk (m : Type → Type) where
  /-- The text of a file. -/
  read : String → m (Except FileFault String)
  /-- Replace a file by a text. -/
  write : String → String → m (Except FileFault Unit)
  /-- Add a text at the end of a file, which is made if it is missing. -/
  append : String → String → m (Except FileFault Unit)
  /-- Make a directory and all those that it stands in, as far as they are missing. -/
  makeDirectories : String → m (Except FileFault Unit)

namespace FilePath

/-- The path of an entry of a directory. -/
def join (directory name : String) : String :=
  if directory = "" ∨ directory.toList.getLast? = some '/' then directory ++ name
  else directory ++ "/" ++ name

end FilePath

end StatsBoard
