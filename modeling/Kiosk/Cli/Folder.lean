/-!
# Files

What the command line needs of a file system: to read a file as text, or to say
why that is not possible. `Folder` is a tree of directories and files in memory.
A relative path starts in a folder, of whose surroundings no more is known than
that there are directories above it. An absolute path starts at the root of the
system, where no more is known than what every system has (`Folder.system`).
-/

namespace Kiosk.Cli

/-- Why a file cannot be read. -/
inductive FileError where
  | notFound
  | notADirectory
  | isADirectory
  /-- The path, or a name in it, is longer than the system takes. -/
  | nameTooLong
  | notText
  /-- Any other reason, in the words of the system. -/
  | other (reason : String)
  deriving DecidableEq, Repr

/-- The text for a file that cannot be read. -/
def FileError.message : FileError → String
  | .notFound => "No such file or directory (os error 2)"
  | .notADirectory => "Not a directory (os error 20)"
  | .isADirectory => "Is a directory (os error 21)"
  | .nameTooLong => "File name too long (os error 36)"
  | .notText => "stream did not contain valid UTF-8"
  | .other reason => reason

/-- The parts of a path between slashes. -/
def pathParts (path : String) : List String :=
  path.splitOn "/"

/-- How many bytes a name in a path may have. -/
def longestName : Nat := 255

/-- How many bytes a path may have. -/
def longestPath : Nat := 4095

/-- Whether a name in a path stays in a directory or goes up from it. -/
def isDots (name : String) : Bool :=
  name = "" || name = "." || name = ".."

/-- Where a name leads from a directory. -/
def enter (here : List String) (name : String) : List String :=
  if name = ".." then here.dropLast else if isDots name then here else here ++ [name]

/-- Directories and files in memory, under paths given by the names in them. -/
structure Folder where
  /-- Whether nothing is above the folder. -/
  isRoot : Bool
  /-- The directories in the folder, without the folder itself. -/
  directories : List (List String)
  files : List (List String × ByteArray)

namespace Folder

/-- Adds a file at a path from the directory `here`, and the directories on the way. -/
def add (bytes : ByteArray) (here : List String) : List String → Folder → Folder
  | [], f => f
  | [name], f => { f with files := (enter here name, bytes) :: f.files }
  | name :: names, f =>
    let here := enter here name
    add bytes here names { f with directories := here :: f.directories }

/-- A folder of the files with the given paths. -/
def ofList (files : List (String × ByteArray)) : Folder :=
  files.foldl (fun f (path, bytes) => f.add bytes [] (pathParts path)) ⟨false, [], []⟩

/-- What every system has: its top directories, and the empty device. -/
def system : Folder where
  isRoot := true
  directories := ["bin", "boot", "dev", "etc", "home", "lib", "media", "mnt", "opt", "proc",
    "root", "run", "sbin", "srv", "sys", "tmp", "usr", "var"].map ([·])
  files := [(["dev", "null"], .empty)]

/-- Whether a path is that of a directory. -/
def isDirectory (f : Folder) (path : List String) : Bool :=
  path.isEmpty || f.directories.contains path

/-- Why the path of the given names from above a folder cannot be read. -/
def above (names : List String) : FileError :=
  match names.find? (!isDots ·) with
  | none => .isADirectory
  | some name => if longestName < name.utf8ByteSize then .nameTooLong else .notFound

/-- The path reached by following names from a directory. Every name but the last must be
that of a directory. -/
def follow (f : Folder) (here : List String) : List String → Except FileError (List String)
  | [] => .ok here
  | name :: names =>
    if (f.files.lookup here).isSome then .error .notADirectory
    else if !f.isDirectory here then .error .notFound
    else if name = ".." ∧ here.isEmpty ∧ !f.isRoot then .error (above names)
    else if longestName < name.utf8ByteSize then .error .nameTooLong
    else f.follow (enter here name) names

/-- The text of the file that is reached by following names. -/
def readParts (f : Folder) (names : List String) : Except FileError String := do
  let found ← f.follow [] names
  match f.files.lookup found with
  | some bytes =>
    match String.fromUTF8? bytes with
    | some text => return text
    | none => .error .notText
  | none => if f.isDirectory found then .error .isADirectory else .error .notFound

/-- The text of the file with the given path. -/
def read (f : Folder) (path : String) : Except FileError String :=
  if path = "" then .error .notFound
  else if longestPath < path.utf8ByteSize then .error .nameTooLong
  else if path.startsWith "/" then system.readParts (pathParts path)
  else f.readParts (pathParts path)

end Folder

end Kiosk.Cli
