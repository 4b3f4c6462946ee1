import FunctionScript.Batch

namespace FunctionScript

/-!
# Files

Scripts are files in a tree of directories, in which a name is made of any bytes but
a slash. A path is followed name by name from the working directory: an empty name
and a single dot stay where they are, two dots go back up, and any other name is an
entry of the directory. Only a directory can be followed further, and only a file can
be read.
-/

/-- A file with its bytes, or a directory with its named entries. -/
inductive FileTree where
  | file (bytes : ByteArray)
  | directory (entries : List (List UInt8 × FileTree))

namespace FileTree

/-- Why a path leads to nothing that can be read. -/
inductive Fault where
  | notFound
  | notADirectory
  | isADirectory
  | nameTooLong
  | nulByte
  deriving DecidableEq, Repr

def Fault.message :
    Fault →
    String
  | notFound => "No such file or directory (os error 2)"
  | notADirectory => "Not a directory (os error 20)"
  | isADirectory => "Is a directory (os error 21)"
  | nameTooLong => "File name too long (os error 36)"
  | nulByte => "file name contained an unexpected NUL byte"

def emptyDirectory : FileTree :=
  directory []

instance : Inhabited FileTree :=
  ⟨emptyDirectory⟩

/-- The entry of a name, put in place of an older one of the same name. -/
def putEntry
    (entries : List (List UInt8 × FileTree))
    (name : List UInt8)
    (tree : FileTree) :
    List (List UInt8 × FileTree) :=
  (name, tree) :: entries.filter fun entry => entry.1 != name

/-- Change what stands at the end of a list of names, making the directories that lead there. -/
def alter
    (change : FileTree → FileTree) :
    List (List UInt8) →
    FileTree →
    FileTree
  | [], tree => change tree
  | name :: names, .file _ =>
      directory [(name, alter change names emptyDirectory)]
  | name :: names, .directory entries =>
      let inner := (entries.lookup name).getD emptyDirectory
      directory (putEntry entries name (alter change names inner))

/-- The tree itself if it is a directory, else an empty one. -/
def asDirectory :
    FileTree →
    FileTree
  | .file _ => emptyDirectory
  | .directory entries => directory entries

def slash : UInt8 :=
  0x2F

/-- The name that stands for the directory it is in. -/
def sameDirectory : List UInt8 :=
  [0x2E]

/-- The name that stands for the directory above. -/
def directoryAbove : List UInt8 :=
  [0x2E, 0x2E]

/-- The bytes between slashes. -/
def splitAtSlashes :
    List UInt8 →
    List (List UInt8)
  | [] => [[]]
  | byte :: rest =>
      if byte = slash then
        [] :: splitAtSlashes rest
      else
        match splitAtSlashes rest with
        | [] => [[byte]]
        | name :: names => (byte :: name) :: names

/-- The names of a path between its slashes. -/
def names
    (path : OsText) :
    List (List UInt8) :=
  splitAtSlashes path.bytes.data.toList

def properNames
    (path : OsText) :
    List (List UInt8) :=
  (names path).filter fun name => name != [] && name != sameDirectory

/-- Add a directory at a path, unless the path leads to one already. -/
def addDirectory
    (path : OsText)
    (tree : FileTree) :
    FileTree :=
  alter asDirectory (properNames path) tree

def addFile
    (path : OsText)
    (bytes : ByteArray)
    (tree : FileTree) :
    FileTree :=
  alter (fun _ => .file bytes) (properNames path) tree

/-- The most bytes that one name may have. -/
def longestName : Nat :=
  255

/-- The most bytes that a path may have. -/
def longestPath : Nat :=
  4095

/-- Follow names from a tree whose ancestors are given, nearest first. -/
def follow :
    List FileTree →
    FileTree →
    List (List UInt8) →
    Except Fault FileTree
  | _, tree, [] => .ok tree
  | _, .file _, _ :: _ => .error .notADirectory
  | above, .directory entries, name :: names =>
      if name = [] ∨ name = sameDirectory then
        follow above (.directory entries) names
      else if name = directoryAbove then
        follow above.tail (above.headD emptyDirectory) names
      else if longestName < name.length then
        .error .nameTooLong
      else
        match entries.lookup name with
        | some tree => follow (.directory entries :: above) tree names
        | none => .error .notFound

/-- What stands at a path; outside the working directory nothing is known to be. -/
def find
    (workingDirectory : FileTree)
    (path : OsText) :
    Except Fault FileTree :=
  if path.bytes.data.toList.contains 0 then
    .error .nulByte
  else if path = .empty then
    .error .notFound
  else if longestPath < path.bytes.size then
    .error .nameTooLong
  else if path.bytes.data[0]? = some slash then
    follow [] emptyDirectory (names path)
  else
    follow [] workingDirectory (names path)

def read
    (workingDirectory : FileTree)
    (path : OsText) :
    Except Fault ByteArray :=
  match find workingDirectory path with
  | .ok (.file bytes) => .ok bytes
  | .ok (.directory _) => .error .isADirectory
  | .error fault => .error fault

/-- What the paths hold from the working directory on. -/
def store
    (workingDirectory : FileTree) :
    FileStore :=
  fun path => (workingDirectory.read path).mapError Fault.message

end FileTree

end FunctionScript
