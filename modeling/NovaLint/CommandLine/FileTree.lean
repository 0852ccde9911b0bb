/-!
# Files seen from a directory

Files and directories by the names on the way to them, from the working directory or from the root.
A path is followed name by name, and every name before the last must lead to a directory: the name
`.` stays there, the name `..` goes up.  Empty names lead nowhere, but a slash at the end of a path
asks for a directory.  Of the directories above the working directory nothing is known but that they
are there.  Writing a file either replaces its whole content or changes nothing.
-/

namespace NovaLint

/-- Why a file cannot be read or written. -/
inductive FileError where
  /-- There is no such file, or no directory to hold it. -/
  | notFound
  /-- The path leads through a file. -/
  | notDirectory
  /-- The place is a directory, or the path asks for one. -/
  | isDirectory
  /-- The content is not text. -/
  | notText
  /-- Any other reason, in the words of the operating system. -/
  | other (reason : String)
deriving DecidableEq, Repr

/-- The reason in words. -/
def FileError.reason : FileError → String
  | notFound => "No such file or directory (os error 2)"
  | notDirectory => "Not a directory (os error 20)"
  | isDirectory => "Is a directory (os error 21)"
  | notText => "stream did not contain valid UTF-8"
  | other reason => reason

/-- A directory from which places are counted. -/
inductive Origin where
  /-- The root. -/
  | root
  /-- The directory that is a number of levels above the working directory. -/
  | above (levels : Nat)
deriving DecidableEq, Repr

/-- A place where a file or a directory may be. -/
structure Place where
  /-- The directory from which it is counted. -/
  origin : Origin
  /-- The names that lead from there to the place. -/
  names : List String
deriving DecidableEq, Repr

namespace Place

/-- The working directory. -/
def workingDirectory : Place := ⟨.above 0, []⟩

/-- The root. -/
def root : Place := ⟨.root, []⟩

/-- The place of a name in a directory. -/
def child (place : Place) (name : String) : Place :=
  { place with names := place.names ++ [name] }

/-- The directory that holds a place; the root holds itself. -/
def parent (place : Place) : Place :=
  match place.origin, place.names with
  | .root, [] => place
  | .above levels, [] => ⟨.above (levels + 1), []⟩
  | origin, names => ⟨origin, names.dropLast⟩

/-- The place to which a name on a path leads. -/
def follow (place : Place) (name : String) : Place :=
  if name = "." then place else if name = ".." then place.parent else place.child name

/-- One place is on the way to another, or is that place. -/
def isOnWayTo (place other : Place) : Bool :=
  place.origin == other.origin && place.names.isPrefixOf other.names

end Place

/-- A path as it is followed. -/
structure FilePath where
  /-- Where it begins. -/
  start : Place
  /-- The names on it that are not empty. -/
  names : List String
  /-- It ends with a slash. -/
  wantsDirectory : Bool
deriving DecidableEq, Repr

namespace FilePath

/-- The pieces of a text between slashes. -/
def pieces : List Char → List (List Char)
  | [] => [[]]
  | c :: rest =>
    if c = '/' then [] :: pieces rest
    else
      match pieces rest with
      | [] => [[c]]
      | piece :: later => (c :: piece) :: later

/-- Read a path.  A slash at its beginning stands for the root. -/
def ofText (text : String) : FilePath :=
  { start := if text.toList.head? = some '/' then .root else .workingDirectory
    names := ((pieces text.toList).filter fun piece => !piece.isEmpty).map String.ofList
    wantsDirectory := text.toList.getLast? = some '/' }

/-- The place to which a path leads if all directories on it are there. -/
def target (path : FilePath) : Place := path.names.foldl Place.follow path.start

end FilePath

/-- What is found at a place. -/
inductive FileTree.Node where
  /-- A file with its bytes. -/
  | file (content : ByteArray)
  /-- A directory. -/
  | directory

/-- Files and directories by place; a directory that holds something need not be listed. -/
structure FileTree where
  /-- The listed places. -/
  entries : List (Place × FileTree.Node)

namespace FileTree

/-- What is found at a place.  The origins are always there, and so is every directory on the way to
a listed place. -/
def node? (tree : FileTree) (place : Place) : Option Node :=
  if place.names.isEmpty then some .directory
  else
    match tree.entries.lookup place with
    | some node => some node
    | none =>
      if tree.entries.any fun entry => place.isOnWayTo entry.1 then some .directory else none

/-- Go from a place to the next name on a path; the place must be a directory. -/
def step (tree : FileTree) (place : Place) (name : String) : Except FileError Place :=
  match tree.node? place with
  | none => .error .notFound
  | some (.file _) => .error .notDirectory
  | some .directory => .ok (place.follow name)

/-- The place to which a path leads, whether or not anything is there. -/
def follow (tree : FileTree) (path : FilePath) : Except FileError Place :=
  path.names.foldlM tree.step path.start

/-- The text of some content. -/
def decode (content : ByteArray) : Except FileError String :=
  match String.fromUTF8? content with
  | some text => .ok text
  | none => .error .notText

/-- Read the text of a file. -/
def readText (tree : FileTree) (path : String) : Except FileError String := do
  let path := FilePath.ofText path
  match tree.node? (← tree.follow path) with
  | none => .error .notFound
  | some .directory => .error .isDirectory
  | some (.file content) => if path.wantsDirectory then .error .notDirectory else decode content

/-- Put something in a place, instead of what is listed there. -/
def put (tree : FileTree) (place : Place) (node : Node) : FileTree :=
  ⟨(place, node) :: tree.entries.filter fun entry => entry.1 != place⟩

/-- Write the text of a file.  A file is made if there is none, but no directory is. -/
def writeText (tree : FileTree) (path text : String) : Except FileError FileTree := do
  let path := FilePath.ofText path
  let place ← tree.follow path
  match path.wantsDirectory, tree.node? place with
  | true, _ | _, some .directory => .error .isDirectory
  | _, _ => .ok (tree.put place (.file text.toUTF8))

end FileTree
end NovaLint
