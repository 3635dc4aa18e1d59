import Remap.Json.Reader
import Remap.Text.Line
import Remap.Text.Escape
import Remap.Text.Utf8
import Remap.Text.Wide

/-!
# Files

Paths as texts, trees of files in which they lead somewhere, and files that hold JSON.
-/

namespace Remap.Path

/-!
## Paths

A path is a text of names between slashes. Joining keeps what it joins as it is; the normal form
of a path from the root takes out empty names and single points and lets a double point cancel the
name before it, without a look at any file. Two slashes at the start, and exactly two, are kept.
-/

/-- The character between two names. -/
def slash : CodePoint := .char '/'

/-- The names between the slashes. -/
def names (path : Wide) : List Wide :=
  Text.cut slash path

/-- The names with slashes between them. -/
def ofNames (names : List Wide) : Wide :=
  [slash].intercalate names

/-- The path starts at the root. -/
def isAbsolute (path : Wide) : Bool :=
  path.head? == some slash

/-- A path that starts at a base, unless it starts at the root. -/
def join (base path : Wide) : Wide :=
  if isAbsolute path then path
  else if base.isEmpty || base.getLast? == some slash then base ++ path
  else base ++ slash :: path

/-- The slashes at the start of a normal form. -/
def rootOf (path : Wide) : Wide :=
  match path with
  | .char '/' :: .char '/' :: .char '/' :: _ => "/"
  | .char '/' :: .char '/' :: _ => "//"
  | _ => "/"

/-- Goes on from the names kept so far, the last one first, to one more name. -/
def keep (kept : List Wide) (name : Wide) : List Wide :=
  if name.isEmpty || name == Wide.ofString "." then kept
  else if name == Wide.ofString ".." then kept.tail
  else name :: kept

/-- The normal form of a path from the root. -/
def normalize (path : Wide) : Wide :=
  rootOf path ++ ofNames ((names path).foldl keep []).reverse

/-- The normal form of a path that starts at the working directory if not at the root. -/
def absolute (workingDirectory path : Wide) : Wide :=
  normalize (join workingDirectory path)

/-- The text without the slashes at its end. -/
def trimSlashes (path : Wide) : Wide :=
  (path.reverse.dropWhile (· == slash)).reverse

/-- The directory part of a path: what comes before its last name. -/
def parent (path : Wide) : Wide :=
  let head := (path.reverse.dropWhile (· != slash)).reverse
  if head.all (· == slash) then head else trimSlashes head

end Remap.Path

namespace Remap

/-!
## File trees

A tree of directories with files in them, as a value. Names are bytes, and a path is brought into
bytes before it is walked name by name, from the root or from the working directory: every name
but the last has to lead to a directory, a point stays where it is and a double point goes up, and
the root is its own parent. Reading fails in the ways in which an operating system refuses it.
-/

/-- Why a file cannot be read. -/
inductive AccessError where
  /-- The path holds half of a surrogate pair that stands for no byte. -/
  | unencodable (fault : Wide.Unencodable)
  /-- The path holds the null character. -/
  | nullInPath
  | notFound
  | notDirectory
  | isDirectory
  | denied
  | nameTooLong
  deriving DecidableEq, Repr

namespace AccessError

/-- The number and the text that the operating system has for an error. -/
def system? : AccessError → Option (String × String)
  | unencodable _ | nullInPath => none
  | notFound => some ("2", "No such file or directory")
  | notDirectory => some ("20", "Not a directory")
  | isDirectory => some ("21", "Is a directory")
  | denied => some ("13", "Permission denied")
  | nameTooLong => some ("36", "File name too long")

/-- The message about a path that cannot be read. -/
def message (error : AccessError) (path : String) : String :=
  match error.system?, error with
  | some (number, text), _ => "[Errno " ++ number ++ "] " ++ text ++ ": " ++ Text.quoted path
  | none, unencodable fault => fault.message
  | none, _ => "embedded null byte"

end AccessError

/-- The name of a file or of a directory, in bytes. -/
abbrev FileName := List UInt8

instance : Coe String FileName := ⟨fun name => Text.Utf8.encode name.toList⟩

/-- A file with its place and its bytes, if they can be read. -/
structure File where
  place : List FileName
  bytes : Option (List UInt8)

/--
The files of a tree and the directories that are there without a file in them, with the place at
which a path starts that does not start at the root.
-/
structure FileTree where
  files : List File
  directories : List (List FileName)
  workingDirectory : List FileName

/-- What a path leads to. -/
inductive Node where
  | directory
  | file (bytes : Option (List UInt8))

namespace FileTree

/-- What is at a place, given by the names from the root. -/
def node? (tree : FileTree) (place : List FileName) : Option Node :=
  match tree.files.find? fun file => file.place == place with
  | some file => some (.file file.bytes)
  | none =>
    if place.isEmpty || tree.directories.any (place.isPrefixOf ·) ||
        tree.files.any fun file => place.isPrefixOf file.place then
      some .directory
    else none

/-- The longest name, in bytes. -/
def maxName : Nat := 255

/-- The longest path, in bytes. -/
def maxPath : Nat := 4095

/-- The byte between two names. -/
def slashByte : UInt8 := 0x2F

/-- Goes from a place to the one that a name leads to. -/
def enter (tree : FileTree) (place : List FileName) (name : FileName) :
    Except AccessError (List FileName) :=
  match tree.node? place with
  | none => .error .notFound
  | some (.file _) => .error .notDirectory
  | some .directory =>
    if name.isEmpty || name == Text.Utf8.encode ['.'] then .ok place
    else if name == Text.Utf8.encode ['.', '.'] then .ok place.dropLast
    else if maxName < name.length then .error .nameTooLong
    else if (tree.node? (place ++ [name])).isNone then .error .notFound
    else .ok (place ++ [name])

/-- The place to which the bytes of a path lead. -/
def walk (tree : FileTree) (path : List UInt8) : Except AccessError (List FileName) :=
  (Text.cut slashByte path).foldlM tree.enter
    (if path.head? = some slashByte then [] else tree.workingDirectory)

/-- What the bytes of a path lead to. -/
def resolveBytes (tree : FileTree) (path : List UInt8) : Except AccessError Node := do
  if path.contains 0 then throw .nullInPath
  if path.isEmpty then throw .notFound
  if maxPath < path.length then throw .nameTooLong
  match tree.node? (← tree.walk path) with
  | some node => return node
  | none => throw .notFound

/-- What a path leads to. -/
def resolve (tree : FileTree) (path : Wide) : Except AccessError Node :=
  match path.encode with
  | .error fault => .error (.unencodable fault)
  | .ok bytes => tree.resolveBytes bytes

/-- The path of the working directory. -/
def currentPath (tree : FileTree) : Wide :=
  Path.slash :: Path.ofNames (tree.workingDirectory.map Wide.decode)

/-- The path leads to a file or a directory. -/
def holds (tree : FileTree) (path : Wide) : Bool :=
  (tree.resolve path).isOk

/-- The path leads to a file. -/
def isFile (tree : FileTree) (path : Wide) : Bool :=
  match tree.resolve path with
  | .ok (.file _) => true
  | _ => false

/-- The bytes of the file to which a path leads. -/
def read (tree : FileTree) (path : Wide) : Except AccessError (List UInt8) := do
  match ← tree.resolve path with
  | .directory => throw .isDirectory
  | .file none => throw .denied
  | .file (some bytes) => return bytes

/-- The bytes at the start of the file to which a path leads, so many at most. -/
def readStart (tree : FileTree) (path : Wide) (count : Nat) :
    Except AccessError (List UInt8) :=
  (tree.read path).map (·.take count)

end FileTree

/-!
## JSON files

A file is read as one JSON text in UTF-8. That there is no such file, that it cannot be read or
that its bytes are no JSON text are findings like any other. Only three things make the reading
fail: a path with half of a surrogate pair that stands for no byte, a path with a null character,
and an integer with more digits than can be read.
-/

/-- Why the reading of a file fails. -/
inductive LoadError where
  /-- The path holds half of a surrogate pair that stands for no byte. -/
  | unencodable (fault : Wide.Unencodable)
  /-- The path holds the null character. -/
  | nullInPath
  /-- An integer in the file has more digits than can be read. -/
  | integerTooLong (digits : Nat)
  deriving DecidableEq, Repr

/-- The message about a file whose reading fails. -/
def LoadError.message : LoadError → String
  | unencodable fault => fault.message
  | nullInPath => "embedded null byte"
  | integerTooLong digits => tooLongMessage (some digits)

/-- What is found where a JSON file should be. -/
inductive JsonFile where
  | missing
  /-- The file cannot be read or holds no JSON. -/
  | unreadable
  | json (value : Json)

/-- What is found in the bytes of a file. -/
def JsonFile.ofBytes (bytes : List UInt8) : Except LoadError JsonFile :=
  match Text.Utf8.decode? bytes with
  | none => .ok .unreadable
  | some text =>
    match Json.ofText text with
    | .error .malformed => .ok .unreadable
    | .error (.integerTooLong digits) => .error (.integerTooLong digits)
    | .ok value => .ok (.json value)

/-- Reads the JSON file to which a path leads. -/
def FileTree.readJson (tree : FileTree) (path : Wide) : Except LoadError JsonFile :=
  match tree.read path with
  | .error (.unencodable fault) => .error (.unencodable fault)
  | .error .nullInPath => .error .nullInPath
  | .error .notFound => .ok .missing
  | .error _ => .ok .unreadable
  | .ok bytes => JsonFile.ofBytes bytes

end Remap
