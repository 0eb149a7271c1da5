/-!
# A tree of files

The files a command sees: each path names a file with its bytes or a directory. Paths are
compared after dropping empty and `.` components, so `data/x.csv`, `./data/x.csv` and
`data//x.csv` name the same file, and a path with files below it names a directory. Reading a
path that names nothing, a directory, or something below a file fails with the description of
that condition.
-/

namespace LevelCross

/-- What a path names. -/
inductive Node where
  | file (bytes : ByteArray)
  | dir

/-- Why a file could not be read. -/
inductive IoError where
  | notFound
  | isDirectory
  | notText
  | notDirectory
  /-- any other failure, described by the system -/
  | other (text : String)
deriving DecidableEq, Repr

/-- The description of a read failure. -/
def IoError.message : IoError → String
  | .notFound => "No such file or directory (os error 2)"
  | .isDirectory => "Is a directory (os error 21)"
  | .notText => "stream did not contain valid UTF-8"
  | .notDirectory => "Not a directory (os error 20)"
  | .other text => text

/-- The components of a path, without empty and `.` components. -/
def pathParts (p : String) : List String :=
  (p.splitOn "/").filter fun c => !c.isEmpty && c != "."

/-- Join a directory and a name. -/
def joinPath (base name : String) : String :=
  if base.isEmpty then name else if base.endsWith "/" then base ++ name else base ++ "/" ++ name

/-- A tree of files, later entries replacing earlier ones of the same path. -/
structure Files where
  entries : List (String × Node) := []

namespace Files

/-- What a path names, if anything: an entry of that path, or else a directory when some entry
lies below it. -/
def find? (fs : Files) (path : String) : Option Node :=
  let parts := pathParts path
  match fs.entries.reverse.find? fun e => pathParts e.1 == parts with
  | some e => some e.2
  | none =>
    if fs.entries.any fun e => let q := pathParts e.1; q.length > parts.length && q.take parts.length == parts
    then some .dir else none

/-- Some directory on the way to a path is a file. -/
def throughFile (fs : Files) (path : String) : Bool :=
  let parts := pathParts path
  (List.range parts.length).any fun k =>
    0 < k && match fs.find? ("/".intercalate (parts.take k)) with
      | some (.file _) => true
      | _ => false

/-- The bytes of a file. -/
def readBytes (fs : Files) (path : String) : Except IoError ByteArray :=
  if fs.throughFile path then .error .notDirectory
  else match fs.find? path with
  | some (.file b) => .ok b
  | some .dir => .error .isDirectory
  | none => .error .notFound

/-- The text of a file, which must be valid UTF-8. -/
def readText (fs : Files) (path : String) : Except IoError String := do
  let b ← fs.readBytes path
  match String.fromUTF8? b with
  | some s => .ok s
  | none => .error .notText

/-- Write a file, replacing what the path named. -/
def write (fs : Files) (path : String) (bytes : ByteArray) : Files :=
  ⟨fs.entries ++ [(path, .file bytes)]⟩

end Files

end LevelCross
