import NotebookLint.Path

/-! Files by their paths: what a path leads to in a working directory whose contents are known. -/
namespace NotebookLint

inductive ReadError where
  | notFound
  | notADirectory
  | isADirectory
  | nameTooLong
  | nulInName
  | notUtf8
  | other (message : String)
  deriving DecidableEq, Repr

namespace ReadError

def message : ReadError → String
  | notFound => "No such file or directory (os error 2)"
  | notADirectory => "Not a directory (os error 20)"
  | isADirectory => "Is a directory (os error 21)"
  | nameTooLong => "File name too long (os error 36)"
  | nulInName => "file name contained an unexpected NUL byte"
  | notUtf8 => "stream did not contain valid UTF-8"
  | other message => message

/-- Whether there is nothing at the path. Otherwise something is there that cannot be read. -/
def isAbsence : ReadError → Bool
  | notFound | notADirectory | nameTooLong | nulInName => true
  | _ => false

end ReadError

abbrev FileContents := Except ReadError ByteArray

def FileContents.text (contents : FileContents) : Except ReadError String :=
  match contents with
  | .error error => .error error
  | .ok bytes => match String.fromUTF8? bytes with
    | some text => .ok text
    | none => .error .notUtf8

theorem FileContents.text_toUTF8 (text : String) : FileContents.text (.ok text.toUTF8) = .ok text := by
  have valid : text.toUTF8.IsValidUTF8 := text.isValidUTF8
  simp only [FileContents.text,String.fromUTF8?,dif_pos valid]
  rfl

inductive Entry where
  | file (bytes : ByteArray)
  | folder

/-- The contents of a working directory. An entry is found by the names that lead to it. -/
structure Disk where
  entries : List (List String × Entry)

namespace Disk

def empty : Disk := ⟨[]⟩

def entry? (disk : Disk) (names : List String) : Option Entry :=
  (disk.entries.find? (·.1 == names)).map (·.2)

/-- Where a walk along a path has come to. Nothing is known about what lies outside of the working
directory, except that its parents are directories. -/
inductive Location where
  | outside
  | folder (names : List String)
  | file (bytes : ByteArray)

/-- A name has at most this many bytes. -/
def longestName : Nat := 255

def longestPath : Nat := 4095

def child (disk : Disk) (names : List String) (name : String) : Except ReadError Location :=
  if longestName < name.utf8ByteSize then .error .nameTooLong
  else match disk.entry? (names ++ [name]) with
    | some (.file bytes) => .ok (.file bytes)
    | some .folder => .ok (.folder (names ++ [name]))
    | none => .error .notFound

def step (disk : Disk) (location : Location) (piece : String) : Except ReadError Location :=
  match location with
  | .file _ => .error .notADirectory
  | .outside =>
    if piece == "" || piece == "." || piece == ".." then .ok .outside
    else if longestName < piece.utf8ByteSize then .error .nameTooLong
    else .error .notFound
  | .folder names =>
    if piece == "" || piece == "." then .ok (.folder names)
    else if piece == ".." then .ok (if names.isEmpty then .outside else .folder names.dropLast)
    else disk.child names piece

def walk (disk : Disk) (path : String) : Except ReadError Location :=
  if path.toList.contains '\x00' then .error .nulInName
  else if path.isEmpty then .error .notFound
  else if longestPath < path.utf8ByteSize then .error .nameTooLong
  else
    let start : Location := if path.toList.head? == some '/' then .outside else .folder []
    (Path.pieces path.toList).foldlM
      (fun location piece => disk.step location (String.ofList piece)) start

def contents (disk : Disk) (path : String) : FileContents :=
  match disk.walk path with
  | .error error => .error error
  | .ok (.file bytes) => .ok bytes
  | .ok _ => .error .isADirectory

/-- The disk with one more entry, which comes before an older one of the same name. -/
def put (disk : Disk) (names : List String) (entry : Entry) : Disk :=
  ⟨(names, entry) :: disk.entries⟩

def makeFolders (disk : Disk) (names : List String) : List String → Disk × List String
  | [] => (disk, names)
  | piece :: rest =>
    if piece == "" || piece == "." then disk.makeFolders names rest
    else if piece == ".." then disk.makeFolders names.dropLast rest
    else (disk.put (names ++ [piece]) .folder).makeFolders (names ++ [piece]) rest

def add (disk : Disk) (path : String) (entry : Entry) : Disk :=
  let pieces := (Path.pieces path.toList).map String.ofList
  match disk.makeFolders [] pieces with
  | (disk, names) => disk.put names entry

end Disk
end NotebookLint
