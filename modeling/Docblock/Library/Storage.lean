import Docblock.Fault
import Docblock.Library.Path
import Docblock.Remaining
import Docblock.Text.Encoding

/-!
# Where sources are kept

Sources are kept in memory as texts, or in files as bytes that an encoding turns into text. There
are finitely many of either, and only what is kept can be read (`mem_paths_of_read`), so following
imports ends.

What is kept does not change while a file is read. Between two readings it may, and whoever speaks
of several readings says what was kept at the time of each.
-/

namespace Docblock

/-- What is kept under a path. -/
inductive Contents where
  | text (s : String)
  | bytes (bytes : List Nat)
  deriving DecidableEq, Repr

/-- Why a file cannot be read. -/
inductive ReadFault where
  | missing
  | isFolder
  | notFolder
  | longName
  | undecodable (fault : Text.DecodeFault)
  deriving DecidableEq, Repr

/-- The wording of a fault of a file. -/
def ReadFault.message (path : String) : ReadFault → String
  | missing => "[Errno 2] No such file or directory: " ++ Text.quote path
  | isFolder => "[Errno 21] Is a directory: " ++ Text.quote path
  | notFolder => "[Errno 20] Not a directory: " ++ Text.quote path
  | longName => "[Errno 36] File name too long: " ++ Text.quote path
  | undecodable fault => fault.message

/-- Why the blocks of a file are not to be had. What is kept in memory is unreadable for no
reason but that it is not there. Names of files and encodings hold no null character. -/
inductive LoadFault where
  | unreadable (path : String) (reason : Option ReadFault)
  | encoding (name : String) (fault : Text.NameFault)
  | undecodable (fault : Text.DecodeFault)
  | nullInEncoding
  | nullInPath
  | notLoaded (path : String)
  | source (fault : Fault)
  deriving DecidableEq, Repr

/-- The wording of a fault. -/
def LoadFault.message : LoadFault → String
  | unreadable path none => "Cannot read source file " ++ path
  | unreadable path (some reason) =>
    "Cannot read source file " ++ path ++ ": " ++ reason.message path
  | encoding name fault => fault.message name
  | undecodable fault => fault.message
  | nullInEncoding => "embedded null character"
  | nullInPath => "embedded null byte"
  | notLoaded path => "There is no parsed AST for file " ++ path
  | source fault => fault.message

/-- What is kept, by paths in normal form. In memory there are no folders. -/
structure Storage where
  entries : List (String × Contents)
  folders : Option (List String)
  deriving Repr

namespace Storage

/-- The paths under which something is kept. -/
def paths (storage : Storage) : List String := storage.entries.map (·.1)

/-- The folders above a path. -/
def foldersAbove (path : String) : List String :=
  let parts := Text.splitOn '/' path.toList
  (List.range parts.length).map fun count =>
    Path.normal (String.ofList (Text.join ['/'] (parts.take count)))

/-- Keep contents under a path. Its folders are made. -/
def write (storage : Storage) (path : String) (contents : Contents) : Storage :=
  let path := Path.normal path
  { entries := (path, contents) :: storage.entries.filter (·.1 != path)
    folders := storage.folders.map (foldersAbove path ++ ·) }

/-- Keep nothing under a path. -/
def delete (storage : Storage) (path : String) : Storage :=
  let path := Path.normal path
  { storage with entries := storage.entries.filter (·.1 != path) }

/-- The most bytes that a part of a path may take. -/
def partLimit : Nat := 255

/-- The most bytes that a path may take. -/
def pathLimit : Nat := 4095

/-- Walk along the parts of a path from a folder; the fault of the first part that does not lead
on. -/
def walk (storage : Storage) (folders : List String) (here : String) :
    List (List Char) → Option ReadFault
  | [] => if folders.contains here then some .isFolder else none
  | part :: rest =>
    if storage.paths.contains here then some .notFolder
    else if !folders.contains here then some .missing
    else if partLimit < (String.ofList part).utf8ByteSize then some .longName
    else walk storage folders (Path.normal (here ++ "/" ++ String.ofList part)) rest

/-- Why there is no file under a path as it is written; none when there is one. -/
def walkFault? (storage : Storage) (folders : List String) (path : String) : Option ReadFault :=
  if path = "" then some .missing
  else if pathLimit < path.utf8ByteSize then some .longName
  else
    let start := if path.toList.head? = some '/' then "/" else "."
    match walk storage ("." :: folders) start (Text.splitOn '/' path.toList) with
    | some fault => some fault
    | none => if storage.paths.contains (Path.normal path) then none else some .missing

/-- The text of bytes in a file. -/
def decode (encoding path : String) (bytes : List Nat) : Except LoadFault String :=
  match Text.Encoding.forFile encoding with
  | .error fault => .error (.encoding encoding fault)
  | .ok found =>
    match found.decode bytes with
    | .ok cs => .ok (String.ofList (Text.unifyLineEnds cs))
    | .error fault =>
      .error (if fault.isOfBytes then .unreadable path (some (.undecodable fault))
        else .undecodable fault)

/-- The character that ends names outside. -/
def hasNull (s : String) : Bool := s.toList.contains '\x00'

/-- What is wrong with the names of an encoding and a file. -/
def nameFault? (encoding path : String) : Option LoadFault :=
  if hasNull encoding then some .nullInEncoding
  else if hasNull path then some .nullInPath
  else none

/-- The fault of a file that is not there. -/
def missingFault (folders : List String) (storage : Storage) (encoding path : String) :
    LoadFault :=
  (nameFault? encoding path).getD
    (.unreadable path (some ((storage.walkFault? folders path).getD .missing)))

/-- The text under a path in normal form. -/
def read (storage : Storage) (encoding path : String) : Except LoadFault String :=
  match storage.entries.lookup path with
  | some (.text s) => .ok s
  | some (.bytes bytes) =>
    if hasNull encoding then .error .nullInEncoding else decode encoding path bytes
  | none =>
    .error (match storage.folders with
      | none => .unreadable path none
      | some folders => storage.missingFault folders encoding path)

/-- The text of a file under a path as it is written. -/
def open? (storage : Storage) (encoding path : String) : Except LoadFault String :=
  match nameFault? encoding path, storage.walkFault? (storage.folders.getD []) path with
  | some fault, _ => .error fault
  | none, some fault => .error (.unreadable path (some fault))
  | none, none =>
    match storage.entries.lookup (Path.normal path) with
    | some (.text s) => .ok s
    | some (.bytes bytes) => decode encoding path bytes
    | none => .error (.unreadable path (some .missing))

theorem mem_of_lookup {entries : List (String × Contents)} {path : String} {contents : Contents}
    (h : entries.lookup path = some contents) : path ∈ entries.map (·.1) := by
  induction entries with
  | nil => cases h
  | cons entry rest ih =>
    obtain ⟨key, value⟩ := entry
    rw [List.lookup_cons] at h
    by_cases hk : path = key
    · simp [hk]
    · rw [beq_eq_false_iff_ne.2 hk] at h
      simp only [List.map_cons, List.mem_cons]
      exact .inr (ih h)

/-- What can be read is kept. -/
theorem mem_paths_of_read {storage : Storage} {encoding path code : String}
    (h : storage.read encoding path = .ok code) : path ∈ storage.paths := by
  unfold read at h
  split at h
  · exact mem_of_lookup (by assumption)
  · exact mem_of_lookup (by assumption)
  · cases h

/-- How many paths are not among the given ones. -/
def countNew (storage : Storage) (visiting : List String) : Nat :=
  countRemaining storage.paths visiting

/-- One path fewer is new when a path that can be read is visited. -/
theorem countNew_cons_lt {storage : Storage} {encoding path code : String}
    {visiting : List String} (h : storage.read encoding path = .ok code)
    (hv : path ∉ visiting) : storage.countNew (path :: visiting) < storage.countNew visiting :=
  countRemaining_cons_lt (mem_paths_of_read h) hv

end Storage

end Docblock
