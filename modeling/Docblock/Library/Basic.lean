import Docblock.Block.Import
import Docblock.Corpus
import Docblock.Library.Storage
import Docblock.Settings

/-!
# Libraries

A library holds the sources that have been read, each with the blocks that it sees through its
imports, and knows the last one that was read from each path. Reading a file that is known gives
what is known. Reading another follows its imports first, but no import leads back into a file that
is still being read. A fault leaves the library with the imports that were done by then.

Only the path is looked up. What is known is given to whoever asks, with other settings than it was
read with, or after the file has changed. A file has to be forgotten for it to be read again, and
then it becomes another source, while the old one stays for those that see its blocks.
-/

namespace Docblock

/-- The sources that have been read, and the source that each path stands for. -/
structure Library where
  corpus : Corpus
  known : List (String × Nat)
  deriving Repr

namespace Library

/-- The library of nothing. -/
def empty : Library := ⟨⟨[]⟩, []⟩

/-- The source that a path in normal form stands for. -/
def index? (library : Library) (path : String) : Option Nat := library.known.lookup path

/-- How many paths are known. -/
def size (library : Library) : Nat := library.known.length

/-- Whether a path is known as it is written. -/
def contains (library : Library) (path : String) : Bool := (library.index? path).isSome

/-- Forget what a path stands for, as it is written. -/
def discard (library : Library) (path : String) : Library :=
  { library with known := library.known.filter (·.1 != path) }

/-- Forget what a path stands for. -/
def remove (library : Library) (path : String) : Library := library.discard (Path.normal path)

/-- Forget what all paths stand for. -/
def clear (library : Library) : Library := { library with known := [] }

/-- Take in a source that a path stands for from now on. -/
def add (library : Library) (path : String) (source : Source) : Library where
  corpus := ⟨library.corpus.sources ++ [source]⟩
  known := library.known ++ [(path, library.corpus.sources.length)]

/-- The source of a file that was read before. -/
def get (library : Library) (path : String) : Except LoadFault Nat :=
  match library.index? (Path.normal path) with
  | some index => .ok index
  | none => .error (.notLoaded path)

/-- The named blocks of a source and those it sees through the imports for their effects. -/
def offered (library : Library) (index : Nat) : List BlockRef :=
  match library.corpus.sources[index]? with
  | none => []
  | some source => source.localRefs index ++ source.ambient

/-- The named blocks of a source that have one of some names. -/
def offeredAs (library : Library) (names : List String) (index : Nat) : List BlockRef :=
  match library.corpus.sources[index]? with
  | none => []
  | some source => (source.localRefs index).filter fun ref =>
    (library.corpus.block? ref).any fun block => names.any (block.declares ·)

end Library

/-! ## Imports -/

/-- Blocks put to others, each that is not there yet. -/
def addBlocks (found new : List BlockRef) : List BlockRef :=
  new.foldl (fun done ref => if done.contains ref then done else done ++ [ref]) found

/-- An import of names: the names, and the path that they come from. -/
structure NamedImport where
  names : List String
  path : String
  deriving DecidableEq, Repr

/-- The import that a tag makes when the word before the path is there. -/
def NamedImport.ofTag? (tag : Tag) : Option NamedImport :=
  if tag.name = "from" ∧ tag.description ≠ "" then
    let names := (Text.splitOn ',' tag.typeText.toList).map Text.trim
    some ⟨(names.filter fun name => !name.isEmpty).map String.ofList,
      String.ofList (Text.unquote tag.description.toList)⟩
  else none

/-- The imports of names in blocks, in order. -/
def namedImports (blocks : List Block) : List NamedImport :=
  blocks.flatMap fun block => block.elements.imports.filterMap NamedImport.ofTag?

/-- The file that an import in a folder leads to. Only paths that begin with a point lead to
files. -/
def importTarget? (folder path : String) : Option String :=
  if path.toList.head? = some '.' then some (Path.normal (Path.inFolder folder path)) else none

/-! ## Reading files -/

/-- The library while files are being read, and the paths read so far. -/
structure LoadState where
  library : Library
  reads : List String

/-- Steps that change a library and may break off. -/
abbrev Loading := EStateM LoadFault LoadState

namespace Loading

/-- Note that a path is read. -/
def note (path : String) : Loading Unit :=
  modify fun state => { state with reads := state.reads ++ [path] }

/-- Go on with a result. -/
def lift {α : Type} : Except Fault α → Loading α
  | .ok a => pure a
  | .error fault => throw (.source fault)

/-- Take in the source of a path. -/
def finish (path : String) (blocks : List Block) (ambient imported : List BlockRef) :
    Loading Nat := do
  let index := (← get).library.corpus.sources.length
  modify fun state =>
    { state with library := state.library.add path ⟨path, blocks, ambient, imported⟩ }
  return index

/-- Add the blocks that a source offers. -/
def addOffered (found : List BlockRef) : Option Nat → Loading (List BlockRef)
  | none => return found
  | some index => do return addBlocks found ((← get).library.offered index)

/-- Add the blocks that a source offers under names. -/
def addNamed (names : List String) (found : List BlockRef) :
    Option Nat → Loading (List BlockRef)
  | none => return found
  | some index => do return addBlocks found ((← get).library.offeredAs names index)

end Loading

mutual

/-- The source of a path in normal form, read unless it is known. `visiting` holds the paths that
are being read. -/
def load (settings : Settings) (storage : Storage) (visiting : List String) (path : String)
    (_fresh : path ∉ visiting) : Loading Nat := do
  match (← get).library.index? path with
  | some index => return index
  | none => do
    -- A file that cannot be read counts as read all the same.
    Loading.note path
    match _h : storage.read settings.encoding path with
    | .error fault => throw fault
    | .ok code => do
      let blocks ← Loading.lift (Block.ofSource path code)
      if settings.followImports && !blocks.isEmpty then do
        let folder := Path.folder path
        let ambient ← loadAmbient settings storage (path :: visiting) folder
          (sideEffectImports code) []
        let imported ← loadNamed settings storage (path :: visiting) folder
          (namedImports blocks) []
        Loading.finish path blocks ambient imported
      else Loading.finish path blocks [] []
termination_by (storage.countNew visiting, 0, 0)
decreasing_by
  all_goals exact Prod.Lex.left _ _ (Storage.countNew_cons_lt _h _fresh)

/-- The source that an import leads to; none for one that is not followed. -/
def loadImport (settings : Settings) (storage : Storage) (visiting : List String)
    (folder path : String) : Loading (Option Nat) :=
  match importTarget? folder path with
  | none => return none
  | some target =>
    if fresh : target ∈ visiting then return none
    else do return some (← load settings storage visiting target fresh)
termination_by (storage.countNew visiting, 1, 0)
decreasing_by exact Prod.Lex.right _ (Prod.Lex.left _ _ (by omega))

/-- The blocks seen through imports for their effects, added to those found so far. -/
def loadAmbient (settings : Settings) (storage : Storage) (visiting : List String)
    (folder : String) (imports : List String) (found : List BlockRef) :
    Loading (List BlockRef) :=
  match imports with
  | [] => return found
  | path :: rest => do
    let index ← loadImport settings storage visiting folder path
    loadAmbient settings storage visiting folder rest (← Loading.addOffered found index)
termination_by (storage.countNew visiting, 2, imports.length)
decreasing_by
  · exact Prod.Lex.right _ (Prod.Lex.left _ _ (by omega))
  · exact Prod.Lex.right _ (Prod.Lex.right _ (by simp))

/-- The blocks seen through imports of names, added to those found so far. -/
def loadNamed (settings : Settings) (storage : Storage) (visiting : List String)
    (folder : String) (imports : List NamedImport) (found : List BlockRef) :
    Loading (List BlockRef) :=
  match imports with
  | [] => return found
  | ⟨names, path⟩ :: rest => do
    let index ← loadImport settings storage visiting folder path
    loadNamed settings storage visiting folder rest (← Loading.addNamed names found index)
termination_by (storage.countNew visiting, 2, imports.length)
decreasing_by
  · exact Prod.Lex.right _ (Prod.Lex.left _ _ (by omega))
  · exact Prod.Lex.right _ (Prod.Lex.right _ (by simp))

end

namespace Library

/-- What reading a file did: the source or the fault, the library afterwards, and the paths that
were read. -/
structure Reading where
  outcome : Except LoadFault Nat
  library : Library
  reads : List String

/-- Read a file with all that it imports. -/
def read (library : Library) (settings : Settings) (storage : Storage) (path : String) :
    Reading :=
  match load settings storage [] (Path.normal path) (by simp) ⟨library, []⟩ with
  | .ok index state => ⟨.ok index, state.library, state.reads⟩
  | .error fault state => ⟨.error fault, state.library, state.reads⟩

end Library

end Docblock
