import Docblock.Proofs.Library.Growth

/-!
# Reading as it is carried out

A file that is not known is built: it is read, what it imports is followed, and only when that has
ended well is it taken in. An `Errand` does this at a desk, where the library lies, and where it is
written down which paths were read and which files are being built, the last one first. A fault
breaks off all of them at once, and what is written down stays.

Nothing here says that an errand ends: the recursion has no measure, and no proof goes with it that
the file that is to be built is not being built already. What keeps it from going round is the list
of files that no import is followed back into, and nothing else.

Loading itself carries such a proof, and its recursion goes down with the number of files that
remain. It can therefore not be used to say that the list is enough. The two are compared step by
step, and the lemmas here are the steps of the errand, one for each that loading can take.
-/

namespace Docblock

/-! ## The desk -/

/-- The library while files are read, the paths that were read, and the files whose building was
begun and has not ended, the last one first. -/
structure Desk where
  library : Library
  reads : List String
  underway : List String

namespace Desk

/-- The desk where a file is begun to be built. -/
def begun (path : String) (desk : Desk) : Desk :=
  { desk with reads := desk.reads ++ [path], underway := path :: desk.underway }

/-- The desk where the last file has been built. -/
def built (desk : Desk) : Desk := { desk with underway := desk.underway.tail }

/-- The desk where a source has been taken in. -/
def filed (source : Source) (desk : Desk) : Desk :=
  { desk with library := desk.library.add source.file source }

end Desk

/-! ## Errands -/

/-- Steps at a desk. They can break off with a fault, which leaves the desk as it is then, and need
not end. -/
abbrev Errand := ExceptT LoadFault (StateT Desk Option)

namespace Errand

variable {α β : Type}

/-- What steps come to from a desk: nothing when they do not end. -/
def outcome (x : Errand α) (desk : Desk) : Option (Except LoadFault α × Desk) := x.run.run desk

/-- Break off where there is no result. -/
def lift : Except Fault α → Errand α
  | .ok a => pure a
  | .error fault => throw (.source fault)

@[simp] theorem outcome_pure (a : α) (desk : Desk) :
    (pure a : Errand α).outcome desk = some (.ok a, desk) := rfl

@[simp] theorem outcome_throw (fault : LoadFault) (desk : Desk) :
    (throw fault : Errand α).outcome desk = some (.error fault, desk) := rfl

@[simp] theorem outcome_get (desk : Desk) :
    (get : Errand Desk).outcome desk = some (.ok desk, desk) := rfl

@[simp] theorem outcome_modify (f : Desk → Desk) (desk : Desk) :
    (modify f : Errand PUnit).outcome desk = some (.ok ⟨⟩, f desk) := rfl

theorem outcome_bind (x : Errand α) (f : α → Errand β) (desk : Desk) :
    (x >>= f).outcome desk = (x.outcome desk).bind fun
      | (.ok a, desk') => (f a).outcome desk'
      | (.error fault, desk') => some (.error fault, desk') := by
  show (x.run.run desk).bind _ = (x.run.run desk).bind _
  congr 1
  funext ⟨result, desk'⟩
  cases result <;> rfl

theorem outcome_bind_of_ok {x : Errand α} {f : α → Errand β} {desk desk' : Desk} {a : α}
    (h : x.outcome desk = some (.ok a, desk')) :
    (x >>= f).outcome desk = (f a).outcome desk' := by
  rw [outcome_bind, h]
  rfl

/-- A fault ends the steps after it too. -/
theorem outcome_bind_of_error {x : Errand α} {f : α → Errand β} {desk desk' : Desk}
    {fault : LoadFault} (h : x.outcome desk = some (.error fault, desk')) :
    (x >>= f).outcome desk = some (.error fault, desk') := by
  rw [outcome_bind, h]
  rfl

end Errand

/-! ## The recursion -/

namespace Storage

open Errand

mutual

/-- Give what is known of a path, or build it and take it in. What has become known of the path
meanwhile is kept. -/
def fetch (storage : Storage) (settings : Settings) (visiting : List String) (path : String) :
    Errand Nat := do
  match (← get).library.index? path with
  | some index => return index
  | none =>
    let source ← storage |>.build settings (path :: visiting) path
    match (← get).library.index? path with
    | some index => return index
    | none =>
      let index := (← get).library.corpus.sources.length
      modify (·.filed source)
      return index
partial_fixpoint

/-- Read a file and follow its imports. -/
def build (storage : Storage) (settings : Settings) (visiting : List String) (path : String) :
    Errand Source := do
  modify (·.begun path)
  match storage.read settings.encoding path with
  | .error fault => throw fault
  | .ok code =>
    let blocks ← lift (Block.ofSource path code)
    if settings.followImports && !blocks.isEmpty then
      let folder := Path.folder path
      let ambient ← storage |>.effects settings visiting folder (sideEffectImports code) []
      let imported ← storage |>.names settings visiting folder (namedImports blocks) []
      modify (·.built)
      return ⟨path, blocks, ambient, imported⟩
    else
      modify (·.built)
      return ⟨path, blocks, [], []⟩
partial_fixpoint

/-- Follow an import, unless it leads nowhere or back into a file that is visited. -/
def follow (storage : Storage) (settings : Settings) (visiting : List String)
    (folder path : String) : Errand (Option Nat) :=
  match importTarget? folder path with
  | none => return none
  | some target =>
    if target ∈ visiting then return none
    else do return some (← storage |>.fetch settings visiting target)
partial_fixpoint

/-- Follow imports for their effects, and add what the files offer. -/
def effects (storage : Storage) (settings : Settings) (visiting : List String) (folder : String)
    (imports : List String) (found : List BlockRef) : Errand (List BlockRef) :=
  match imports with
  | [] => return found
  | path :: rest => do
    match ← storage |>.follow settings visiting folder path with
    | none => storage |>.effects settings visiting folder rest found
    | some index =>
      let offered := (← get).library.offered index
      storage |>.effects settings visiting folder rest (addBlocks found offered)
partial_fixpoint

/-- Follow imports of names, and add what the files offer under them. -/
def names (storage : Storage) (settings : Settings) (visiting : List String) (folder : String)
    (imports : List NamedImport) (found : List BlockRef) : Errand (List BlockRef) :=
  match imports with
  | [] => return found
  | ⟨words, path⟩ :: rest => do
    match ← storage |>.follow settings visiting folder path with
    | none => storage |>.names settings visiting folder rest found
    | some index =>
      let offered := (← get).library.offeredAs words index
      storage |>.names settings visiting folder rest (addBlocks found offered)
partial_fixpoint

end

/-! ## What the steps come to -/

/-- Follow imports of a file, and add what the files offer. -/
def through (storage : Storage) (settings : Settings) (visiting : List String) (folder : String) :
    List Import → List BlockRef → Errand (List BlockRef)
  | [], found => return found
  | imp :: rest, found => do
    match ← storage.follow settings visiting folder imp.path with
    | none => storage.through settings visiting folder rest found
    | some index =>
      let offered := (← get).library.offers imp index
      storage.through settings visiting folder rest (addBlocks found offered)

/-- Follow both lists of imports of an opened file. -/
def outlined (storage : Storage) (settings : Settings) (visiting : List String) (path : String)
    (outline : Outline) : Errand Source := do
  let ambient ← storage.through settings visiting (Path.folder path) outline.effects []
  let imported ← storage.through settings visiting (Path.folder path) outline.names []
  modify (·.built)
  return ⟨path, outline.blocks, ambient, imported⟩

section

variable {settings : Settings} {storage : Storage} {visiting : List String} {path : String}
variable {desk desk' : Desk}

theorem effects_eq (folder : String) (specs : List String) (found : List BlockRef) :
    storage.effects settings visiting folder specs found =
      storage.through settings visiting folder (specs.map .effects) found := by
  induction specs generalizing found with
  | nil => rw [effects, List.map_nil, through]
  | cons next rest ih =>
    rw [effects, List.map_cons, through]
    refine bind_congr fun index => ?_
    cases index with
    | none => exact ih found
    | some index => exact bind_congr fun desk => ih _

theorem names_eq (folder : String) (named : List NamedImport) (found : List BlockRef) :
    storage.names settings visiting folder named found =
      storage.through settings visiting folder
        (named.map fun named => .names named.names named.path) found := by
  induction named generalizing found with
  | nil => rw [names, List.map_nil, through]
  | cons next rest ih =>
    rw [names, List.map_cons, through]
    refine bind_congr fun index => ?_
    cases index with
    | none => exact ih found
    | some index => exact bind_congr fun desk => ih _

theorem outcome_build_of_opened {outline : Outline}
    (opened : Outline.ofFile settings storage path = .ok outline) :
    (storage.build settings visiting path).outcome desk =
      (storage.outlined settings visiting path outline).outcome (desk.begun path) := by
  obtain ⟨code, blocks, hcode, parsed, rfl⟩ := Outline.exists_source opened
  rw [build]
  refine (outcome_bind_of_ok (outcome_modify _ desk)).trans ?_
  rw [hcode]
  dsimp only
  rw [parsed]
  refine (outcome_bind_of_ok (outcome_pure blocks _)).trans ?_
  rw [outlined, Outline.ofSource]
  split
  · simp only [effects_eq, names_eq]
  · rfl

/-- A file that cannot be opened counts as begun. -/
theorem outcome_build_of_unopened {fault : LoadFault}
    (unopened : Outline.ofFile settings storage path = .error fault) :
    (storage.build settings visiting path).outcome desk = some (.error fault, desk.begun path) := by
  rw [build]
  refine (outcome_bind_of_ok (outcome_modify _ desk)).trans ?_
  unfold Outline.ofFile at unopened
  cases text : storage.read settings.encoding path with
  | error unread =>
    simp only [text] at unopened
    cases unopened
    rfl
  | ok code =>
    simp only [text] at unopened
    cases parsed : Block.ofSource path code with
    | error unparsed =>
      simp only [parsed] at unopened
      cases unopened
      dsimp only
      rw [parsed]
      exact outcome_bind_of_error (outcome_throw _ _)
    | ok blocks =>
      simp only [parsed] at unopened
      cases unopened

theorem outcome_build_of_effects {outline : Outline} {fault : LoadFault}
    (opened : Outline.ofFile settings storage path = .ok outline)
    (failed : (storage.through settings visiting (Path.folder path) outline.effects []).outcome
      (desk.begun path) = some (.error fault, desk')) :
    (storage.build settings visiting path).outcome desk = some (.error fault, desk') := by
  rw [outcome_build_of_opened opened, outlined]
  exact outcome_bind_of_error failed

theorem outcome_build_of_names {outline : Outline} {ambient : List BlockRef} {desk₁ : Desk}
    {fault : LoadFault} (opened : Outline.ofFile settings storage path = .ok outline)
    (effects : (storage.through settings visiting (Path.folder path) outline.effects []).outcome
      (desk.begun path) = some (.ok ambient, desk₁))
    (failed : (storage.through settings visiting (Path.folder path) outline.names []).outcome
      desk₁ = some (.error fault, desk')) :
    (storage.build settings visiting path).outcome desk = some (.error fault, desk') := by
  rw [outcome_build_of_opened opened, outlined]
  exact (outcome_bind_of_ok effects).trans (outcome_bind_of_error failed)

/-- A file whose imports could all be followed is built. -/
theorem outcome_build_of_through {outline : Outline} {ambient imported : List BlockRef}
    {desk₁ : Desk} (opened : Outline.ofFile settings storage path = .ok outline)
    (effects : (storage.through settings visiting (Path.folder path) outline.effects []).outcome
      (desk.begun path) = some (.ok ambient, desk₁))
    (names : (storage.through settings visiting (Path.folder path) outline.names []).outcome
      desk₁ = some (.ok imported, desk')) :
    (storage.build settings visiting path).outcome desk =
      some (.ok ⟨path, outline.blocks, ambient, imported⟩, desk'.built) := by
  rw [outcome_build_of_opened opened, outlined]
  exact (outcome_bind_of_ok effects).trans (outcome_bind_of_ok names)

theorem outcome_fetch_of_known {index : Nat} (known : desk.library.index? path = some index) :
    (storage.fetch settings visiting path).outcome desk = some (.ok index, desk) := by
  rw [fetch]
  refine (outcome_bind_of_ok (outcome_get desk)).trans ?_
  rw [known]
  rfl

theorem outcome_fetch_of_error {fault : LoadFault} (unknown : desk.library.index? path = none)
    (failed : (storage.build settings (path :: visiting) path).outcome desk =
      some (.error fault, desk')) :
    (storage.fetch settings visiting path).outcome desk = some (.error fault, desk') := by
  rw [fetch]
  refine (outcome_bind_of_ok (outcome_get desk)).trans ?_
  rw [unknown]
  exact outcome_bind_of_error failed

/-- A file that was built is taken in, unless it has become known meanwhile. -/
theorem outcome_fetch_of_built {source : Source} (unknown : desk.library.index? path = none)
    (made : (storage.build settings (path :: visiting) path).outcome desk =
      some (.ok source, desk'))
    (unknown' : desk'.library.index? path = none) :
    (storage.fetch settings visiting path).outcome desk =
      some (.ok desk'.library.corpus.sources.length, desk'.filed source) := by
  rw [fetch]
  refine (outcome_bind_of_ok (outcome_get desk)).trans ?_
  rw [unknown]
  refine (outcome_bind_of_ok made).trans ?_
  refine (outcome_bind_of_ok (outcome_get desk')).trans ?_
  rw [unknown']
  rfl

variable {imp : Import} {rest : List Import} {found : List BlockRef} {folder target : String}

/-- An import that leads nowhere or back is not followed. -/
theorem outcome_through_of_visited
    (visited : ∀ target, importTarget? folder imp.path = some target → target ∈ visiting) :
    (storage.through settings visiting folder (imp :: rest) found).outcome desk =
      (storage.through settings visiting folder rest found).outcome desk := by
  have skipped : (storage.follow settings visiting folder imp.path).outcome desk =
      some (.ok none, desk) := by
    rw [follow]
    cases ht : importTarget? folder imp.path with
    | none => rfl
    | some target =>
      dsimp only
      rw [if_pos (visited target ht)]
      rfl
  rw [through]
  exact outcome_bind_of_ok skipped

theorem outcome_through_of_error {fault : LoadFault}
    (ht : importTarget? folder imp.path = some target) (fresh : target ∉ visiting)
    (failed : (storage.fetch settings visiting target).outcome desk = some (.error fault, desk')) :
    (storage.through settings visiting folder (imp :: rest) found).outcome desk =
      some (.error fault, desk') := by
  have followed : (storage.follow settings visiting folder imp.path).outcome desk =
      some (.error fault, desk') := by
    rw [follow, ht]
    dsimp only
    rw [if_neg fresh]
    exact outcome_bind_of_error failed
  rw [through]
  exact outcome_bind_of_error followed

theorem outcome_through_of_file {index : Nat}
    (ht : importTarget? folder imp.path = some target) (fresh : target ∉ visiting)
    (given : (storage.fetch settings visiting target).outcome desk = some (.ok index, desk')) :
    (storage.through settings visiting folder (imp :: rest) found).outcome desk =
      (storage.through settings visiting folder rest
        (addBlocks found (desk'.library.offers imp index))).outcome desk' := by
  have followed : (storage.follow settings visiting folder imp.path).outcome desk =
      some (.ok (some index), desk') := by
    rw [follow, ht]
    dsimp only
    rw [if_neg fresh]
    exact (outcome_bind_of_ok given).trans rfl
  rw [through]
  refine (outcome_bind_of_ok followed).trans ?_
  exact outcome_bind_of_ok (outcome_get desk')

end

end Storage

end Docblock
