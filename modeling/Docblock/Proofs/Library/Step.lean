import Docblock.Library.Basic

/-!
# What reading a file can do

A file that is known is what it is known as. Any other is opened, and what is opened tells which
files it imports: first those for their effects, then those for names. Both lists are followed by
one walk (`loadThrough`), where an import is skipped that leads nowhere or into a file that is being
read, and a fault ends everything at once.

What holds of every reading is proved by a `LoadRule`: a property of loading a file, a property of
following a list of imports, and one field for each step that keeps them. Faults are steps like the
others, so that what is proved this way also holds where a reading breaks off, and of the library
that it leaves. Each field is given how the parts of its step end besides what is already known of
them. Otherwise every rule would have to carry along that libraries only grow.

`LoadRule.holds` is the one induction. It is on the number of stored files that are not being read,
which is the measure of the recursion too. Nothing else in these files goes by that measure.
-/

namespace Docblock

/-- An import of a file: for its effects, or for names. -/
inductive Import where
  | effects (path : String)
  | names (names : List String) (path : String)
  deriving DecidableEq, Repr

/-- The path that an import gives. -/
def Import.path : Import → String
  | effects path => path
  | names _ path => path

/-- The blocks of a source that an import of it gives. -/
def Library.offers (library : Library) : Import → Nat → List BlockRef
  | .effects _, index => library.offered index
  | .names names _, index => library.offeredAs names index

/-! ## Opened files -/

/-- What a file says by itself: its blocks, and the imports that are followed. -/
structure Outline where
  blocks : List Block
  effects : List Import
  names : List Import

namespace Outline

/-- All imports, in the order in which they are followed. -/
def imports (outline : Outline) : List Import := outline.effects ++ outline.names

/-- The outline of a source. Imports of a source without blocks are not followed. -/
def ofSource (settings : Settings) (code : String) (blocks : List Block) : Outline :=
  if settings.followImports && !blocks.isEmpty then
    ⟨blocks, (sideEffectImports code).map .effects,
      (namedImports blocks).map fun named => .names named.names named.path⟩
  else ⟨blocks, [], []⟩

/-- The outline of a file, or why it has none. -/
def ofFile (settings : Settings) (storage : Storage) (path : String) :
    Except LoadFault Outline :=
  match storage.read settings.encoding path with
  | .error fault => .error fault
  | .ok code =>
    match Block.ofSource path code with
    | .error fault => .error (.source fault)
    | .ok blocks => .ok (ofSource settings code blocks)

@[simp]
theorem blocks_ofSource (settings : Settings) (code : String) (blocks : List Block) :
    (ofSource settings code blocks).blocks = blocks := by
  unfold ofSource
  split <;> rfl

/-- What can be opened can be read, and its blocks are those of its text. -/
theorem exists_source {settings : Settings} {storage : Storage} {path : String}
    {outline : Outline} (h : ofFile settings storage path = .ok outline) :
    ∃ code blocks, storage.read settings.encoding path = .ok code ∧
      Block.ofSource path code = .ok blocks ∧ outline = ofSource settings code blocks := by
  unfold ofFile at h
  split at h
  · cases h
  · rename_i code hcode
    split at h
    · cases h
    · rename_i blocks parsed
      cases h
      exact ⟨code, blocks, hcode, parsed, rfl⟩

/-- A file with a single comment that imports no names. -/
theorem ofFile_of_comment {storage : Storage} {path code : String} {comment : Comment} {block : Block}
    {paths : List String} (read : storage.read Settings.standard.encoding path = .ok code)
    (comments : Comment.ofSource code.toList = [comment])
    (parsed : Block.ofComment path comment = .ok block) (bare : block.elements.imports = [])
    (imports : sideEffectImports code = paths) :
    ofFile .standard storage path = .ok ⟨[block], paths.map .effects, []⟩ := by
  have named : namedImports [block] = [] := by simp [namedImports, bare]
  unfold ofFile
  simp only [read, Block.ofSource, comments, List.mapM_cons, List.mapM_nil, parsed]
  simp only [bind, Except.bind, pure, Except.pure, ofSource, imports, named]
  rfl

end Outline

/-! ## The walk along imports -/

/-- The blocks that the imports of a file give, added to those found so far. -/
def loadThrough (settings : Settings) (storage : Storage) (visiting : List String)
    (path : String) : List Import → List BlockRef → Loading (List BlockRef)
  | [], found => return found
  | imp :: rest, found => do
    match ← loadImport settings storage (path :: visiting) (Path.folder path) imp.path with
    | none => loadThrough settings storage visiting path rest found
    | some index =>
      loadThrough settings storage visiting path rest
        (addBlocks found ((← get).library.offers imp index))

namespace Loading

variable {α β : Type}

/-- An outcome in a state. -/
def endOf : Except LoadFault α → LoadState → EStateM.Result LoadFault LoadState α
  | .ok a, s => .ok a s
  | .error fault, s => .error fault s

/-- Steps from a state end with an outcome in another state. -/
def Ends (x : Loading α) (s : LoadState) (outcome : Except LoadFault α) (s' : LoadState) : Prop :=
  x s = endOf outcome s'

/-- All steps end. -/
theorem exists_ends (x : Loading α) (s : LoadState) : ∃ outcome s', x.Ends s outcome s' := by
  cases h : x s with
  | ok a s' => exact ⟨.ok a, s', h⟩
  | error fault s' => exact ⟨.error fault, s', h⟩

/-- Steps end in one way only. -/
theorem Ends.unique {x : Loading α} {s s₁ s₂ : LoadState} {outcome₁ outcome₂ : Except LoadFault α}
    (h₁ : x.Ends s outcome₁ s₁) (h₂ : x.Ends s outcome₂ s₂) : outcome₁ = outcome₂ ∧ s₁ = s₂ := by
  have same : endOf outcome₁ s₁ = endOf outcome₂ s₂ := h₁.symm.trans h₂
  cases outcome₁ <;> cases outcome₂ <;> cases same <;> exact ⟨rfl, rfl⟩

theorem ends_pure {a : α} {s s' : LoadState} {outcome : Except LoadFault α}
    (h : (pure a : Loading α).Ends s outcome s') : outcome = .ok a ∧ s' = s := by
  have here : (pure a : Loading α).Ends s (.ok a) s := rfl
  exact h.unique here

theorem ends_throw {fault : LoadFault} {s s' : LoadState} {outcome : Except LoadFault α}
    (h : (throw fault : Loading α).Ends s outcome s') : outcome = .error fault ∧ s' = s := by
  have here : (throw fault : Loading α).Ends s (.error fault) s := rfl
  exact h.unique here

/-- Steps after others are done where those end well. -/
theorem ends_bind {x : Loading α} {f : α → Loading β} {s s' : LoadState}
    {outcome : Except LoadFault β} (h : (x >>= f).Ends s outcome s') :
    (∃ fault, outcome = .error fault ∧ x.Ends s (.error fault) s') ∨
      ∃ a s₁, x.Ends s (.ok a) s₁ ∧ (f a).Ends s₁ outcome s' := by
  have run : (x >>= f) s = EStateM.bind x f s := rfl
  cases hx : x s with
  | ok a s₁ =>
    simp only [EStateM.bind, hx] at run
    exact .inr ⟨a, s₁, hx, run.symm.trans h⟩
  | error fault s₁ =>
    simp only [EStateM.bind, hx] at run
    have here : (x >>= f).Ends s (.error fault) s₁ := run
    obtain ⟨rfl, rfl⟩ := h.unique here
    exact .inl ⟨fault, rfl, hx⟩

end Loading

namespace LoadState

/-- The state after a path was opened. -/
def noted (s : LoadState) (path : String) : LoadState := { s with reads := s.reads ++ [path] }

/-- The state after a source was taken in. -/
def finished (s : LoadState) (source : Source) : LoadState :=
  { s with library := s.library.add source.file source }

end LoadState

/-- Steps that end well are followed by the next ones. -/
theorem Loading.Ends.bind {α β : Type} {x : Loading α} {f : α → Loading β} {a : α}
    {s s₁ s' : LoadState} {outcome : Except LoadFault β} (first : x.Ends s (.ok a) s₁)
    (next : (f a).Ends s₁ outcome s') : (x >>= f).Ends s outcome s' := by
  have run : (x >>= f) s = EStateM.bind x f s := rfl
  unfold Loading.Ends at first next ⊢
  rw [run, EStateM.bind, first]
  exact next

/-! ## Both walks are one -/

section

variable {settings : Settings} {storage : Storage} {visiting : List String} {path : String}

theorem loadAmbient_eq (paths : List String) (found : List BlockRef) :
    loadAmbient settings storage (path :: visiting) (Path.folder path) paths found =
      loadThrough settings storage visiting path (paths.map .effects) found := by
  induction paths generalizing found with
  | nil => rw [loadAmbient, List.map_nil, loadThrough]
  | cons next rest ih =>
    rw [loadAmbient, List.map_cons, loadThrough]
    refine bind_congr fun index => ?_
    cases index with
    | none => exact ih found
    | some index =>
      funext s
      exact congrFun (ih _) s

theorem loadNamed_eq (named : List NamedImport) (found : List BlockRef) :
    loadNamed settings storage (path :: visiting) (Path.folder path) named found =
      loadThrough settings storage visiting path
        (named.map fun named => .names named.names named.path) found := by
  induction named generalizing found with
  | nil => rw [loadNamed, List.map_nil, loadThrough]
  | cons next rest ih =>
    rw [loadNamed, List.map_cons, loadThrough]
    refine bind_congr fun index => ?_
    cases index with
    | none => exact ih found
    | some index =>
      funext s
      exact congrFun (ih _) s

/-- Follow the imports of an opened file and take it in. -/
def loadOutlined (settings : Settings) (storage : Storage) (visiting : List String)
    (path : String) (outline : Outline) : Loading Nat := do
  let ambient ← loadThrough settings storage visiting path outline.effects []
  let imported ← loadThrough settings storage visiting path outline.names []
  Loading.finish path outline.blocks ambient imported

variable {s s' : LoadState}

/-- What loading a file can do: find it known, fail to open it, or open it and follow what it
imports. -/
theorem load_cases {fresh : path ∉ visiting} {outcome : Except LoadFault Nat}
    (h : (load settings storage visiting path fresh).Ends s outcome s') :
    (∃ index, s.library.index? path = some index ∧ outcome = .ok index ∧ s' = s) ∨
      s.library.index? path = none ∧
        ((∃ fault, Outline.ofFile settings storage path = .error fault ∧
            outcome = .error fault ∧ s' = s.noted path) ∨
          ∃ outline, Outline.ofFile settings storage path = .ok outline ∧
            (loadOutlined settings storage visiting path outline).Ends (s.noted path)
              outcome s') := by
  rw [load] at h
  obtain ⟨fault, -, hget⟩ | ⟨s₀, s₁, hget, h⟩ := Loading.ends_bind h
  · cases hget
  cases hget
  cases known : s.library.index? path with
  | some index =>
    simp only [known] at h
    obtain ⟨rfl, rfl⟩ := Loading.ends_pure h
    exact .inl ⟨index, rfl, rfl, rfl⟩
  | none =>
    simp only [known] at h
    refine .inr ⟨rfl, ?_⟩
    obtain ⟨fault, -, hnote⟩ | ⟨u, s₁, hnote, h⟩ := Loading.ends_bind h
    · cases hnote
    cases hnote
    split at h
    · rename_i fault unread
      obtain ⟨rfl, rfl⟩ := Loading.ends_throw h
      exact .inl ⟨fault, by simp only [Outline.ofFile, unread], rfl, rfl⟩
    · rename_i code code_read
      cases parsed : Block.ofSource path code with
      | error fault =>
        rw [parsed] at h
        obtain ⟨rfl, rfl⟩ := Loading.ends_throw h
        exact .inl ⟨.source fault, by simp only [Outline.ofFile, code_read, parsed], rfl, rfl⟩
      | ok blocks =>
        rw [parsed] at h
        refine .inr ⟨.ofSource settings code blocks,
          by simp only [Outline.ofFile, code_read, parsed], ?_⟩
        obtain ⟨fault, -, hlift⟩ | ⟨blocks, s₁, hlift, h⟩ := Loading.ends_bind h
        · cases hlift
        cases hlift
        rw [loadOutlined, Outline.ofSource]
        split at h
        · rename_i follows
          rw [if_pos follows]
          -- The two lists of imports are followed by one walk.
          simp only [loadAmbient_eq, loadNamed_eq] at h
          exact h
        · rename_i follows
          rw [if_neg follows]
          exact h

/-- What following an import first can do: skip it, fail to load its file, or add what the file
gives. Imports that lead nowhere or back into an open file are skipped. -/
theorem loadThrough_cases {imp : Import} {rest : List Import} {found : List BlockRef}
    {outcome : Except LoadFault (List BlockRef)}
    (h : (loadThrough settings storage visiting path (imp :: rest) found).Ends s outcome s') :
    (∀ target, importTarget? (Path.folder path) imp.path = some target →
        target ∈ path :: visiting) ∧
        (loadThrough settings storage visiting path rest found).Ends s outcome s' ∨
      ∃ target, importTarget? (Path.folder path) imp.path = some target ∧
        ∃ fresh : target ∉ path :: visiting,
          (∃ fault, outcome = .error fault ∧
            (load settings storage (path :: visiting) target fresh).Ends s (.error fault) s') ∨
          ∃ index s₁,
            (load settings storage (path :: visiting) target fresh).Ends s (.ok index) s₁ ∧
            (loadThrough settings storage visiting path rest
              (addBlocks found (s₁.library.offers imp index))).Ends s₁ outcome s' := by
  rw [loadThrough, loadImport] at h
  cases ht : importTarget? (Path.folder path) imp.path with
  | none =>
    rw [ht] at h
    refine .inl ⟨fun target heq => (by cases heq), ?_⟩
    exact h
  | some target =>
    rw [ht] at h
    dsimp only at h
    split at h
    · rename_i visited
      refine .inl ⟨fun other heq => ?_, ?_⟩
      · cases heq
        exact visited
      · exact h
    · rename_i fresh
      refine .inr ⟨target, rfl, fresh, ?_⟩
      obtain ⟨fault, rfl, hload⟩ | ⟨found?, s₁, hload, h⟩ := Loading.ends_bind h
      · obtain ⟨fault', heq, hload⟩ | ⟨index, s₂, -, hpure⟩ := Loading.ends_bind hload
        · cases heq
          exact .inl ⟨fault, rfl, hload⟩
        · cases (Loading.ends_pure hpure).1
      · obtain ⟨fault', heq, -⟩ | ⟨index, s₂, hindex, hpure⟩ := Loading.ends_bind hload
        · cases heq
        · obtain ⟨heq, rfl⟩ := Loading.ends_pure hpure
          cases heq
          exact .inr ⟨index, _, hindex, h⟩

theorem finish_ends {blocks : List Block} {ambient imported : List BlockRef}
    {outcome : Except LoadFault Nat}
    (h : (Loading.finish path blocks ambient imported).Ends s outcome s') :
    outcome = .ok s.library.corpus.sources.length ∧
      s' = s.finished ⟨path, blocks, ambient, imported⟩ := by
  have here : (Loading.finish path blocks ambient imported).Ends s
    (.ok s.library.corpus.sources.length) (s.finished ⟨path, blocks, ambient, imported⟩) := rfl
  exact h.unique here

/-- A file that is known is found. -/
theorem load_of_known {fresh : path ∉ visiting} {index : Nat}
    (known : s.library.index? path = some index) :
    (load settings storage visiting path fresh).Ends s (.ok index) s := by
  obtain ⟨outcome, s', ends⟩ := (load settings storage visiting path fresh).exists_ends s
  obtain ⟨other, known', rfl, rfl⟩ | ⟨unknown, -⟩ := load_cases ends
  · cases known.symm.trans known'
    exact ends
  · cases unknown.symm.trans known

/-- A file that was not known and is loaded well has been opened, and its imports followed. -/
theorem load_new {fresh : path ∉ visiting} {index : Nat}
    (unknown : s.library.index? path = none)
    (h : (load settings storage visiting path fresh).Ends s (.ok index) s') :
    ∃ outline ambient imported s₁ s₂, Outline.ofFile settings storage path = .ok outline ∧
      (loadThrough settings storage visiting path outline.effects []).Ends (s.noted path)
        (.ok ambient) s₁ ∧
      (loadThrough settings storage visiting path outline.names []).Ends s₁ (.ok imported) s₂ ∧
      index = s₂.library.corpus.sources.length ∧
      s' = s₂.finished ⟨path, outline.blocks, ambient, imported⟩ := by
  obtain ⟨index, known, -⟩ | ⟨-, ⟨fault, -, heq, -⟩ | ⟨outline, opened, h⟩⟩ := load_cases h
  · cases unknown.symm.trans known
  · cases heq
  obtain ⟨fault, heq, -⟩ | ⟨ambient, s₁, ra, h⟩ := Loading.ends_bind h
  · cases heq
  obtain ⟨fault, heq, -⟩ | ⟨imported, s₂, ri, h⟩ := Loading.ends_bind h
  · cases heq
  obtain ⟨heq, rfl⟩ := finish_ends h
  cases heq
  exact ⟨outline, ambient, imported, s₁, s₂, opened, ra, ri, rfl, rfl⟩

/-- A file that is not known is opened, what it imports is followed, and it is taken in. -/
theorem load_of_walks {fresh : path ∉ visiting} {outline : Outline} {ambient imported : List BlockRef}
    {s₁ s₂ : LoadState} (unknown : s.library.index? path = none)
    (opened : Outline.ofFile settings storage path = .ok outline)
    (effects : (loadThrough settings storage visiting path outline.effects []).Ends (s.noted path)
      (.ok ambient) s₁)
    (names : (loadThrough settings storage visiting path outline.names []).Ends s₁ (.ok imported)
      s₂) :
    (load settings storage visiting path fresh).Ends s (.ok s₂.library.corpus.sources.length)
      (s₂.finished ⟨path, outline.blocks, ambient, imported⟩) := by
  have outlined : (loadOutlined settings storage visiting path outline).Ends (s.noted path)
      (.ok s₂.library.corpus.sources.length)
      (s₂.finished ⟨path, outline.blocks, ambient, imported⟩) := effects.bind (names.bind rfl)
  obtain ⟨outcome, s', ends⟩ := (load settings storage visiting path fresh).exists_ends s
  obtain ⟨index, known, -⟩ | ⟨-, ⟨fault, unopened, -⟩ | ⟨other, opened', h⟩⟩ := load_cases ends
  · cases unknown.symm.trans known
  · cases opened.symm.trans unopened
  · cases opened.symm.trans opened'
    obtain ⟨rfl, rfl⟩ := h.unique outlined
    exact ends

/-- An import that leads nowhere, or back into an open file, is skipped. -/
theorem loadThrough_of_visited {imp : Import} {rest : List Import} {found : List BlockRef}
    {outcome : Except LoadFault (List BlockRef)}
    (visited : ∀ target, importTarget? (Path.folder path) imp.path = some target →
      target ∈ path :: visiting)
    (walked : (loadThrough settings storage visiting path rest found).Ends s outcome s') :
    (loadThrough settings storage visiting path (imp :: rest) found).Ends s outcome s' := by
  obtain ⟨other, s₂, ends⟩ :=
    (loadThrough settings storage visiting path (imp :: rest) found).exists_ends s
  obtain ⟨-, h⟩ | ⟨target, ht, fresh, -⟩ := loadThrough_cases ends
  · obtain ⟨rfl, rfl⟩ := h.unique walked
    exact ends
  · exact absurd (visited target ht) fresh

/-- An import that leads to a file which is loaded gives what that file offers. -/
theorem loadThrough_of_load {imp : Import} {rest : List Import} {found : List BlockRef}
    {target : String} {index : Nat} {s₁ : LoadState}
    {outcome : Except LoadFault (List BlockRef)} (fresh : target ∉ path :: visiting)
    (ht : importTarget? (Path.folder path) imp.path = some target)
    (loaded : (load settings storage (path :: visiting) target fresh).Ends s (.ok index) s₁)
    (walked : (loadThrough settings storage visiting path rest
      (addBlocks found (s₁.library.offers imp index))).Ends s₁ outcome s') :
    (loadThrough settings storage visiting path (imp :: rest) found).Ends s outcome s' := by
  obtain ⟨other, s₂, ends⟩ :=
    (loadThrough settings storage visiting path (imp :: rest) found).exists_ends s
  obtain ⟨visited, -⟩ | ⟨target', ht', fresh', ⟨fault, -, failed⟩ | ⟨index', s₁', loaded', h⟩⟩ :=
    loadThrough_cases ends
  · exact absurd (visited target ht) fresh
  · cases ht.symm.trans ht'
    cases (loaded.unique failed).1
  · cases ht.symm.trans ht'
    obtain ⟨same, rfl⟩ := loaded.unique loaded'
    cases same
    obtain ⟨rfl, rfl⟩ := h.unique walked
    exact ends

end

/-- Reading a file is loading it while no other file is being read. -/
theorem Library.read_ends (library : Library) (settings : Settings) (storage : Storage)
    (path : String) :
    (load settings storage [] (Path.normal path) (by simp)).Ends ⟨library, []⟩
      (library.read settings storage path).outcome
      ⟨(library.read settings storage path).library, (library.read settings storage path).reads⟩ := by
  unfold Library.read
  cases h : load settings storage [] (Path.normal path) (by simp) ⟨library, []⟩ with
  | ok index s' => exact h
  | error fault s' => exact h

theorem Library.read_of_ends {library : Library} {settings : Settings} {storage : Storage}
    {file path : String} {outcome : Except LoadFault Nat} {s' : LoadState}
    (normal : Path.normal file = path)
    (ends : (load settings storage [] path (by simp)).Ends ⟨library, []⟩ outcome s') :
    library.read settings storage file = ⟨outcome, s'.library, s'.reads⟩ := by
  subst normal
  obtain ⟨rfl, rfl⟩ := (library.read_ends settings storage file).unique ends
  rfl

/-! ## What every step keeps -/

/-- A property of loading files and one of following the imports of a file, each kept by every
step that loading can take. -/
structure LoadRule (settings : Settings) (storage : Storage)
    (file : List String → String → LoadState → Except LoadFault Nat → LoadState → Prop)
    (walk : List String → String → List Import → List BlockRef → LoadState →
      Except LoadFault (List BlockRef) → LoadState → Prop) : Prop where
  known {visiting : List String} {path : String} {s : LoadState} {index : Nat} :
    s.library.index? path = some index → file visiting path s (.ok index) s
  broken {visiting : List String} {path : String} {s : LoadState} {fault : LoadFault} :
    s.library.index? path = none → Outline.ofFile settings storage path = .error fault →
      file visiting path s (.error fault) (s.noted path)
  ambientFault {visiting : List String} {path : String} {s s' : LoadState} {outline : Outline}
    {fault : LoadFault} :
    path ∉ visiting → s.library.index? path = none →
      Outline.ofFile settings storage path = .ok outline →
      (loadThrough settings storage visiting path outline.effects []).Ends (s.noted path)
        (.error fault) s' →
      walk visiting path outline.effects [] (s.noted path) (.error fault) s' →
      file visiting path s (.error fault) s'
  importedFault {visiting : List String} {path : String} {s s₁ s' : LoadState}
    {outline : Outline} {ambient : List BlockRef} {fault : LoadFault} :
    path ∉ visiting → s.library.index? path = none →
      Outline.ofFile settings storage path = .ok outline →
      (loadThrough settings storage visiting path outline.effects []).Ends (s.noted path)
        (.ok ambient) s₁ →
      (loadThrough settings storage visiting path outline.names []).Ends s₁ (.error fault) s' →
      walk visiting path outline.effects [] (s.noted path) (.ok ambient) s₁ →
      walk visiting path outline.names [] s₁ (.error fault) s' →
      file visiting path s (.error fault) s'
  done {visiting : List String} {path : String} {s s₁ s₂ : LoadState} {outline : Outline}
    {ambient imported : List BlockRef} :
    path ∉ visiting → s.library.index? path = none →
      Outline.ofFile settings storage path = .ok outline →
      (loadThrough settings storage visiting path outline.effects []).Ends (s.noted path)
        (.ok ambient) s₁ →
      (loadThrough settings storage visiting path outline.names []).Ends s₁ (.ok imported) s₂ →
      walk visiting path outline.effects [] (s.noted path) (.ok ambient) s₁ →
      walk visiting path outline.names [] s₁ (.ok imported) s₂ →
      file visiting path s (.ok s₂.library.corpus.sources.length)
        (s₂.finished ⟨path, outline.blocks, ambient, imported⟩)
  nil {visiting : List String} {path : String} {s : LoadState} {found : List BlockRef} :
    walk visiting path [] found s (.ok found) s
  skip {visiting : List String} {path : String} {s s' : LoadState} {imp : Import}
    {rest : List Import} {found : List BlockRef} {outcome : Except LoadFault (List BlockRef)} :
    (∀ target, importTarget? (Path.folder path) imp.path = some target →
      target ∈ path :: visiting) →
      walk visiting path rest found s outcome s' →
      walk visiting path (imp :: rest) found s outcome s'
  fault {visiting : List String} {path target : String} {s s' : LoadState} {imp : Import}
    {rest : List Import} {found : List BlockRef} {fault : LoadFault}
    (fresh : target ∉ path :: visiting) :
    importTarget? (Path.folder path) imp.path = some target →
      (load settings storage (path :: visiting) target fresh).Ends s (.error fault) s' →
      file (path :: visiting) target s (.error fault) s' →
      walk visiting path (imp :: rest) found s (.error fault) s'
  next {visiting : List String} {path target : String} {s s₁ s' : LoadState} {imp : Import}
    {rest : List Import} {found : List BlockRef} {index : Nat}
    {outcome : Except LoadFault (List BlockRef)} (fresh : target ∉ path :: visiting) :
    importTarget? (Path.folder path) imp.path = some target →
      (load settings storage (path :: visiting) target fresh).Ends s (.ok index) s₁ →
      (loadThrough settings storage visiting path rest
        (addBlocks found (s₁.library.offers imp index))).Ends s₁ outcome s' →
      file (path :: visiting) target s (.ok index) s₁ →
      walk visiting path rest (addBlocks found (s₁.library.offers imp index)) s₁ outcome s' →
      walk visiting path (imp :: rest) found s outcome s'

namespace LoadRule

variable {settings : Settings} {storage : Storage}
  {file : List String → String → LoadState → Except LoadFault Nat → LoadState → Prop}
  {walk : List String → String → List Import → List BlockRef → LoadState →
    Except LoadFault (List BlockRef) → LoadState → Prop}

/-- Following imports has its property where loading the files that they lead to has its own. -/
theorem walk_of_file (rule : LoadRule settings storage file walk) {visiting : List String}
    {path : String}
    (files : ∀ {target s outcome s'} (fresh : target ∉ path :: visiting),
      (load settings storage (path :: visiting) target fresh).Ends s outcome s' →
      file (path :: visiting) target s outcome s')
    {imports : List Import} {found : List BlockRef} {s s' : LoadState}
    {outcome : Except LoadFault (List BlockRef)}
    (h : (loadThrough settings storage visiting path imports found).Ends s outcome s') :
    walk visiting path imports found s outcome s' := by
  induction imports generalizing found s with
  | nil =>
    rw [loadThrough] at h
    obtain ⟨rfl, rfl⟩ := Loading.ends_pure h
    exact rule.nil
  | cons imp rest ih =>
    obtain ⟨visited, hrest⟩ | ⟨target, ht, fresh, ⟨fault, rfl, hload⟩ | ⟨index, s₁, hload, hrest⟩⟩ :=
      loadThrough_cases h
    · exact rule.skip visited (ih hrest)
    · exact rule.fault fresh ht hload (files fresh hload)
    · exact rule.next fresh ht hload hrest (files fresh hload) (ih hrest)

/-- Loading a file has its property. The induction is on the files that are not being read. -/
theorem holds (rule : LoadRule settings storage file walk) {visiting : List String}
    {path : String} (fresh : path ∉ visiting) {s s' : LoadState} {outcome : Except LoadFault Nat}
    (h : (load settings storage visiting path fresh).Ends s outcome s') :
    file visiting path s outcome s' := by
  obtain ⟨index, hk, rfl, rfl⟩ | ⟨hn, ⟨fault, hf, rfl, rfl⟩ | ⟨outline, ho, hload⟩⟩ := load_cases h
  · exact rule.known hk
  · exact rule.broken hn hf
  -- Only files that can be opened are followed, so fewer remain.
  have smaller : storage.countNew (path :: visiting) < storage.countNew visiting := by
    obtain ⟨code, -, hcode, -⟩ := Outline.exists_source ho
    exact Storage.countNew_cons_lt hcode fresh
  have walk_ends : ∀ {imports found s s' outcome},
      (loadThrough settings storage visiting path imports found).Ends s outcome s' →
      walk visiting path imports found s outcome s' :=
    fun h => rule.walk_of_file (fun fresh' h' => holds rule fresh' h') h
  obtain ⟨fault, rfl, ha⟩ | ⟨ambient, s₁, ha, hload⟩ := Loading.ends_bind hload
  · exact rule.ambientFault fresh hn ho ha (walk_ends ha)
  obtain ⟨fault, rfl, hi⟩ | ⟨imported, s₂, hi, hload⟩ := Loading.ends_bind hload
  · exact rule.importedFault fresh hn ho ha hi (walk_ends ha) (walk_ends hi)
  obtain ⟨rfl, rfl⟩ := finish_ends hload
  exact rule.done fresh hn ho ha hi (walk_ends ha) (walk_ends hi)
termination_by storage.countNew visiting

/-- Following imports has its property. -/
theorem walks (rule : LoadRule settings storage file walk) {visiting : List String}
    {path : String} {imports : List Import} {found : List BlockRef} {s s' : LoadState}
    {outcome : Except LoadFault (List BlockRef)}
    (h : (loadThrough settings storage visiting path imports found).Ends s outcome s') :
    walk visiting path imports found s outcome s' :=
  rule.walk_of_file (fun fresh => rule.holds fresh) h

end LoadRule

end Docblock
