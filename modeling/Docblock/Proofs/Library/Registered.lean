import Docblock.Proofs.Library.Ambient

/-!
# Where the blocks that a file sees come from

Every block that a source sees can be traced to an import of its file: a block seen for its effects
to a file that imports for effects lead to, a block seen by name to a tag of the file that lists its
name and gives the path of its file (`Traced`). Files may be forgotten and read again, they may
fail, and they may lead back to themselves, so a source may see blocks of a source that nobody knows
any more, and blocks of its own file from an earlier reading; the way to them is one of imports all
the same. What is known of a path after a session is therefore what its imports allow
(`registered_of_session`).

It is a bound from above. Which of the blocks that imports allow are there is told by views, and
only where no cycle is reached. On a cycle it depends on the order of reading, and the example at
the end shows a file that sees itself.
-/

namespace Docblock

open Library

/-! ## Ways to a block -/

/-- The names that stand between the braces of a tag. -/
def Tag.listed (tag : Tag) : List String :=
  (Text.splitOn ',' tag.typeText.toList).map fun piece => String.ofList (Text.trim piece)

/-- A tag of a file imports names, and its path leads to another file. -/
def Tag.ImportsFrom (tag : Tag) (path target : String) : Prop :=
  tag.name = "from" ∧ importTarget? (Path.folder path)
    (String.ofList (Text.unquote tag.description.toList)) = some target

namespace Corpus

/-- Imports for their effects lead from a file to the file of a block, in one step or more. -/
def FromEffects (settings : Settings) (storage : Storage) (corpus : Corpus) (path : String)
    (ref : BlockRef) : Prop :=
  ∃ block, corpus.block? ref = some block ∧
    Relation.TransGen (ImportsEffects settings storage) path block.file

/-- One of some blocks of a file has a tag that imports from the file of a block, and lists the name
of that block. -/
def FromNames (corpus : Corpus) (path : String) (blocks : List Block) (ref : BlockRef) : Prop :=
  ∃ block named, corpus.block? ref = some block ∧ block.typedefTag? = some named ∧
    ∃ importer ∈ blocks, ∃ tag ∈ importer.elements.imports,
      tag.ImportsFrom path block.file ∧ named.name ∈ tag.listed

end Corpus

variable {settings : Settings} {storage : Storage}

/-- What an import may give of the file that it leads to: for its effects also the blocks of files
that further imports for effects lead to, else those of the names that it asks for. -/
def Import.Gives (settings : Settings) (storage : Storage) (target : String) (block : Block) :
    Import → Prop
  | .effects _ => Relation.ReflTransGen (ImportsEffects settings storage) target block.file
  | .names words _ => block.file = target ∧ words.any (block.declares ·) = true

/-! ## What blocks and outlines tell -/

/-- A block knows the file that it stands in. -/
theorem Block.file_of_ofSource {file code : String} {blocks : List Block}
    (h : Block.ofSource file code = .ok blocks) {block : Block} (hb : block ∈ blocks) :
    block.file = file := by
  obtain ⟨comment, -, made⟩ := exists_of_mem_mapM h hb
  unfold Block.ofComment at made
  split at made
  · cases made
    rfl
  · cases made

theorem Outline.file_of_opened {path : String} {outline : Outline}
    (opened : ofFile settings storage path = .ok outline) {block : Block}
    (hb : block ∈ outline.blocks) : block.file = path := by
  obtain ⟨code, blocks, -, parsed, rfl⟩ := exists_source opened
  rw [blocks_ofSource] at hb
  exact Block.file_of_ofSource parsed hb

/-- The imports for effects in an outline are some that the text names. -/
theorem Outline.importsEffects {path target : String} {outline : Outline} {imp : Import}
    (opened : ofFile settings storage path = .ok outline) (hm : imp ∈ outline.effects)
    (ht : importTarget? (Path.folder path) imp.path = some target) :
    ImportsEffects settings storage path target := by
  obtain ⟨code, hcode, effects⟩ := effects_of_opened opened
  rw [effects] at hm
  split at hm
  · obtain ⟨spec, hspec, rfl⟩ := List.mem_map.1 hm
    exact ⟨code, hcode, spec, hspec, ht⟩
  · cases hm

/-- An import of names asks for names between the braces of its tag. -/
theorem NamedImport.ofTag?_eq_some {tag : Tag} {named : NamedImport}
    (h : ofTag? tag = some named) :
    tag.name = "from" ∧ named.path = String.ofList (Text.unquote tag.description.toList) ∧
      ∀ name ∈ named.names, name ∈ tag.listed := by
  unfold ofTag? at h
  split at h
  · rename_i used
    cases h
    refine ⟨used.1, rfl, fun name hn => ?_⟩
    obtain ⟨piece, hp, rfl⟩ := List.mem_map.1 hn
    obtain ⟨raw, hraw, rfl⟩ := List.mem_map.1 (List.mem_filter.1 hp).1
    exact List.mem_map.2 ⟨raw, hraw, rfl⟩
  · cases h

/-- The imports of names in an outline are those of tags of its blocks. -/
theorem Outline.exists_tag {path : String} {outline : Outline} {imp : Import}
    (opened : ofFile settings storage path = .ok outline) (hm : imp ∈ outline.names) :
    ∃ importer ∈ outline.blocks, ∃ tag ∈ importer.elements.imports, ∃ named,
      NamedImport.ofTag? tag = some named ∧ imp = .names named.names named.path := by
  obtain ⟨code, blocks, -, -, rfl⟩ := exists_source opened
  rw [blocks_ofSource]
  unfold ofSource at hm
  split at hm
  · obtain ⟨named, hn, rfl⟩ := List.mem_map.1 hm
    obtain ⟨importer, hb, ht⟩ := List.mem_flatMap.1 hn
    obtain ⟨tag, htag, made⟩ := List.mem_filterMap.1 ht
    exact ⟨importer, hb, tag, htag, named, made, rfl⟩
  · cases hm

/-! ## Traced libraries -/

namespace Library

/-- Every block that a source sees comes from an import of its file, whether the source is still
known or not. -/
structure Traced (settings : Settings) (storage : Storage) (library : Library) : Prop where
  ambient : ∀ {index : Nat} {source : Source}, library.corpus.sources[index]? = some source →
    ∀ ref ∈ source.ambient, library.corpus.FromEffects settings storage source.file ref
  imported : ∀ {index : Nat} {source : Source}, library.corpus.sources[index]? = some source →
    ∀ ref ∈ source.imported, library.corpus.FromNames source.file source.blocks ref

/-- A block is given by one of the imports of a file. -/
def Brings (settings : Settings) (storage : Storage) (library : Library) (path : String)
    (imports : List Import) (ref : BlockRef) : Prop :=
  ∃ imp ∈ imports, ∃ target, importTarget? (Path.folder path) imp.path = some target ∧
    ∃ block, library.corpus.block? ref = some block ∧ imp.Gives settings storage target block

variable {visiting : List String} {library before after : Library} {path : String}

theorem traced_empty (settings : Settings) (storage : Storage) :
    Traced settings storage empty where
  ambient h := by simp [empty] at h
  imported h := by simp [empty] at h

theorem Grown.fromEffects (h : Grown visiting before after) {ref : BlockRef}
    (hr : before.corpus.FromEffects settings storage path ref) :
    after.corpus.FromEffects settings storage path ref := by
  obtain ⟨block, hb, way⟩ := hr
  exact ⟨block, h.block? hb, way⟩

theorem Grown.fromNames (h : Grown visiting before after) {blocks : List Block} {ref : BlockRef}
    (hr : before.corpus.FromNames path blocks ref) : after.corpus.FromNames path blocks ref := by
  obtain ⟨block, named, hb, rest⟩ := hr
  exact ⟨block, named, h.block? hb, rest⟩

theorem Grown.brings (h : Grown visiting before after) {imports : List Import} {ref : BlockRef}
    (hr : before.Brings settings storage path imports ref) :
    after.Brings settings storage path imports ref := by
  obtain ⟨imp, hm, target, ht, block, hb, gives⟩ := hr
  exact ⟨imp, hm, target, ht, block, h.block? hb, gives⟩

theorem Brings.cons {imp : Import} {rest : List Import} {ref : BlockRef}
    (h : library.Brings settings storage path rest ref) :
    library.Brings settings storage path (imp :: rest) ref := by
  obtain ⟨other, hm, way⟩ := h
  exact ⟨other, List.mem_cons_of_mem _ hm, way⟩

/-- What the imports for effects of a file bring is traced to them. -/
theorem Brings.fromEffects {outline : Outline} {ref : BlockRef}
    (h : library.Brings settings storage path outline.effects ref)
    (opened : Outline.ofFile settings storage path = .ok outline) :
    library.corpus.FromEffects settings storage path ref := by
  obtain ⟨imp, hm, target, ht, block, hb, gives⟩ := h
  obtain ⟨spec, rfl⟩ := Outline.exists_spec opened hm
  have first := Outline.importsEffects opened hm ht
  exact ⟨block, hb, .head' first gives⟩

/-- What the imports of names of a file bring is traced to its tags. -/
theorem Brings.fromNames {outline : Outline} {ref : BlockRef}
    (h : library.Brings settings storage path outline.names ref)
    (opened : Outline.ofFile settings storage path = .ok outline) :
    library.corpus.FromNames path outline.blocks ref := by
  obtain ⟨imp, hm, target, ht, block, hb, gives⟩ := h
  obtain ⟨importer, hi, tag, htag, asked, made, rfl⟩ := Outline.exists_tag opened hm
  obtain ⟨word, source, listed⟩ := NamedImport.ofTag?_eq_some made
  obtain ⟨rfl, declared⟩ := gives
  obtain ⟨name, hn, declares⟩ := List.any_eq_true.1 declared
  obtain ⟨named, htypedef, same⟩ := (Option.any_eq_true _ _).1 declares
  obtain rfl : named.name = name := by simpa using same
  refine ⟨block, named, hb, htypedef, importer, hi, tag, htag, ⟨word, ?_⟩, listed _ hn⟩
  rw [← source]
  exact ht

/-- What a known file offers to an import is what the import may give. -/
theorem Traced.gives_of_offers (h : Traced settings storage library)
    (sound : Sound settings storage library) {imp : Import} {target : String} {index : Nat}
    (known : library.index? target = some index) {ref : BlockRef}
    (hr : ref ∈ library.offers imp index) :
    ∃ block, library.corpus.block? ref = some block ∧ imp.Gives settings storage target block := by
  obtain ⟨source, outline, hs, rfl, opened, blocks⟩ := sound.known known
  rw [offers_eq hs, List.mem_append] at hr
  rcases hr with own | passed
  · obtain ⟨place, hp, rfl⟩ := List.mem_map.1 own
    obtain ⟨block, hb, -⟩ := mem_namedPlaces.1 (Import.mem_namedPlaces_of_own hp)
    have file : block.file = source.file :=
      Outline.file_of_opened opened (blocks ▸ List.mem_of_getElem? hb)
    refine ⟨block, by simp [Corpus.block?, hs, hb], ?_⟩
    cases imp with
    | effects spec => exact file ▸ .refl
    | names names spec =>
      refine ⟨file, ?_⟩
      simpa [hb] using (List.mem_filter.1 hp).2
  · cases imp with
    | effects spec =>
      obtain ⟨block, hb, way⟩ := h.ambient hs ref passed
      exact ⟨block, hb, way.to_reflTransGen⟩
    | names names spec => cases passed

/-- A file is taken in whose imports brought it what it sees. -/
theorem Traced.add (h : Traced settings storage library) {outline : Outline}
    {ambient imported : List BlockRef} (unknown : library.index? path = none)
    (opened : Outline.ofFile settings storage path = .ok outline)
    (ha : ∀ ref ∈ ambient, library.Brings settings storage path outline.effects ref)
    (hi : ∀ ref ∈ imported, library.Brings settings storage path outline.names ref) :
    Traced settings storage (library.add path ⟨path, outline.blocks, ambient, imported⟩) := by
  have grown : Grown [] library (library.add path ⟨path, outline.blocks, ambient, imported⟩) :=
    .add _ (by simp) unknown
  constructor
  · intro index source hs ref hr
    rcases getElem?_add.1 hs with old | ⟨-, rfl⟩
    · exact grown.fromEffects (h.ambient old ref hr)
    · exact grown.fromEffects ((ha ref hr).fromEffects opened)
  · intro index source hs ref hr
    rcases getElem?_add.1 hs with old | ⟨-, rfl⟩
    · exact grown.fromNames (h.imported old ref hr)
    · exact grown.fromNames ((hi ref hr).fromNames opened)

end Library

/-! ## Loading keeps a library traced -/

theorem traced_rule (settings : Settings) (storage : Storage) : LoadRule settings storage
    (fun _ _ s _ s' => Sound settings storage s.library →
      Traced settings storage s.library → Traced settings storage s'.library)
    (fun _ path imports found s outcome s' => Sound settings storage s.library →
      Traced settings storage s.library →
      Traced settings storage s'.library ∧ ∀ out, outcome = .ok out → ∀ ref ∈ out,
        ref ∈ found ∨ s'.library.Brings settings storage path imports ref) where
  known _ _ traced := traced
  broken _ _ _ traced := traced
  ambientFault _ _ _ _ ha sound traced := (ha sound traced).1
  importedFault _ _ _ ra _ ha hi sound traced :=
    (hi (sound_of_walk ra sound) (ha sound traced).1).1
  done {visiting path s s₁ s₂ outline ambient imported} fresh unknown opened ra ri ha hi sound
      traced := by
    obtain ⟨traced₁, effects⟩ := ha sound traced
    obtain ⟨traced₂, names⟩ := hi (sound_of_walk ra sound) traced₁
    have grown := grown_of_walk ri
    have open_still := ((grown_of_walk ra).trans grown).closed List.mem_cons_self unknown
    refine traced₂.add open_still opened (fun ref hr => ?_) fun ref hr => ?_
    -- What the first list brought is still there after the second one.
    · exact grown.brings ((effects ambient rfl ref hr).resolve_left List.not_mem_nil)
    · exact (names imported rfl ref hr).resolve_left List.not_mem_nil
  nil _ traced := ⟨traced, fun _ heq ref hr => by
    cases heq
    exact .inl hr⟩
  skip _ hrest sound traced := by
    obtain ⟨traced', brought⟩ := hrest sound traced
    exact ⟨traced', fun out heq ref hr => (brought out heq ref hr).imp_right .cons⟩
  fault _ _ _ hfile sound traced := ⟨hfile sound traced, fun _ heq => by cases heq⟩
  next {visiting path target s s₁ s' imp rest found index outcome} _ ht rf rr hfile hrest sound
      traced := by
    have sound₁ := sound_of_load rf sound
    have traced₁ := hfile sound traced
    obtain ⟨traced', brought⟩ := hrest sound₁ traced₁
    refine ⟨traced', fun out heq ref hr => ?_⟩
    rcases brought out heq ref hr with hr | later
    · rcases mem_addNew.1 hr with before | offered
      · exact .inl before
      · obtain ⟨block, hb, gives⟩ := traced₁.gives_of_offers sound₁ (index?_of_load rf) offered
        refine .inr ((grown_of_walk rr).brings ?_)
        exact ⟨imp, List.mem_cons_self, target, ht, block, hb, gives⟩
    · exact .inr later.cons

namespace Library

/-- Reading a file keeps a library traced, whether it ends well or not. -/
theorem Traced.read {library : Library} (h : Traced settings storage library)
    (sound : Sound settings storage library) (path : String) :
    Traced settings storage (library.read settings storage path).library :=
  (traced_rule settings storage).holds _ (library.read_ends settings storage path) sound h

theorem Traced.forgets {before after : Library} (h : Traced settings storage before)
    (forgets : Forgets before after) : Traced settings storage after := by
  constructor
  · rw [forgets.corpus]
    exact h.ambient
  · rw [forgets.corpus]
    exact h.imported

/-- Libraries are traced after every session over the same files. -/
theorem traced_of_session (settings : Settings) (storage : Storage) (actions : List Action) :
    Traced settings storage (ofSession (actions.map (.mk settings storage))) := by
  have both : let library := ofSession (actions.map (.mk settings storage))
      Steady settings storage library ∧ Traced settings storage library := by
    have start : Steady settings storage empty := steady_of_session settings storage []
    refine holds_of_session (fun library =>
        Steady settings storage library ∧ Traced settings storage library)
      ⟨start, traced_empty settings storage⟩ fun library event he ⟨steady, traced⟩ => ?_
    obtain ⟨action, -, rfl⟩ := List.mem_map.1 he
    obtain ⟨path, -, heq⟩ | forgets := library.perform_cases ⟨settings, storage, action⟩
    · rw [heq]
      exact ⟨steady.read path, traced.read steady.sound path⟩
    · exact ⟨steady.forgets forgets, traced.forgets forgets⟩
  exact both.2

/-! ## What is known of a path -/

/-- The source that stands for a path has blocks of that file. Its own named blocks are all there in
order, and the blocks of others that it sees are named, are there once, and come from imports. -/
structure Registered (settings : Settings) (storage : Storage) (library : Library) (path : String)
    (index : Nat) (source : Source) : Prop where
  found : library.corpus.sources[index]? = some source
  file : ∀ block ∈ source.blocks, block.file = path
  own : ∀ ref, ref ∈ source.localRefs index ↔ ref.source = index ∧
    ∃ block, source.blocks[ref.place]? = some block ∧ block.typedefTag?.isSome = true
  ordered : (source.localRefs index).Pairwise fun ref next => ref.place < next.place
  ambient_nodup : source.ambient.Nodup
  ambient : ∀ ref ∈ source.ambient, library.corpus.Names ref ∧
    library.corpus.FromEffects settings storage path ref
  imported_nodup : source.imported.Nodup
  imported : ∀ ref ∈ source.imported, library.corpus.Names ref ∧
    library.corpus.FromNames path source.blocks ref

end Library

theorem Source.mem_localRefs {source : Source} {index : Nat} {ref : BlockRef} :
    ref ∈ source.localRefs index ↔ ref.source = index ∧
      ∃ block, source.blocks[ref.place]? = some block ∧ block.typedefTag?.isSome = true := by
  obtain ⟨from?, place⟩ := ref
  rw [localRefs_eq, List.mem_map]
  constructor
  · rintro ⟨place', hp, heq⟩
    cases heq
    exact ⟨rfl, mem_namedPlaces.1 hp⟩
  · rintro ⟨rfl, named⟩
    exact ⟨place, mem_namedPlaces.2 named, rfl⟩

/-- Places are counted upwards. -/
theorem sorted_namedPlaces (blocks : List Block) : (namedPlaces blocks).Pairwise (· < ·) := by
  unfold namedPlaces
  rw [List.pairwise_filterMap]
  have counted : (blocks.zipIdx.map Prod.snd).Pairwise (· < ·) := by
    rw [List.zipIdx_eq_zip_range', List.map_snd_zip (by simp)]
    exact List.pairwise_lt_range'
  refine (List.pairwise_map.1 counted).imp fun {entry next} lt place hp place' hp' => ?_
  obtain ⟨-, here⟩ := Option.ite_none_right_eq_some.1 hp
  obtain ⟨-, there⟩ := Option.ite_none_right_eq_some.1 hp'
  cases here
  cases there
  exact lt

theorem Source.sorted_localRefs (source : Source) (index : Nat) :
    (source.localRefs index).Pairwise fun ref next => ref.place < next.place := by
  rw [localRefs_eq, List.pairwise_map]
  exact sorted_namedPlaces source.blocks

/-- After any session over the same files, whatever was read, failed and was forgotten, and however
the files import each other, what is known of a path has only blocks of that file, knows which of
them are named, and sees named blocks of others, each once, that its imports lead to. -/
theorem Library.registered_of_session (settings : Settings) (storage : Storage)
    (actions : List Action) {path : String} {index : Nat}
    (known : (ofSession (actions.map (.mk settings storage))).index? path = some index) :
    ∃ source, Registered settings storage (ofSession (actions.map (.mk settings storage))) path
      index source := by
  have sound := (steady_of_session settings storage actions).sound
  have traced := traced_of_session settings storage actions
  obtain ⟨source, outline, hs, rfl, opened, blocks⟩ := sound.known known
  obtain ⟨ambient_nodup, ambient_named⟩ := sound.ambient hs
  obtain ⟨imported_nodup, imported_named⟩ := sound.imported hs
  exact ⟨source, {
    found := hs
    file := fun block hb => Outline.file_of_opened opened (blocks ▸ hb)
    own := fun ref => Source.mem_localRefs
    ordered := source.sorted_localRefs index
    ambient_nodup := ambient_nodup
    ambient := fun ref hr => ⟨ambient_named ref hr, traced.ambient hs ref hr⟩
    imported_nodup := imported_nodup
    imported := fun ref hr => ⟨imported_named ref hr, traced.imported hs ref hr⟩ }⟩

/-! ## A file that is read again on a cycle -/

namespace Ring

/-- One of the two files is forgotten after both were read, and is read again. -/
def again : List Action := [.read "x.js", .remove "y.js", .read "y.js"]

/-- The file that was read within the other sees nothing of it. -/
def readOnce : Library where
  corpus := ⟨[⟨"y.js", [block "y.js"], [], []⟩, ⟨"x.js", [block "x.js"], [⟨0, 0⟩], []⟩]⟩
  known := [("y.js", 0), ("x.js", 1)]

/-- Read again, it sees the block of the other, and the one that it had itself before. -/
def readAgain : Library where
  corpus := ⟨readOnce.corpus.sources ++ [⟨"y.js", [block "y.js"], [⟨1, 0⟩, ⟨0, 0⟩], []⟩]⟩
  known := [("x.js", 1), ("y.js", 2)]

theorem read_ring_x : (empty.read .standard ring "x.js").library = readOnce := by
  have back : ∀ target, importTarget? (Path.folder "y.js") "./x.js" = some target →
      target ∈ ["y.js", "x.js"] := by
    intro target ht
    cases target_y.symm.trans ht
    decide
  have inner : (load .standard ring ["x.js"] "y.js" (by decide)).Ends
      (LoadState.noted ⟨empty, []⟩ "x.js") _ _ :=
    load_of_walks rfl ring_y (loadThrough_of_visited back rfl) rfl
  have outer : (load .standard ring [] "x.js" (by decide)).Ends ⟨empty, []⟩ _ _ :=
    load_of_walks rfl ring_x (loadThrough_of_load _ target_x inner rfl) rfl
  rw [read_of_ends (by decide) outer]
  rfl

theorem read_ring_y :
    ((readOnce.remove "y.js").read .standard ring "y.js").library = readAgain := by
  have inner : (load .standard ring ["y.js"] "x.js" (by decide)).Ends
      (LoadState.noted ⟨readOnce.remove "y.js", []⟩ "y.js") (.ok 1) _ := load_of_known (by decide)
  have outer : (load .standard ring [] "y.js" (by decide)).Ends ⟨readOnce.remove "y.js", []⟩ _ _ :=
    load_of_walks (by decide) ring_y (loadThrough_of_load _ target_y inner rfl) rfl
  rw [read_of_ends (by decide) outer]
  rfl

theorem ofSession_again : ofSession (again.map (.mk .standard ring)) = readAgain := by
  show (((empty.read .standard ring "x.js").library.remove "y.js").read .standard ring
    "y.js").library = readAgain
  rw [read_ring_x, read_ring_y]

end Ring

/-- A file on a cycle that is read again sees the block that it had before, which it leads to itself
through the other file. -/
theorem Library.registered_of_session_again :
    (ofSession (Ring.again.map (.mk .standard Ring.ring))).index? "y.js" = some 2 ∧
      ∃ source, Registered .standard Ring.ring
        (ofSession (Ring.again.map (.mk .standard Ring.ring))) "y.js" 2 source ∧
        source.ambient = [⟨1, 0⟩, ⟨0, 0⟩] := by
  have known : (ofSession (Ring.again.map (.mk .standard Ring.ring))).index? "y.js" = some 2 := by
    rw [Ring.ofSession_again]
    decide
  obtain ⟨source, registered⟩ := registered_of_session .standard Ring.ring Ring.again known
  refine ⟨known, source, registered, ?_⟩
  have found := registered.found
  rw [Ring.ofSession_again] at found
  cases found
  rfl

end Docblock
