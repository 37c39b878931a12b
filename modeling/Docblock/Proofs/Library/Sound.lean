import Docblock.Proofs.Library.Growth
import Docblock.Proofs.Library.View

/-!
# Sound libraries

In a sound library every known path stands for the source of that file as it is stored, and the
blocks of others that a source sees are named blocks, none of them twice. Loading keeps a library
sound, also where it breaks off (`sound_of_load`). A library is whole when no source in it was
forgotten; then a block is known by its file and its place.

A sound library may still lack blocks, or show some that no import explains. Soundness says nothing
of which blocks a source sees, so it holds whatever the graph of imports is like and whatever was
read before. What is seen is the matter of views where no cycle is in the way, and where there is
one, of the imports that a block can be traced to.
-/

namespace Docblock

namespace Corpus

/-- A reference means a block with a name as a type. -/
def Names (corpus : Corpus) (ref : BlockRef) : Prop :=
  ∃ block, corpus.block? ref = some block ∧ block.typedefTag?.isSome = true

/-- The file of a block and its place there. -/
def site? (corpus : Corpus) (ref : BlockRef) : Option Site :=
  corpus.sources[ref.source]?.map fun source => ⟨source.file, ref.place⟩

end Corpus

/-- A block with a name has a place. -/
theorem Corpus.Names.exists_site {corpus : Corpus} {ref : BlockRef} (h : corpus.Names ref) :
    ∃ site, corpus.site? ref = some site := by
  obtain ⟨block, hb, -⟩ := h
  simp only [Corpus.block?, Option.bind_eq_bind, Option.bind_eq_some_iff] at hb
  obtain ⟨source, hs, -⟩ := hb
  exact ⟨⟨source.file, ref.place⟩, by simp [Corpus.site?, hs]⟩

namespace Library

variable {visiting : List String} {before after : Library}

theorem Grown.names (h : Grown visiting before after) {ref : BlockRef}
    (hr : before.corpus.Names ref) : after.corpus.Names ref := by
  obtain ⟨block, hb, named⟩ := hr
  exact ⟨block, h.block? hb, named⟩

theorem Grown.site? (h : Grown visiting before after) {ref : BlockRef} {site : Site}
    (hr : before.corpus.site? ref = some site) : after.corpus.site? ref = some site := by
  unfold Corpus.site? at hr ⊢
  obtain ⟨source, hs, rfl⟩ := Option.map_eq_some_iff.1 hr
  rw [h.getElem? hs]
  rfl

/-- Every known path stands for its file, and sources see named blocks of others, none twice. -/
structure Sound (settings : Settings) (storage : Storage) (library : Library) : Prop where
  known : ∀ {path index}, library.index? path = some index →
    ∃ source outline, library.corpus.sources[index]? = some source ∧ source.file = path ∧
      Outline.ofFile settings storage path = .ok outline ∧ source.blocks = outline.blocks
  ambient : ∀ {index : Nat} {source : Source}, library.corpus.sources[index]? = some source →
    source.ambient.Nodup ∧ ∀ ref ∈ source.ambient, library.corpus.Names ref
  imported : ∀ {index : Nat} {source : Source}, library.corpus.sources[index]? = some source →
    source.imported.Nodup ∧ ∀ ref ∈ source.imported, library.corpus.Names ref

/-- No source was forgotten. -/
structure Whole (library : Library) : Prop where
  index? : ∀ {index : Nat} {source : Source}, library.corpus.sources[index]? = some source →
    library.index? source.file = some index

variable {settings : Settings} {storage : Storage}

theorem sound_empty : Sound settings storage empty where
  known h := by cases h
  ambient h := by simp [empty] at h
  imported h := by simp [empty] at h

theorem whole_empty : Whole empty where
  index? h := by simp [empty] at h

/-- The blocks that a source gives are named. -/
theorem Sound.names_of_offers {library : Library} (h : Sound settings storage library)
    {imp : Import} {index : Nat} {ref : BlockRef} (hr : ref ∈ library.offers imp index) :
    library.corpus.Names ref := by
  cases hs : library.corpus.sources[index]? with
  | none => cases imp <;> simp [offers, offered, offeredAs, hs] at hr
  | some source =>
    rw [offers_eq hs, List.mem_append] at hr
    rcases hr with hr | hr
    · obtain ⟨place, hp, rfl⟩ := List.mem_map.1 hr
      obtain ⟨block, hb, named⟩ := mem_namedPlaces.1 (Import.mem_namedPlaces_of_own hp)
      exact ⟨block, by simp [Corpus.block?, hs, hb], named⟩
    · cases imp with
      | effects path => exact (h.ambient hs).2 ref hr
      | names names path => cases hr

/-- A block of a known file has its place in that file. -/
theorem Sound.site?_eq {library : Library} (h : Sound settings storage library) {path : String}
    {index : Nat} (known : library.index? path = some index) (place : Nat) :
    library.corpus.site? ⟨index, place⟩ = some ⟨path, place⟩ := by
  obtain ⟨source, outline, hs, rfl, -⟩ := h.known known
  simp [Corpus.site?, hs]

/-- A source that is taken in under a path that is not known. -/
theorem Sound.add {library : Library} (h : Sound settings storage library) {path : String}
    {outline : Outline} {ambient imported : List BlockRef}
    (unknown : library.index? path = none)
    (opened : Outline.ofFile settings storage path = .ok outline)
    (ha : ambient.Nodup ∧ ∀ ref ∈ ambient, library.corpus.Names ref)
    (hi : imported.Nodup ∧ ∀ ref ∈ imported, library.corpus.Names ref) :
    Sound settings storage (library.add path ⟨path, outline.blocks, ambient, imported⟩) := by
  have grown : Grown [] library (library.add path ⟨path, outline.blocks, ambient, imported⟩) :=
    .add _ (by simp) unknown
  constructor
  · intro other index hk
    by_cases same : other = path
    · subst same
      rw [index?_add_self unknown] at hk
      cases hk
      exact ⟨_, outline, getElem?_add.2 (.inr ⟨rfl, rfl⟩), rfl, opened, rfl⟩
    · rw [index?_add_of_ne same] at hk
      obtain ⟨source, outline, hs, rest⟩ := h.known hk
      exact ⟨source, outline, grown.getElem? hs, rest⟩
  · intro index source hs
    rcases getElem?_add.1 hs with hs | ⟨-, rfl⟩
    · exact ⟨(h.ambient hs).1, fun ref hr => grown.names ((h.ambient hs).2 ref hr)⟩
    · exact ⟨ha.1, fun ref hr => grown.names (ha.2 ref hr)⟩
  · intro index source hs
    rcases getElem?_add.1 hs with hs | ⟨-, rfl⟩
    · exact ⟨(h.imported hs).1, fun ref hr => grown.names ((h.imported hs).2 ref hr)⟩
    · exact ⟨hi.1, fun ref hr => grown.names (hi.2 ref hr)⟩

theorem Whole.add {library : Library} (h : library.Whole) (source : Source)
    (unknown : library.index? source.file = none) : (library.add source.file source).Whole := by
  constructor
  intro index found hs
  rcases getElem?_add.1 hs with hs | ⟨rfl, rfl⟩
  · have ne : found.file ≠ source.file := by
      intro same
      rw [← same, h.index? hs] at unknown
      cases unknown
    rw [index?_add_of_ne ne, h.index? hs]
  · exact index?_add_self unknown

end Library

/-! ## Loading keeps a library sound -/

open Library

variable {settings : Settings} {storage : Storage} {visiting : List String} {path : String}

theorem sound_rule (settings : Settings) (storage : Storage) : LoadRule settings storage
    (fun _ _ s _ s' => Sound settings storage s.library → Sound settings storage s'.library)
    (fun _ _ _ found s outcome s' => Sound settings storage s.library →
      (found.Nodup ∧ ∀ ref ∈ found, s.library.corpus.Names ref) →
      Sound settings storage s'.library ∧ ∀ out, outcome = .ok out →
        out.Nodup ∧ ∀ ref ∈ out, s'.library.corpus.Names ref) where
  known _ sound := sound
  broken _ _ sound := sound
  ambientFault _ _ _ _ ha sound := (ha sound ⟨.nil, by simp⟩).1
  importedFault _ _ _ _ _ ha hi sound := (hi (ha sound ⟨.nil, by simp⟩).1 ⟨.nil, by simp⟩).1
  done {visiting path s s₁ s₂ outline ambient imported} fresh unknown opened ra ri ha hi sound := by
    obtain ⟨sound₁, ambient_named⟩ := ha sound ⟨.nil, by simp⟩
    obtain ⟨sound₂, imported_named⟩ := hi sound₁ ⟨.nil, by simp⟩
    have grown := grown_of_walk ri
    have open_still := ((grown_of_walk ra).trans grown).closed List.mem_cons_self unknown
    obtain ⟨nodup, named⟩ := ambient_named ambient rfl
    exact sound₂.add open_still opened ⟨nodup, fun ref hr => grown.names (named ref hr)⟩
      (imported_named imported rfl)
  nil sound found := ⟨sound, fun _ heq => by
    cases heq
    exact found⟩
  skip _ hrest := hrest
  fault _ _ _ hfile sound _ := ⟨hfile sound, fun _ heq => by cases heq⟩
  next {visiting path target s s₁ s' imp rest found index outcome} _ _ rf _ hfile hrest sound hf := by
    have sound₁ := hfile sound
    refine hrest sound₁ ⟨nodup_addNew hf.1 _, fun ref hr => ?_⟩
    rcases mem_addNew.1 hr with hr | hr
    · exact (grown_of_load rf).names (hf.2 ref hr)
    · exact sound₁.names_of_offers hr

/-- Following imports keeps a library sound. -/
theorem sound_of_walk {imports : List Import} {s s' : LoadState}
    {outcome : Except LoadFault (List BlockRef)}
    (h : (loadThrough settings storage visiting path imports []).Ends s outcome s')
    (sound : Sound settings storage s.library) : Sound settings storage s'.library :=
  ((sound_rule settings storage).walks h sound ⟨.nil, by simp⟩).1

/-- A library stays sound by loading a file, whether that ends well or not. -/
theorem sound_of_load {fresh : path ∉ visiting} {s s' : LoadState}
    {outcome : Except LoadFault Nat}
    (h : (load settings storage visiting path fresh).Ends s outcome s')
    (sound : Sound settings storage s.library) : Sound settings storage s'.library :=
  (sound_rule settings storage).holds fresh h sound

theorem whole_rule (settings : Settings) (storage : Storage) : LoadRule settings storage
    (fun _ _ s _ s' => s.library.Whole → s'.library.Whole)
    (fun _ _ _ _ s _ s' => s.library.Whole → s'.library.Whole) where
  known _ whole := whole
  broken _ _ whole := whole
  ambientFault _ _ _ _ ha := ha
  importedFault _ _ _ _ _ ha hi whole := hi (ha whole)
  done _ unknown _ ra ri ha hi whole :=
    (hi (ha whole)).add _
      (((grown_of_walk ra).trans (grown_of_walk ri)).closed List.mem_cons_self unknown)
  nil whole := whole
  skip _ hrest := hrest
  fault _ _ _ hfile := hfile
  next _ _ _ _ hfile hrest whole := hrest (hfile whole)

/-- Following imports forgets no source. -/
theorem whole_of_walk {imports : List Import} {found : List BlockRef} {s s' : LoadState}
    {outcome : Except LoadFault (List BlockRef)}
    (h : (loadThrough settings storage visiting path imports found).Ends s outcome s')
    (whole : s.library.Whole) : s'.library.Whole :=
  (whole_rule settings storage).walks h whole

/-- Loading forgets no source. -/
theorem whole_of_load {fresh : path ∉ visiting} {s s' : LoadState}
    {outcome : Except LoadFault Nat}
    (h : (load settings storage visiting path fresh).Ends s outcome s')
    (whole : s.library.Whole) : s'.library.Whole :=
  (whole_rule settings storage).holds fresh h whole

end Docblock
