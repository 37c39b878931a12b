import Docblock.Proofs.Library.Sound

/-!
# What is known has its view

The source of a file from which no cycle of imports is reached shows the view of the file
(`Sighted`), however the library came about. The files that are being read lead to the one that is
read next, so an import of such a file is never cut off.

The property is kept for all files at once, those on cycles included, of which it says nothing. It
cannot be stated for the file that is read alone: while it is read others become known, and it is
from their sources that it takes what they see. What a walk along imports has gathered is said by
`Gathered`, for the readers that share a library as well, who do not all give a file the same view.
-/

namespace Docblock

namespace Library

/-- A source shows a view: it has the blocks of the view, and sees the blocks that the view has.
The same block may be there several times, from sources that were read again. -/
structure Covers (library : Library) (index : Nat) (view : View) (source : Source) : Prop where
  found : library.corpus.sources[index]? = some source
  file : source.file = view.file
  blocks : source.blocks = view.blocks
  ambient : firsts (source.ambient.map library.corpus.site?) = view.ambient.map some
  imported : firsts (source.imported.map library.corpus.site?) = view.imported.map some

variable {visiting : List String} {before after : Library}

/-- Blocks that have a place keep it. -/
theorem Grown.map_site? (h : Grown visiting before after) {refs : List BlockRef}
    {sites : List Site} (hr : firsts (refs.map before.corpus.site?) = sites.map some) :
    refs.map after.corpus.site? = refs.map before.corpus.site? := by
  refine List.map_congr_left fun ref hm => ?_
  have image : before.corpus.site? ref ∈ sites.map some := by
    rw [← hr]
    exact mem_firsts.2 (List.mem_map_of_mem hm)
  obtain ⟨site, -, hs⟩ := List.mem_map.1 image
  rw [← hs, h.site? hs.symm]

theorem Covers.grown {index : Nat} {view : View} {source : Source}
    (h : Covers before index view source) (grown : Grown visiting before after) :
    Covers after index view source where
  found := grown.getElem? h.found
  file := h.file
  blocks := h.blocks
  ambient := by rw [grown.map_site? h.ambient, h.ambient]
  imported := by rw [grown.map_site? h.imported, h.imported]

/-- A source that shows a view sees the blocks that the view has seen. -/
theorem Covers.mem_ambient {library : Library} {index : Nat} {view : View} {source : Source}
    (h : library.Covers index view source) (site : Site) :
    (∃ ref ∈ source.ambient, library.corpus.site? ref = some site) ↔ site ∈ view.ambient := by
  have there : some site ∈ source.ambient.map library.corpus.site? ↔
      some site ∈ view.ambient.map some := by
    rw [← h.ambient, mem_firsts]
  simpa using there

theorem Covers.mem_imported {library : Library} {index : Nat} {view : View} {source : Source}
    (h : library.Covers index view source) (site : Site) :
    (∃ ref ∈ source.imported, library.corpus.site? ref = some site) ↔ site ∈ view.imported := by
  have there : some site ∈ source.imported.map library.corpus.site? ↔
      some site ∈ view.imported.map some := by
    rw [← h.imported, mem_firsts]
  simpa using there

/-- A source gives what its view gives. -/
theorem Covers.offers {library : Library} {index : Nat} {view : View} {source : Source}
    (h : Covers library index view source) (imp : Import) (found : List (Option Site)) :
    addNew found ((library.offers imp index).map library.corpus.site?) =
      addNew found ((view.offers imp).map some) := by
  have own : ((imp.own source.blocks).map (BlockRef.mk index)).map library.corpus.site? =
      ((imp.own view.blocks).map (Site.mk view.file)).map some := by
    simp [← h.blocks, ← h.file, Corpus.site?, h.found]
  have passed : ∀ found, addNew found ((imp.passed source.ambient).map library.corpus.site?) =
      addNew found ((imp.passed view.ambient).map some) := by
    intro found
    cases imp with
    | effects path =>
      show addNew found (source.ambient.map library.corpus.site?) = _
      rw [← addNew_firsts, h.ambient]
      rfl
    | names names path => rfl
  rw [offers_eq h.found, View.offers, List.map_append, List.map_append, addNew_append,
    addNew_append, own, passed]

/-- Known files from which no cycle is reached show their view. -/
def Sighted (settings : Settings) (storage : Storage) (library : Library) : Prop :=
  ∀ path index, library.index? path = some index → Acyclic settings storage path →
    ∃ view source, Built settings storage path view ∧ library.Covers index view source

theorem sighted_empty (settings : Settings) (storage : Storage) :
    Sighted settings storage empty := by
  intro path index h
  cases h

end Library

open Library

variable {settings : Settings} {storage : Storage}

/-- What leads to a file leads to what follows it, and so does the file. -/
theorem leads_cons {r : String → String → Prop} {visiting : List String} {path target : String}
    (leads : ∀ v ∈ visiting, Relation.ReflTransGen r v path) (h : r path target) :
    ∀ v ∈ path :: visiting, Relation.ReflTransGen r v target := by
  intro v hv
  rcases List.mem_cons.1 hv with rfl | hv
  · exact .single h
  · exact (leads v hv).tail h

/-- Following imports of a file added the blocks that the views of the imported files tell, where
`views` tells which views are those of a file. -/
structure Gathered (views : String → View → Prop) (path : String) (imports : List Import)
    (before : Corpus) (found : List BlockRef) (after : Corpus) (out : List BlockRef) : Prop where
  built : ∀ imp ∈ imports, ∀ target, importTarget? (Path.folder path) imp.path = some target →
    target ≠ path → ∃ view, views target view
  gathers : ∀ shown, (∀ imp ∈ imports, ∀ target,
      importTarget? (Path.folder path) imp.path = some target → target ≠ path →
      views target (shown target)) →
    ∀ sites, firsts (found.map before.site?) = sites.map some →
      firsts (out.map after.site?) = (gather shown path imports sites).map some

namespace Gathered

variable {views : String → View → Prop} {path : String} {imp : Import} {rest : List Import}
  {found out : List BlockRef}

theorem nil {corpus : Corpus} : Gathered views path [] corpus found corpus found where
  built _ hm := by cases hm
  gathers _ _ _ hs := hs

/-- An import that leads nowhere else adds nothing. -/
theorem skip {before after : Corpus}
    (itself : ∀ target, importTarget? (Path.folder path) imp.path = some target → target = path)
    (h : Gathered views path rest before found after out) :
    Gathered views path (imp :: rest) before found after out where
  built other hm target ht ne := by
    rcases List.mem_cons.1 hm with rfl | hm
    · exact absurd (itself target ht) ne
    · exact h.built other hm target ht ne
  gathers shown each sites hs := by
    rw [h.gathers shown (fun other hm => each other (List.mem_cons_of_mem _ hm)) sites hs, gather]
    cases ht : importTarget? (Path.folder path) imp.path with
    | none => rfl
    | some target => simp only [itself target ht, if_true]

/-- An import of another file adds what the view of that file gives. -/
theorem next {visiting : List String} {before middle : Library} {after : Corpus} {target : String}
    {index : Nat} {view : View} {source : Source}
    (unique : ∀ {other}, views target other → other = view)
    (ht : importTarget? (Path.folder path) imp.path = some target) (ne : target ≠ path)
    (grown : Grown visiting before middle)
    (hb : views target view) (covers : middle.Covers index view source)
    (h : Gathered views path rest middle.corpus (addBlocks found (middle.offers imp index)) after
      out) :
    Gathered views path (imp :: rest) before.corpus found after out where
  built other hm target' ht' ne' := by
    rcases List.mem_cons.1 hm with rfl | hm
    · cases ht.symm.trans ht'
      exact ⟨view, hb⟩
    · exact h.built other hm target' ht' ne'
  gathers shown each sites hs := by
    obtain rfl : shown target = view := unique (each imp List.mem_cons_self target ht ne)
    have step : firsts ((addBlocks found (middle.offers imp index)).map middle.corpus.site?) =
        (addNew sites ((shown target).offers imp)).map some := by
      rw [addBlocks_eq, firsts_map_addNew, grown.map_site? hs, hs, covers.offers,
        addNew_map fun _ _ => Option.some.inj]
    rw [h.gathers shown (fun other hm => each other (List.mem_cons_of_mem _ hm)) _ step, gather, ht]
    simp only [ne, if_false]

/-- The views of the imported files are chosen once, for both walks along the imports of a file. -/
theorem exists_shown {outline : Outline} {before before' after after' : Corpus}
    {ambient imported : List BlockRef}
    (effects : Gathered views path outline.effects before [] after ambient)
    (names : Gathered views path outline.names before' [] after' imported) :
    ∃ shown, (∀ imp ∈ outline.imports, ∀ target,
        importTarget? (Path.folder path) imp.path = some target → target ≠ path →
        views target (shown target)) ∧
      firsts (ambient.map after.site?) = (gather shown path outline.effects []).map some ∧
      firsts (imported.map after'.site?) = (gather shown path outline.names []).map some := by
  have built : ∀ target, ∃ view, ∀ imp ∈ outline.imports,
      importTarget? (Path.folder path) imp.path = some target → target ≠ path →
      views target view := by
    intro target
    by_cases made : ∃ imp ∈ outline.imports,
        importTarget? (Path.folder path) imp.path = some target ∧ target ≠ path
    · obtain ⟨imp, hm, ht, ne⟩ := made
      rcases List.mem_append.1 hm with hm | hm
      · obtain ⟨view, hb⟩ := effects.built imp hm target ht ne
        exact ⟨view, fun _ _ _ _ => hb⟩
      · obtain ⟨view, hb⟩ := names.built imp hm target ht ne
        exact ⟨view, fun _ _ _ _ => hb⟩
    · exact ⟨⟨path, [], [], []⟩, fun imp hm ht ne => absurd ⟨imp, hm, ht, ne⟩ made⟩
  obtain ⟨shown, each⟩ := Classical.skolem.1 built
  have all : ∀ imp ∈ outline.imports, ∀ target,
      importTarget? (Path.folder path) imp.path = some target → target ≠ path →
      views target (shown target) := fun imp hm target => each target imp hm
  exact ⟨shown, all,
    effects.gathers shown (fun imp hm => all imp (List.mem_append_left _ hm)) [] rfl,
    names.gathers shown (fun imp hm => all imp (List.mem_append_right _ hm)) [] rfl⟩

end Gathered

/-- The view of a file, once all its imports were followed. -/
theorem exists_built {path : String} {outline : Outline} {before before' after after' : Corpus}
    {ambient imported : List BlockRef}
    (opened : Outline.ofFile settings storage path = .ok outline)
    (effects : Gathered (Built settings storage) path outline.effects before [] after ambient)
    (names : Gathered (Built settings storage) path outline.names before' [] after' imported) :
    ∃ view, Built settings storage path view ∧ view.file = path ∧ view.blocks = outline.blocks ∧
      firsts (ambient.map after.site?) = view.ambient.map some ∧
      firsts (imported.map after'.site?) = view.imported.map some := by
  obtain ⟨shown, each, hambient, himported⟩ := effects.exists_shown names
  refine ⟨_, .intro shown opened fun target imports ne => ?_, rfl, rfl, hambient, himported⟩
  obtain ⟨imp, hm, ht⟩ := imports.of_outline opened
  exact each imp hm target ht ne

/-- A source that was taken in shows the view that it was found to have. -/
theorem Library.covers_add {library : Library} {source : Source} {view : View}
    (unknown : library.index? source.file = none) (file : view.file = source.file)
    (blocks : view.blocks = source.blocks)
    (ambient : firsts (source.ambient.map library.corpus.site?) = view.ambient.map some)
    (imported : firsts (source.imported.map library.corpus.site?) = view.imported.map some) :
    (library.add source.file source).Covers library.corpus.sources.length view source := by
  have add : Grown [] library (library.add source.file source) := .add _ (by simp) unknown
  refine ⟨getElem?_add.2 (.inr ⟨rfl, rfl⟩), file.symm, blocks.symm, ?_, ?_⟩
  · rw [add.map_site? ambient, ambient]
  · rw [add.map_site? imported, imported]

/-- A file is taken in whose view is what it was found to see. -/
theorem Library.Sighted.add {library : Library} {source : Source}
    (sighted : Sighted settings storage library) (unknown : library.index? source.file = none)
    (new : Acyclic settings storage source.file → ∃ view,
      Built settings storage source.file view ∧ view.file = source.file ∧
        view.blocks = source.blocks ∧
        firsts (source.ambient.map library.corpus.site?) = view.ambient.map some ∧
        firsts (source.imported.map library.corpus.site?) = view.imported.map some) :
    Sighted settings storage (library.add source.file source) := by
  intro path index known acyclic
  by_cases same : path = source.file
  · subst same
    cases (index?_add_self unknown).symm.trans known
    obtain ⟨view, hb, file, blocks, ambient, imported⟩ := new acyclic
    exact ⟨view, source, hb, covers_add unknown file blocks ambient imported⟩
  · rw [index?_add_of_ne same] at known
    obtain ⟨view, other, hb, covers⟩ := sighted path index known acyclic
    have grown : Grown [] library (library.add source.file source) := .add _ (by simp) unknown
    exact ⟨view, other, hb, covers.grown grown⟩

theorem sighted_rule (settings : Settings) (storage : Storage) : LoadRule settings storage
    (fun visiting path s _ s' =>
      (∀ v ∈ visiting, LeadsTo settings storage v path) →
      Sighted settings storage s.library → Sighted settings storage s'.library)
    (fun visiting path imports found s outcome s' =>
      (∀ v ∈ visiting, LeadsTo settings storage v path) → MadeBy settings storage path imports →
      Sighted settings storage s.library →
      Sighted settings storage s'.library ∧
        ∀ out, outcome = .ok out → Acyclic settings storage path →
          Gathered (Built settings storage) path imports s.library.corpus found s'.library.corpus
            out) where
  known _ _ sighted := sighted
  broken _ _ _ sighted := sighted
  ambientFault _ _ opened _ ha leads sighted := (ha leads (.effects opened) sighted).1
  importedFault _ _ opened _ _ ha hi leads sighted :=
    (hi leads (.names opened) (ha leads (.effects opened) sighted).1).1
  done {visiting path s s₁ s₂ outline ambient imported} fresh unknown opened ra ri ha hi leads
      sighted := by
    obtain ⟨sighted₁, effects⟩ := ha leads (.effects opened) sighted
    obtain ⟨sighted₂, names⟩ := hi leads (.names opened) sighted₁
    have grown := grown_of_walk ri
    have unknown₂ := ((grown_of_walk ra).trans grown).closed List.mem_cons_self unknown
    refine sighted₂.add unknown₂ fun acyclic => ?_
    obtain ⟨view, hb, file, blocks, hambient, himported⟩ :=
      exists_built opened (effects ambient rfl acyclic) (names imported rfl acyclic)
    refine ⟨view, hb, file, blocks, ?_, himported⟩
    -- Following the second list leaves the sites as they are that the first one gathered.
    rw [grown.map_site? hambient, hambient]
  nil _ _ sighted := ⟨sighted, fun _ heq _ => by
    cases heq
    exact .nil⟩
  skip {visiting path s s' imp rest found outcome} visited hrest leads made sighted := by
    obtain ⟨sighted', gathered⟩ := hrest leads made.tail sighted
    refine ⟨sighted', fun out heq acyclic => (gathered out heq acyclic).skip fun target ht => ?_⟩
    -- A file that is being read leads here, so the import closes a cycle.
    rcases List.mem_cons.1 (visited target ht) with rfl | hv
    · rfl
    · exact acyclic path target .refl (made imp List.mem_cons_self target ht) (leads target hv)
  fault {visiting path target s s' imp rest found fault} _ ht _ hfile leads made sighted :=
    ⟨hfile (leads_cons leads (made imp List.mem_cons_self target ht)) sighted,
      fun _ heq => by cases heq⟩
  next {visiting path target s s₁ s' imp rest found index outcome} fresh ht rf rr hfile hrest leads
      made sighted := by
    have imports := made imp List.mem_cons_self target ht
    have ne : target ≠ path := fun same => fresh (same ▸ List.mem_cons_self)
    have sighted₁ := hfile (leads_cons leads imports) sighted
    obtain ⟨sighted', gathered⟩ := hrest leads made.tail sighted₁
    refine ⟨sighted', fun out heq acyclic => ?_⟩
    obtain ⟨view, source, hb, covers⟩ :=
      sighted₁ target index (index?_of_load rf) (acyclic.leadsTo (.single imports))
    exact (gathered out heq acyclic).next (fun other => other.unique hb) ht ne (grown_of_load rf) hb
      covers

/-- A library keeps its views by loading a file, whether that ends well or not. -/
theorem sighted_of_load {path : String} {fresh : path ∉ []} {s s' : LoadState}
    {outcome : Except LoadFault Nat}
    (h : (load settings storage [] path fresh).Ends s outcome s')
    (sighted : Sighted settings storage s.library) : Sighted settings storage s'.library :=
  (sighted_rule settings storage).holds fresh h (by simp) sighted

end Docblock
