import Docblock.Proofs.Library.Independence
import Docblock.Proofs.Library.Session

/-!
# What names mean, by files and places

A source that shows a view resolves names as the view does (`Covers.resolve`): the blocks that it
sees may be there several times, from readings of one file, but of equal ones only the first can be
meant, and what a block declares is told by its file and its place. So a name means the same after
any session, whatever was read again and whatever failed (`alike_of_session`).

Two libraries need not agree on the numbers of their sources, so what a name means is compared by
the site of the block. Of two readings that fail it is only said that both do: which file could not
be opened may depend on what was known before. The order of what is seen matters here, other than
for which blocks are seen: two files may declare one name, and the first of them is meant.
-/

namespace Docblock

/-- The first of a list that has a property is the first of its members. -/
theorem find?_firsts {α : Type} [DecidableEq α] (p : α → Bool) (as : List α) :
    (firsts as).find? p = as.find? p := by
  induction as using List.reverseRecOn with
  | nil => rfl
  | append_singleton as a ih =>
    rw [firsts_concat]
    split
    · rename_i there
      rw [ih, List.find?_append]
      cases found : as.find? p with
      | some b => rfl
      | none =>
        -- It has not the property where it stands first.
        have not : ¬p a = true := List.find?_eq_none.1 found a there
        simp [not]
    · rw [List.find?_append, List.find?_append, ih]

/-- The block at a place of a file. -/
def blockAt? (settings : Settings) (storage : Storage) (site : Site) : Option Block :=
  match Outline.ofFile settings storage site.file with
  | .ok outline => outline.blocks[site.place]?
  | .error _ => none

theorem blockAt?_of_opened {settings : Settings} {storage : Storage} {site : Site}
    {outline : Outline} (opened : Outline.ofFile settings storage site.file = .ok outline) :
    blockAt? settings storage site = outline.blocks[site.place]? := by
  simp only [blockAt?, opened]

/-- The named blocks that a view has or sees, in order. -/
def View.sites (view : View) : List Site :=
  (namedPlaces view.blocks).map (Site.mk view.file) ++ view.ambient ++ view.imported

/-- The block that a name means in a view. -/
def View.meaning? (settings : Settings) (storage : Storage) (view : View) (name : String) :
    Option Site :=
  view.sites.find? fun site => (blockAt? settings storage site).any (Block.declares name)

namespace Library

variable {settings : Settings} {storage : Storage} {library : Library}

/-- A block of a source is the one that its file has at its place. -/
theorem Steady.block?_eq (h : Steady settings storage library) (ref : BlockRef) :
    library.corpus.block? ref =
      (library.corpus.site? ref).bind (blockAt? settings storage) := by
  cases hs : library.corpus.sources[ref.source]? with
  | none => simp [Corpus.block?, Corpus.site?, hs]
  | some source =>
    obtain ⟨outline, opened, blocks⟩ := h.genuine source (List.mem_of_getElem? hs)
    have at_place : blockAt? settings storage ⟨source.file, ref.place⟩ =
        outline.blocks[ref.place]? := blockAt?_of_opened opened
    simp [Corpus.block?, Corpus.site?, hs, at_place, blocks]

/-- Names mean in a source what they mean in the view that it shows. -/
theorem Covers.resolve {index : Nat} {view : View} {source : Source}
    (h : library.Covers index view source) (steady : Steady settings storage library)
    (name : String) :
    (library.corpus.resolve [index] name).map library.corpus.site? =
      (view.meaning? settings storage name).map some := by
  let declared (site? : Option Site) : Bool :=
    (site?.bind (blockAt? settings storage)).any (Block.declares name)
  have seen : library.corpus.seenBy index =
      source.localRefs index ++ source.ambient ++ source.imported := by
    simp [Corpus.seenBy, h.found]
  have own : (source.localRefs index).map library.corpus.site? =
      ((namedPlaces view.blocks).map (Site.mk view.file)).map some := by
    simp [Source.localRefs_eq, h.blocks, ← h.file, Corpus.site?, h.found]
  -- Whether a block declares the name is told by its site.
  have by_site : (library.corpus.resolve [index] name).map library.corpus.site? =
      ((library.corpus.seenBy index).map library.corpus.site?).find? declared := by
    rw [List.find?_map, Corpus.resolve, List.flatMap_singleton]
    congr 2
    funext ref
    rw [steady.block?_eq ref]
    rfl
  have in_view : (view.meaning? settings storage name).map some =
      (view.sites.map some).find? declared := by
    rw [List.find?_map]
    rfl
  rw [by_site, in_view, seen, View.sites]
  simp only [List.map_append, List.find?_append, own]
  rw [← find?_firsts declared (source.ambient.map library.corpus.site?), h.ambient,
    ← find?_firsts declared (source.imported.map library.corpus.site?), h.imported]

/-! ## Reading after a session -/

/-- Both readings fail or neither does. Where neither does, the file has the same blocks in both, and
a name means a block of the same file at the same place, or nothing in either. -/
structure Reading.Alike (first second : Reading) : Prop where
  fails : (∃ fault, first.outcome = .error fault) ↔ ∃ fault, second.outcome = .error fault
  blocks : ∀ {index other}, first.outcome = .ok index → second.outcome = .ok other →
    ∃ source source', first.library.corpus.sources[index]? = some source ∧
      second.library.corpus.sources[other]? = some source' ∧
      source.file = source'.file ∧ source.blocks = source'.blocks
  names : ∀ {index other}, first.outcome = .ok index → second.outcome = .ok other →
    ∀ name, ∃ site? : Option Site,
      (first.library.corpus.resolve [index] name).map first.library.corpus.site? =
        site?.map some ∧
      (second.library.corpus.resolve [other] name).map second.library.corpus.site? =
        site?.map some

/-- A file that reading ends well with shows its view. -/
theorem Steady.covers_of_read (h : Steady settings storage library) {path : String}
    (acyclic : Acyclic settings storage (Path.normal path)) {index : Nat}
    (hok : (library.read settings storage path).outcome = .ok index) :
    ∃ view source, Built settings storage (Path.normal path) view ∧
      (library.read settings storage path).library.Covers index view source := by
  have ends := library.read_ends settings storage path
  rw [hok] at ends
  exact (h.read path).sighted _ index (index?_of_load ends) acyclic

/-- Reading a readable file ends well in every library. -/
theorem exists_read_of_readable (library : Library) {path : String}
    (readable : Readable settings storage (Path.normal path)) :
    ∃ index, (library.read settings storage path).outcome = .ok index := by
  obtain ⟨index, s', ends⟩ := @Readable.load _ _ [] _ readable (by simp) ⟨library, []⟩
  exact ⟨index, ((library.read_ends settings storage path).unique ends).1⟩

/-- Where reading a file ends well in one steady library it does in every other. -/
theorem Steady.exists_read (h : Steady settings storage library) {path : String}
    (acyclic : Acyclic settings storage (Path.normal path)) {index : Nat}
    (hok : (library.read settings storage path).outcome = .ok index) (other : Library) :
    ∃ index, (other.read settings storage path).outcome = .ok index := by
  obtain ⟨view, source, built, -⟩ := h.covers_of_read acyclic hok
  exact other.exists_read_of_readable built.readable

theorem Steady.fails (h : Steady settings storage library) {path : String}
    (acyclic : Acyclic settings storage (Path.normal path)) {other : Library} {fault : LoadFault}
    (failed : (other.read settings storage path).outcome = .error fault) :
    ∃ fault, (library.read settings storage path).outcome = .error fault := by
  cases hok : (library.read settings storage path).outcome with
  | error fault => exact ⟨fault, rfl⟩
  | ok index =>
    obtain ⟨index, hother⟩ := h.exists_read acyclic hok other
    cases failed.symm.trans hother

/-- Two steady libraries over the same files read a file alike. -/
theorem Steady.alike {first second : Library} (h : Steady settings storage first)
    (h' : Steady settings storage second) {path : String}
    (acyclic : Acyclic settings storage (Path.normal path)) :
    (first.read settings storage path).Alike (second.read settings storage path) where
  fails := ⟨fun ⟨_, failed⟩ => h'.fails acyclic failed, fun ⟨_, failed⟩ => h.fails acyclic failed⟩
  blocks hok hok' := by
    obtain ⟨view, source, built, covers⟩ := h.covers_of_read acyclic hok
    obtain ⟨view', source', built', covers'⟩ := h'.covers_of_read acyclic hok'
    cases built.unique built'
    exact ⟨source, source', covers.found, covers'.found, covers.file.trans covers'.file.symm,
      covers.blocks.trans covers'.blocks.symm⟩
  names hok hok' name := by
    obtain ⟨view, source, built, covers⟩ := h.covers_of_read acyclic hok
    obtain ⟨view', source', built', covers'⟩ := h'.covers_of_read acyclic hok'
    cases built.unique built'
    exact ⟨view.meaning? settings storage name, covers.resolve (h.read path) name,
      covers'.resolve (h'.read path) name⟩

/-- After any session over the same files, a file from which no cycle of imports is reached is read
as it is in the library of nothing. -/
theorem alike_of_session (settings : Settings) (storage : Storage) (actions : List Action)
    (path : String) (acyclic : Acyclic settings storage (Path.normal path)) :
    ((ofSession (actions.map (.mk settings storage))).read settings storage path).Alike
      (empty.read settings storage path) :=
  (steady_of_session settings storage actions).alike (steady_of_session settings storage [])
    acyclic

theorem built_chain : ∃ view, Built .standard Ring.chain "x.js" view := by
  have last : Built .standard Ring.chain "y.js" ⟨"y.js", [Ring.block "y.js"], [], []⟩ := by
    refine .intro (fun _ => ⟨"y.js", [], [], []⟩) Ring.chain_y fun target imports _ => ?_
    obtain ⟨imp, hm, -⟩ := imports.of_outline Ring.chain_y
    cases hm
  refine ⟨_, .intro (fun _ => ⟨"y.js", [Ring.block "y.js"], [], []⟩) Ring.chain_x
    fun target imports _ => ?_⟩
  rw [(Ring.imports_iff Ring.chain_x Ring.target_x).1 imports]
  exact last

/-- A file that imports another is read well, and again after both were forgotten in turn. -/
theorem alike_of_session_chain :
    Acyclic .standard Ring.chain (Path.normal "x.js") ∧
    (∃ index, (empty.read .standard Ring.chain "x.js").outcome = .ok index) ∧
    ((ofSession ([.read "x.js", .discard "y.js", .read "z.js", .read "y.js",
        .remove "x.js"].map (.mk .standard Ring.chain))).read .standard Ring.chain "x.js").Alike
      (empty.read .standard Ring.chain "x.js") := by
  have acyclic : Acyclic .standard Ring.chain (Path.normal "x.js") := by
    rw [Ring.normal_x]
    exact Ring.acyclic_chain
  have readable : Readable .standard Ring.chain (Path.normal "x.js") := by
    obtain ⟨view, built⟩ := built_chain
    rw [Ring.normal_x]
    exact built.readable
  exact ⟨acyclic, exists_read_of_readable _ readable, alike_of_session _ _ _ _ acyclic⟩

end Library

end Docblock
