import Docblock.Proofs.Library.Reach

/-!
# Libraries that are shared

Users with different settings read files into one library, where a file that one of them has read is
known to all (`Shared`). Such a file shows what it was read with: its view depends on who read it
first, and on who first read the files that it imports (`BuiltBy`). Every library that is shared has
such readers (`exists_readers`), and any readers that give a file a view can come about
(`BuiltBy.prepares`).

Readers are a partial function from files to settings, and they are only ever extended. A library
does not record them, so they are found by following how it came about. The second half goes the
other way and makes a library for given readers, by letting each of them read its files from the
bottom up, and needs for that that no file is read before those which it imports.

Nobody forgets a file here. A file that was forgotten and read again would have two readers, and a
source that was read in between would go on showing what the first of them gave it.
-/

namespace Docblock

open Library

/-! ## Views by readers -/

/-- The settings that each file was read with, none for a file that was not read. -/
abbrev Readers := String → Option Settings

/-- What was read is not read again. -/
def Readers.Within (readers more : Readers) : Prop :=
  ∀ path settings, readers path = some settings → more path = some settings

section

variable (readers : Readers) (storage : Storage)

/-- The view of a file that was read by its reader, from the views of the files that it imports,
each read by its own. -/
inductive BuiltBy : String → View → Prop
  | intro {path : String} {settings : Settings} {outline : Outline} (shown : String → View)
      (reader : readers path = some settings)
      (opened : Outline.ofFile settings storage path = .ok outline)
      (each : ∀ imp ∈ outline.imports, ∀ target,
        importTarget? (Path.folder path) imp.path = some target → target ≠ path →
        BuiltBy target (shown target)) :
      BuiltBy path ⟨path, outline.blocks, gather shown path outline.effects [],
        gather shown path outline.names []⟩

end

section

variable {readers more : Readers} {storage : Storage} {path : String} {view other : View}

/-- A file has at most one view. -/
theorem BuiltBy.unique (h : BuiltBy readers storage path view)
    (h' : BuiltBy readers storage path other) : view = other := by
  induction h generalizing other with
  | @intro path settings outline shown reader opened _ ih =>
    obtain ⟨shown', reader', opened', each'⟩ := h'
    cases reader.symm.trans reader'
    cases opened.symm.trans opened'
    have same : ∀ imp ∈ outline.imports, ∀ target,
        importTarget? (Path.folder path) imp.path = some target → target ≠ path →
        shown target = shown' target :=
      fun imp hm target ht ne => ih imp hm target ht ne (each' imp hm target ht ne)
    have effects := gather_congr (fun imp hm => same imp (List.mem_append_left _ hm)) []
    have names := gather_congr (fun imp hm => same imp (List.mem_append_right _ hm)) []
    rw [effects, names]

/-- Files that are read later leave a view as it is. -/
theorem BuiltBy.mono (h : BuiltBy readers storage path view) (within : readers.Within more) :
    BuiltBy more storage path view := by
  induction h with
  | intro shown reader opened _ ih => exact .intro shown (within _ _ reader) opened ih

theorem Readers.Within.refl (readers : Readers) : readers.Within readers := fun _ _ h => h

theorem Readers.Within.trans {middle : Readers} (first : readers.Within middle)
    (second : middle.Within more) : readers.Within more := fun _ _ h => second _ _ (first _ _ h)

/-- What was gathered by some readers was gathered by all. -/
theorem Gathered.mono {imports : List Import} {before after : Corpus} {found out : List BlockRef}
    (h : Gathered (BuiltBy readers storage) path imports before found after out)
    (within : readers.Within more) :
    Gathered (BuiltBy more storage) path imports before found after out where
  built imp hm target ht ne := by
    obtain ⟨view, hb⟩ := h.built imp hm target ht ne
    exact ⟨view, hb.mono within⟩
  gathers shown each := h.gathers shown fun imp hm target ht ne => by
    obtain ⟨view, hb⟩ := h.built imp hm target ht ne
    rwa [(each imp hm target ht ne).unique (hb.mono within)]

/-- The view of a file whose imports were all followed. -/
theorem exists_builtBy {settings : Settings} {outline : Outline}
    {before before' after after' : Corpus} {ambient imported : List BlockRef}
    (reader : readers path = some settings)
    (opened : Outline.ofFile settings storage path = .ok outline)
    (effects : Gathered (BuiltBy readers storage) path outline.effects before [] after ambient)
    (names : Gathered (BuiltBy readers storage) path outline.names before' [] after' imported) :
    ∃ view, BuiltBy readers storage path view ∧ view.file = path ∧ view.blocks = outline.blocks ∧
      firsts (ambient.map after.site?) = view.ambient.map some ∧
      firsts (imported.map after'.site?) = view.imported.map some := by
  obtain ⟨shown, each, hambient, himported⟩ := effects.exists_shown names
  exact ⟨_, .intro shown reader opened each, rfl, rfl, hambient, himported⟩

end

/-! ## Imports that some user follows -/

section

variable (users : List Settings) (storage : Storage)

/-- A file imports another for one of the users. -/
def ImportsAmong (path target : String) : Prop :=
  ∃ settings ∈ users, Imports settings storage path target

/-- A file leads to another by imports, each followed by one of the users. -/
def LeadsToAmong : String → String → Prop := Relation.ReflTransGen (ImportsAmong users storage)

/-- From a file on, no import of any user leads back to where it was made, but for imports of a file
by itself. -/
def AcyclicAmong (path : String) : Prop :=
  ∀ source target, LeadsToAmong users storage path source →
    ImportsAmong users storage source target → LeadsToAmong users storage target source →
    target = source

end

section

variable {users : List Settings} {storage : Storage} {settings : Settings} {path file : String}

theorem LeadsTo.among (member : settings ∈ users) (h : LeadsTo settings storage path file) :
    LeadsToAmong users storage path file :=
  h.lift id fun _ _ imports => ⟨settings, member, imports⟩

theorem AcyclicAmong.acyclic (h : AcyclicAmong users storage path) (member : settings ∈ users) :
    Acyclic settings storage path :=
  fun source target hs imports back =>
    h source target (hs.among member) ⟨settings, member, imports⟩ (back.among member)

theorem AcyclicAmong.leadsTo (h : AcyclicAmong users storage path)
    (hl : LeadsToAmong users storage path file) : AcyclicAmong users storage file :=
  fun source target hs => h source target (hl.trans hs)

end

/-! ## Shared libraries -/

/-- The libraries that come about when users read files, in any order and any of them well or not. -/
inductive Shared (users : List Settings) (storage : Storage) : Library → Prop
  | empty : Shared users storage Library.empty
  | read {library : Library} {settings : Settings} (shared : Shared users storage library)
      (member : settings ∈ users) (path : String) :
      Shared users storage (library.read settings storage path).library

/-- Files that are known were read by users, and show the views that these give them. -/
structure ReadBy (users : List Settings) (storage : Storage) (readers : Readers)
    (library : Library) : Prop where
  member : ∀ {path settings}, readers path = some settings → settings ∈ users
  known : ∀ {path settings}, readers path = some settings →
    ∃ index, library.index? path = some index
  views : ∀ {path index}, library.index? path = some index → AcyclicAmong users storage path →
    ∃ view source, BuiltBy readers storage path view ∧ library.Covers index view source

theorem readBy_empty (users : List Settings) (storage : Storage) :
    ReadBy users storage (fun _ => none) empty where
  member h := by cases h
  known h := by cases h
  views h := by cases h

namespace ReadBy

variable {users : List Settings} {storage : Storage} {settings : Settings} {readers : Readers}
  {library : Library}

/-- A file that is not known has no reader. -/
theorem none (h : ReadBy users storage readers library) {path : String}
    (unknown : library.index? path = none) : readers path = none := by
  cases reader : readers path with
  | none => rfl
  | some settings =>
    obtain ⟨index, known⟩ := h.known reader
    cases unknown.symm.trans known

/-- A file that was read by a user is taken in. -/
theorem add {source : Source} (h : ReadBy users storage readers library)
    (unknown : library.index? source.file = Option.none) (member : settings ∈ users)
    (new : ∀ more : Readers, readers.Within more → more source.file = some settings →
      AcyclicAmong users storage source.file → ∃ view,
        BuiltBy more storage source.file view ∧ view.file = source.file ∧
          view.blocks = source.blocks ∧
          firsts (source.ambient.map library.corpus.site?) = view.ambient.map some ∧
          firsts (source.imported.map library.corpus.site?) = view.imported.map some) :
    ∃ more, readers.Within more ∧
      ReadBy users storage more (library.add source.file source) := by
  have grown : Grown [] library (library.add source.file source) := .add _ (by simp) unknown
  -- The file that is taken in gets its reader. No other reader changes, since it had none before.
  let more : Readers := fun path => if path = source.file then some settings else readers path
  have own : more source.file = some settings := if_pos rfl
  have within : readers.Within more := by
    intro path other reader
    have ne : path ≠ source.file := by
      rintro rfl
      cases (h.none unknown).symm.trans reader
    exact (if_neg ne).trans reader
  refine ⟨more, within, ⟨?_, ?_, ?_⟩⟩
  · intro path other reader
    by_cases same : path = source.file
    · subst same
      cases own.symm.trans reader
      exact member
    · exact h.member ((if_neg same).symm.trans reader)
  · intro path other reader
    by_cases same : path = source.file
    · subst same
      exact ⟨_, index?_add_self unknown⟩
    · obtain ⟨index, known⟩ := h.known ((if_neg same).symm.trans reader)
      exact ⟨index, grown.known known⟩
  · intro path index known acyclic
    by_cases same : path = source.file
    · subst same
      cases (index?_add_self unknown).symm.trans known
      obtain ⟨view, hb, file, blocks, ambient, imported⟩ := new more within own acyclic
      exact ⟨view, source, hb, covers_add unknown file blocks ambient imported⟩
    · rw [index?_add_of_ne same] at known
      obtain ⟨view, other, hb, covers⟩ := h.views known acyclic
      exact ⟨view, other, hb.mono within, covers.grown grown⟩

end ReadBy

/-- Loading for a user what other users have read before keeps who read what. -/
theorem readBy_rule {users : List Settings} {settings : Settings} (storage : Storage)
    (member : settings ∈ users) : LoadRule settings storage
    (fun visiting path s _ s' => (∀ v ∈ visiting, LeadsToAmong users storage v path) →
      ∀ readers, ReadBy users storage readers s.library →
        ∃ more : Readers, readers.Within more ∧ ReadBy users storage more s'.library)
    (fun visiting path imports found s outcome s' =>
      (∀ v ∈ visiting, LeadsToAmong users storage v path) → MadeBy settings storage path imports →
      ∀ readers, ReadBy users storage readers s.library →
        ∃ more : Readers, readers.Within more ∧ ReadBy users storage more s'.library ∧
          ∀ out, outcome = .ok out → AcyclicAmong users storage path →
            Gathered (BuiltBy more storage) path imports s.library.corpus found s'.library.corpus
              out) where
  known _ _ readers read := ⟨readers, .refl _, read⟩
  broken _ _ _ readers read := ⟨readers, .refl _, read⟩
  ambientFault _ _ opened _ ha leads readers read := by
    obtain ⟨more, within, read, -⟩ := ha leads (.effects opened) readers read
    exact ⟨more, within, read⟩
  importedFault _ _ opened _ _ ha hi leads readers read := by
    obtain ⟨middle, first, read, -⟩ := ha leads (.effects opened) readers read
    obtain ⟨more, second, read, -⟩ := hi leads (.names opened) middle read
    exact ⟨more, first.trans second, read⟩
  done {visiting path s s₁ s₂ outline ambient imported} fresh unknown opened ra ri ha hi leads
      readers read := by
    obtain ⟨middle, first, read₁, effects⟩ := ha leads (.effects opened) readers read
    obtain ⟨late, second, read₂, names⟩ := hi leads (.names opened) middle read₁
    have grown := grown_of_walk ri
    have unknown₂ := ((grown_of_walk ra).trans grown).closed List.mem_cons_self unknown
    let source : Source := ⟨path, outline.blocks, ambient, imported⟩
    -- What was gathered with fewer readers was gathered with all of them.
    obtain ⟨more, third, read₃⟩ := @ReadBy.add _ _ _ _ _ source read₂ unknown₂ member
      fun more third own acyclic => by
        obtain ⟨view, hb, file, blocks, hambient, himported⟩ := exists_builtBy own opened
          ((effects ambient rfl acyclic).mono (second.trans third))
          ((names imported rfl acyclic).mono third)
        refine ⟨view, hb, file, blocks, ?_, himported⟩
        rw [grown.map_site? hambient, hambient]
    exact ⟨more, (first.trans second).trans third, read₃⟩
  nil _ _ readers read := ⟨readers, .refl _, read, fun _ heq _ => by
    cases heq
    exact .nil⟩
  skip {visiting path s s' imp rest found outcome} visited hrest leads made readers read := by
    obtain ⟨more, within, read', gathered⟩ := hrest leads made.tail readers read
    refine ⟨more, within, read', fun out heq acyclic =>
      (gathered out heq acyclic).skip fun target ht => ?_⟩
    -- A file that is being read leads here, so the import closes a cycle.
    rcases List.mem_cons.1 (visited target ht) with rfl | hv
    · rfl
    · exact acyclic path target .refl ⟨settings, member, made imp List.mem_cons_self target ht⟩
        (leads target hv)
  fault {visiting path target s s' imp rest found fault} _ ht _ hfile leads made readers read := by
    have imports : ImportsAmong users storage path target :=
      ⟨settings, member, made imp List.mem_cons_self target ht⟩
    obtain ⟨more, within, read'⟩ := hfile (leads_cons leads imports) readers read
    exact ⟨more, within, read', fun _ heq => by cases heq⟩
  next {visiting path target s s₁ s' imp rest found index outcome} fresh ht rf rr hfile hrest leads
      made readers read := by
    have imports : ImportsAmong users storage path target :=
      ⟨settings, member, made imp List.mem_cons_self target ht⟩
    have ne : target ≠ path := fun same => fresh (same ▸ List.mem_cons_self)
    obtain ⟨middle, first, read₁⟩ := hfile (leads_cons leads imports) readers read
    obtain ⟨more, second, read', gathered⟩ := hrest leads made.tail middle read₁
    refine ⟨more, first.trans second, read', fun out heq acyclic => ?_⟩
    obtain ⟨view, source, hb, covers⟩ :=
      read₁.views (index?_of_load rf) (acyclic.leadsTo (.single imports))
    have built := hb.mono second
    exact (gathered out heq acyclic).next (fun other => other.unique built) ht ne
      (grown_of_load rf) built covers

/-- Reading a file for a user keeps who read what. -/
theorem ReadBy.read {users : List Settings} {storage : Storage} {settings : Settings}
    {readers : Readers} {library : Library} (h : ReadBy users storage readers library)
    (member : settings ∈ users) (path : String) :
    ∃ more : Readers, ReadBy users storage more (library.read settings storage path).library := by
  obtain ⟨more, -, read⟩ := (readBy_rule storage member).holds _
    (library.read_ends settings storage path) (by simp) readers h
  exact ⟨more, read⟩

/-- In a shared library every known file was read by some user. -/
theorem exists_readers {users : List Settings} {storage : Storage} {library : Library}
    (shared : Shared users storage library) :
    ∃ readers : Readers, ReadBy users storage readers library := by
  induction shared with
  | empty => exact ⟨_, readBy_empty users storage⟩
  | read shared member path ih =>
    obtain ⟨readers, read⟩ := ih
    exact read.read member path

/-! ## Readers that come about -/

/-- Known files show the views that some readers give them. -/
def Faithful (readers : Readers) (storage : Storage) (library : Library) : Prop :=
  ∀ file index, library.index? file = some index →
    ∃ view source, BuiltBy readers storage file view ∧ library.Covers index view source

theorem faithful_empty (readers : Readers) (storage : Storage) :
    Faithful readers storage empty := by
  intro file index h
  cases h

section

variable {users : List Settings} {readers : Readers} {storage : Storage} {settings : Settings}
  {path : String}

/-- Following imports that lead to known files reads nothing, and gathers what these files show. -/
theorem Faithful.exists_walk {imports : List Import} {s : LoadState}
    (faithful : Faithful readers storage s.library) (settings : Settings)
    (known : ∀ imp ∈ imports, ∀ target, importTarget? (Path.folder path) imp.path = some target →
      target ≠ path → ∃ index, s.library.index? target = some index) (found : List BlockRef) :
    ∃ out, (loadThrough settings storage [] path imports found).Ends s (.ok out) s ∧
      Gathered (BuiltBy readers storage) path imports s.library.corpus found s.library.corpus out := by
  induction imports generalizing found with
  | nil =>
    rw [loadThrough]
    exact ⟨found, rfl, .nil⟩
  | cons imp rest ih =>
    have rest_known := fun other hm => known other (List.mem_cons_of_mem imp hm)
    by_cases away : ∃ target, importTarget? (Path.folder path) imp.path = some target ∧
        target ≠ path
    · obtain ⟨target, ht, ne⟩ := away
      obtain ⟨index, here⟩ := known imp List.mem_cons_self target ht ne
      obtain ⟨view, source, hb, covers⟩ := faithful target index here
      obtain ⟨out, walked, gathered⟩ :=
        ih rest_known (addBlocks found (s.library.offers imp index))
      have fresh : target ∉ [path] := by simpa using ne
      exact ⟨out, loadThrough_of_load fresh ht (load_of_known here) walked,
        gathered.next (fun other => other.unique hb) ht ne (.refl [] _) hb covers⟩
    · have itself : ∀ target, importTarget? (Path.folder path) imp.path = some target →
          target = path := by
        intro target ht
        by_contra ne
        exact away ⟨target, ht, ne⟩
      obtain ⟨out, walked, gathered⟩ := ih rest_known found
      exact ⟨out, loadThrough_of_visited (fun target ht => by simp [itself target ht]) walked,
        gathered.skip itself⟩

/-- A file whose imports are all known is read by its reader. -/
theorem Faithful.read {library : Library} {outline : Outline} {raw : String}
    (faithful : Faithful readers storage library)
    (reader : readers (Path.normal raw) = some settings)
    (opened : Outline.ofFile settings storage (Path.normal raw) = .ok outline)
    (unknown : library.index? (Path.normal raw) = none)
    (known : ∀ imp ∈ outline.imports, ∀ target,
      importTarget? (Path.folder (Path.normal raw)) imp.path = some target →
      target ≠ Path.normal raw → ∃ index, library.index? target = some index) :
    Faithful readers storage (library.read settings storage raw).library ∧
      Grown [] library (library.read settings storage raw).library ∧
      ∃ index, (library.read settings storage raw).library.index? (Path.normal raw) =
        some index := by
  have noted : Faithful readers storage (LoadState.noted ⟨library, []⟩ (Path.normal raw)).library :=
    faithful
  obtain ⟨ambient, effects, hambient⟩ := noted.exists_walk settings
    (fun imp hm => known imp (List.mem_append_left outline.names hm)) []
  obtain ⟨imported, names, himported⟩ := noted.exists_walk settings
    (fun imp hm => known imp (List.mem_append_right outline.effects hm)) []
  rw [read_of_ends rfl (load_of_walks unknown opened effects names)]
  obtain ⟨view, hb, file, blocks, seen, named⟩ := exists_builtBy reader opened hambient himported
  let source : Source := ⟨Path.normal raw, outline.blocks, ambient, imported⟩
  have grown : Grown [] library (library.add (Path.normal raw) source) := .add _ (by simp) unknown
  refine ⟨?_, grown, _, index?_add_self unknown⟩
  intro other index found
  by_cases same : other = Path.normal raw
  · subst same
    cases (index?_add_self unknown).symm.trans found
    have covers : (library.add (Path.normal raw) source).Covers _ view source :=
      covers_add unknown file blocks seen named
    exact ⟨view, source, hb, covers⟩
  · rw [LoadState.finished, index?_add_of_ne same] at found
    obtain ⟨view', source', hb', covers⟩ := faithful other index found
    exact ⟨view', source', hb', covers.grown grown⟩

/-- From every library that users share, and whose files show what readers give them, they can come
to a larger one of which something holds. -/
def Prepares (users : List Settings) (readers : Readers) (storage : Storage)
    (P : Library → Prop) : Prop :=
  ∀ library, Shared users storage library → Faithful readers storage library →
    ∃ later, Shared users storage later ∧ Faithful readers storage later ∧
      Grown [] library later ∧ P later

/-- The imported files can be read one after the other. -/
theorem prepares_imports {imports : List Import}
    (each : ∀ imp ∈ imports, ∀ target, importTarget? (Path.folder path) imp.path = some target →
      target ≠ path →
      Prepares users readers storage fun library => ∃ index, library.index? target = some index) :
    Prepares users readers storage fun library => ∀ imp ∈ imports, ∀ target,
      importTarget? (Path.folder path) imp.path = some target → target ≠ path →
      ∃ index, library.index? target = some index := by
  induction imports with
  | nil =>
    intro library shared faithful
    exact ⟨library, shared, faithful, .refl _ _, fun imp hm => by cases hm⟩
  | cons imp rest ih =>
    intro library shared faithful
    -- The others are read first, and they stay known while this one is read.
    obtain ⟨middle, shared₁, faithful₁, grown₁, known₁⟩ :=
      ih (fun other hm => each other (List.mem_cons_of_mem _ hm)) library shared faithful
    by_cases away : ∃ target, importTarget? (Path.folder path) imp.path = some target ∧
        target ≠ path
    · obtain ⟨target, ht, ne⟩ := away
      obtain ⟨later, shared₂, faithful₂, grown₂, known₂⟩ :=
        each imp List.mem_cons_self target ht ne middle shared₁ faithful₁
      refine ⟨later, shared₂, faithful₂, grown₁.trans grown₂, ?_⟩
      intro other hm target' ht' ne'
      rcases List.mem_cons.1 hm with rfl | hm
      · cases ht.symm.trans ht'
        exact known₂
      · obtain ⟨index, known⟩ := known₁ other hm target' ht' ne'
        exact ⟨index, grown₂.known known⟩
    · refine ⟨middle, shared₁, faithful₁, grown₁, ?_⟩
      intro other hm target ht ne
      rcases List.mem_cons.1 hm with rfl | hm
      · exact absurd ⟨target, ht, ne⟩ away
      · exact known₁ other hm target ht ne

/-- A file to which readers give a view can be read, so that it shows this view. -/
theorem BuiltBy.prepares {view : View} (h : BuiltBy readers storage path view)
    (members : ∀ file settings, readers file = some settings → settings ∈ users)
    (normal : ∃ raw, path = Path.normal raw) :
    Prepares users readers storage fun library => ∃ index, library.index? path = some index := by
  induction h with
  | intro shown reader opened _ ih =>
    intro library shared faithful
    have each := fun imp hm target ht ne => ih imp hm target ht ne (normal_of_target ht)
    obtain ⟨middle, shared₁, faithful₁, grown₁, known₁⟩ :=
      prepares_imports each library shared faithful
    obtain ⟨raw, rfl⟩ := normal
    -- An import may lead to a file that was read on the way already. It is not read again.
    cases unknown : middle.index? (Path.normal raw) with
    | some index => exact ⟨middle, shared₁, faithful₁, grown₁, index, unknown⟩
    | none =>
      obtain ⟨faithful₂, grown₂, known₂⟩ := faithful₁.read reader opened unknown known₁
      exact ⟨_, shared₁.read (members _ _ reader) raw, faithful₂, grown₁.trans grown₂, known₂⟩

end

end Docblock
