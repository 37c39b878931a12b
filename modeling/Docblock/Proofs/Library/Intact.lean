import Docblock.Proofs.Library.Independence
import Docblock.Proofs.Library.Progress

/-!
# What a fault leaves of a library

A fault can come at any depth, when some files that are imported have been taken in already and
others have not been begun. What was known before stays (`grown_of_load`). The files that are being
built when the fault comes are not known, and what has become known was loaded to its end within the
reading that broke off, with all that it imports (`intact_of_fault`).

So nothing is undone by a fault, and nothing has to be. That a file is finished is said by the load
that finished it (`Complete`) and not by what its source looks like, since a source that was cut off
within a cycle looks like any other. For the same reason a file that was finished within a reading
that failed need not be what it is when it is read first.
-/

namespace Docblock

open Library

/-! ## One state after another -/

/-- A state that comes later while files are read. -/
structure LoadState.Later (s s' : LoadState) : Prop where
  library : Grown [] s.library s'.library
  reads : s.reads <+: s'.reads

namespace LoadState

theorem later_refl (s : LoadState) : Later s s := ⟨.refl _ _, List.prefix_rfl⟩

theorem Later.trans {s s₁ s' : LoadState} (first : Later s s₁) (next : Later s₁ s') :
    Later s s' :=
  ⟨first.library.trans next.library, first.reads.trans next.reads⟩

end LoadState

open LoadState

section

variable {settings : Settings} {storage : Storage} {visiting : List String} {path : String}

/-! ## What becomes known is loaded -/

/-- Between two states a file that was not known is loaded well, while files that have been opened
before are being read. -/
def LoadedBetween (settings : Settings) (storage : Storage) (before after : LoadState)
    (file : String) (index : Nat) : Prop :=
  ∃ (visiting : List String) (fresh : file ∉ visiting) (s s' : LoadState),
    (load settings storage visiting file fresh).Ends s (.ok index) s' ∧
    s.library.index? file = none ∧ (∀ other ∈ visiting, other ∈ s.reads) ∧
    before.Later s ∧ s'.Later after

/-- From a state to a later one every file that becomes known is loaded well between them. -/
structure Loads (settings : Settings) (storage : Storage) (before after : LoadState) : Prop where
  later : before.Later after
  loaded : ∀ file index, before.library.index? file = none →
    after.library.index? file = some index →
    LoadedBetween settings storage before after file index

theorem loads_refl (s : LoadState) : Loads settings storage s s where
  later := later_refl s
  loaded file index unknown known := by cases unknown.symm.trans known

theorem loads_noted (path : String) (s : LoadState) : Loads settings storage s (s.noted path) where
  later := ⟨.refl _ _, List.prefix_append _ _⟩
  loaded file index unknown known := by cases unknown.symm.trans known

theorem Loads.trans {s s₁ s' : LoadState} (first : Loads settings storage s s₁)
    (next : Loads settings storage s₁ s') : Loads settings storage s s' where
  later := first.later.trans next.later
  loaded file index unknown known := by
    cases between : s₁.library.index? file with
    | none =>
      obtain ⟨visiting, fresh, t, t', ends, before, visited, begins, ends'⟩ :=
        next.loaded file index between known
      exact ⟨visiting, fresh, t, t', ends, before, visited, first.later.trans begins, ends'⟩
    | some other =>
      cases (next.later.library.known between).symm.trans known
      obtain ⟨visiting, fresh, t, t', ends, before, visited, begins, ends'⟩ :=
        first.loaded file index unknown between
      exact ⟨visiting, fresh, t, t', ends, before, visited, begins, ends'.trans next.later⟩

/-- A file that is taken in at the end of its load is one more that was loaded. -/
theorem Loads.finished {fresh : path ∉ visiting} {s s₂ : LoadState} {blocks : List Block}
    {ambient imported : List BlockRef} (inside : Loads settings storage s s₂)
    (unknown : s.library.index? path = none) (open_still : s₂.library.index? path = none)
    (visited : ∀ other ∈ visiting, other ∈ s.reads)
    (loaded : (load settings storage visiting path fresh).Ends s
      (.ok s₂.library.corpus.sources.length) (s₂.finished ⟨path, blocks, ambient, imported⟩)) :
    Loads settings storage s (s₂.finished ⟨path, blocks, ambient, imported⟩) := by
  have add : s₂.Later (s₂.finished ⟨path, blocks, ambient, imported⟩) :=
    ⟨.add _ (by simp) open_still, List.prefix_rfl⟩
  refine ⟨inside.later.trans add, fun file index before known => ?_⟩
  -- Only the file itself becomes known by being taken in. All others became known inside.
  by_cases same : file = path
  · subst same
    cases (index?_add_self open_still).symm.trans known
    exact ⟨visiting, fresh, s, _, loaded, unknown, visited, later_refl _, later_refl _⟩
  · have within : s₂.library.index? file = some index := (index?_add_of_ne same).symm.trans known
    obtain ⟨more, fresh', t, t', ends, unknown', visited', begins, ends'⟩ :=
      inside.loaded file index before within
    exact ⟨more, fresh', t, t', ends, unknown', visited', begins, ends'.trans add⟩

theorem mem_reads_noted {s : LoadState} (path : String)
    (visited : ∀ other ∈ visiting, other ∈ s.reads) :
    ∀ other ∈ path :: visiting, other ∈ (s.noted path).reads := by
  intro other hm
  rcases List.mem_cons.1 hm with rfl | hm
  · exact List.mem_append_right _ (List.mem_singleton_self other)
  · exact List.mem_append_left _ (visited other hm)

/-- Files that were opened before a state were opened before a later one. -/
theorem Loads.visited {s s' : LoadState} (h : Loads settings storage s s')
    (visited : ∀ other ∈ visiting, other ∈ s.reads) : ∀ other ∈ visiting, other ∈ s'.reads :=
  fun other hm => h.later.reads.subset (visited other hm)

/-- A file is opened, and then both lists of its imports are followed. -/
theorem Loads.of_walks {s s₁ s' : LoadState} (visited : ∀ other ∈ visiting, other ∈ s.reads)
    (effects : (∀ other ∈ path :: visiting, other ∈ (s.noted path).reads) →
      Loads settings storage (s.noted path) s₁)
    (names : (∀ other ∈ path :: visiting, other ∈ s₁.reads) → Loads settings storage s₁ s') :
    Loads settings storage s s' := by
  have noted := mem_reads_noted path visited
  exact ((loads_noted path s).trans (effects noted)).trans (names ((effects noted).visited noted))

theorem loads_rule (settings : Settings) (storage : Storage) : LoadRule settings storage
    (fun visiting _ s _ s' => (∀ other ∈ visiting, other ∈ s.reads) →
      Loads settings storage s s')
    (fun visiting path _ _ s _ s' => (∀ other ∈ path :: visiting, other ∈ s.reads) →
      Loads settings storage s s') where
  known _ _ := loads_refl _
  broken _ _ _ := loads_noted _ _
  ambientFault _ _ _ _ ha visited := (loads_noted _ _).trans (ha (mem_reads_noted _ visited))
  importedFault _ _ _ _ _ ha hi visited := .of_walks visited ha hi
  done {visiting path s s₁ s₂ outline ambient imported} fresh unknown opened ra ri ha hi
      visited := by
    have both := Loads.of_walks visited ha hi
    have grown := (grown_of_walk ra).trans (grown_of_walk ri)
    have loaded : (load settings storage visiting path fresh).Ends s _ _ :=
      load_of_walks unknown opened ra ri
    exact both.finished unknown (grown.closed List.mem_cons_self unknown) visited loaded
  nil _ := loads_refl _
  skip _ hrest := hrest
  fault _ _ _ hfile := hfile
  next _ _ _ _ hfile hrest visited :=
    (hfile visited).trans (hrest ((hfile visited).visited visited))

/-- While a file is read every file that becomes known is loaded well. -/
theorem Library.loads_of_read (library : Library) (settings : Settings) (storage : Storage)
    (path : String) :
    Loads settings storage ⟨library, []⟩
      ⟨(library.read settings storage path).library, (library.read settings storage path).reads⟩ :=
  (loads_rule settings storage).holds _ (library.read_ends settings storage path) nofun

/-! ## After a fault -/

/-- A file has become known well within a reading: it was loaded to its end, it is the file that is
stored, and what it imports is known, but for files that are still being built, into which no import
is followed. -/
structure Complete (settings : Settings) (storage : Storage) (library : Library) (desk : Desk)
    (file : String) (index : Nat) : Prop where
  loaded : LoadedBetween settings storage ⟨library, []⟩ ⟨desk.library, desk.reads⟩ file index
  source : ∃ source outline, desk.library.corpus.sources[index]? = some source ∧
    source.file = file ∧ Outline.ofFile settings storage file = .ok outline ∧
    source.blocks = outline.blocks
  imports : ∀ target, Imports settings storage file target →
    target ∈ desk.underway ∨ ∃ index, desk.library.index? target = some index

/-- A file that was loaded is complete where every file that was read is known or being built. -/
theorem LoadedBetween.complete {library : Library} {desk : Desk} {file : String} {index : Nat}
    (h : LoadedBetween settings storage ⟨library, []⟩ ⟨desk.library, desk.reads⟩ file index)
    (settled : ∀ other ∈ desk.reads,
      other ∈ desk.underway ∨ ∃ index, desk.library.index? other = some index) :
    Complete settings storage library desk file index := by
  obtain ⟨visiting, fresh, s, s', ends, unknown, visited, begins, ends'⟩ := id h
  have known := ends'.library.known (index?_of_load ends)
  have later := ((loads_rule settings storage).holds fresh ends visited).later.trans ends'
  obtain ⟨outline, ambient, imported, s₁, s₂, opened, effects, names, rfl, rfl⟩ :=
    load_new unknown ends
  have open_still :=
    ((grown_of_walk effects).trans (grown_of_walk names)).closed List.mem_cons_self unknown
  have add : Grown [] s₂.library (s₂.library.add file ⟨file, outline.blocks, ambient, imported⟩) :=
    .add _ (by simp) open_still
  refine ⟨h, ?_, fun target imports => ?_⟩
  · exact ⟨_, outline, ends'.library.getElem? (getElem?_add.2 (.inr ⟨rfl, rfl⟩)), rfl, opened, rfl⟩
  · rcases targets_of_load opened effects names imports with hv | ⟨other, before⟩
    · rcases List.mem_cons.1 hv with rfl | hv
      · exact .inr ⟨_, known⟩
      -- It was being read when this file was loaded, so it has been opened in this reading.
      · exact settled target (later.reads.subset (visited target hv))
    · exact .inr ⟨other, ends'.library.known (add.known before)⟩

end

/-- When reading a file breaks off, all that was known stays known, and stays what it is. The file
is not known, and no other is that was being built when the fault came; one of these, to which its
imports lead, could not be opened. What has become known is complete. -/
theorem Library.intact_of_fault {library : Library} {settings : Settings} {storage : Storage}
    {path : String} {fault : LoadFault}
    (failed : (library.read settings storage path).outcome = .error fault) :
    ∃ desk, (storage.fetch settings [] (Path.normal path)).outcome ⟨library, [], []⟩ =
        some (.error fault, desk) ∧
      library.read settings storage path = ⟨.error fault, desk.library, desk.reads⟩ ∧
      Grown [] library desk.library ∧
      Path.normal path ∈ desk.underway ∧
      (∀ file ∈ desk.underway, desk.library.index? file = none) ∧
      (∃ file ∈ desk.underway, LeadsTo settings storage (Path.normal path) file ∧
        Outline.ofFile settings storage file = .error fault) ∧
      ∀ file index, library.index? file = none → desk.library.index? file = some index →
        Complete settings storage library desk file index := by
  obtain ⟨left, runs, leaves⟩ := library.exists_errand settings storage path
  have loads := library.loads_of_read settings storage path
  rw [failed] at runs leaves
  have chain := leaves.blamed fault rfl
  obtain ⟨new, reads, -, -, known⟩ := leaves.reads
  obtain rfl : (library.read settings storage path).reads = new := reads
  obtain ⟨file, hm, unopened⟩ := chain.exists_unopened
  refine ⟨_, runs, read_of_errand runs, loads.later.library, chain.mem, leaves.unknown,
    ⟨file, hm, chain.leadsTo hm, unopened⟩, fun file index unknown became => ?_⟩
  exact (loads.loaded file index unknown became).complete known

/-! ## An import that is missing -/

namespace Torn

open Docblock.Ring Storage

/-- The first of two imports leads to a file, the second leads nowhere. -/
def torn : Storage where
  entries := [
    ("x.js", .text "import './y.js'\nimport './z.js'\n/** @typedef {number} Count */"),
    ("y.js", .text "\n/** @typedef {number} Count */")]
  folders := none

def last : Block := { block "x.js" with startLine := 3, endLine := 3 }

theorem torn_x : Outline.ofFile .standard torn "x.js" =
    .ok ⟨[last], [.effects "./y.js", .effects "./z.js"], []⟩ := by
  have parsed : Block.ofComment "x.js" ⟨Ring.comment, 32, 3, 3, ""⟩ = .ok last :=
    Block.ofComment_naming "x.js" (by cbv)
      (Elements.ofLines_naming (by cbv) (by cbv) (by cbv) (by decide) ofText_line)
  exact @Outline.ofFile_of_comment torn "x.js" _ _ _ ["./y.js", "./z.js"] (by cbv) (by cbv) parsed
    rfl (by cbv)

theorem torn_y : Outline.ofFile .standard torn "y.js" = .ok ⟨[block "y.js"], [], []⟩ :=
  @ofFile_eq torn "y.js" _ 1 [] (by cbv) (by cbv) (by cbv)

theorem torn_z : Outline.ofFile .standard torn "z.js" = .error (.unreadable "z.js" none) := by
  have missing : torn.read Settings.standard.encoding "z.js" =
      .error (.unreadable "z.js" none) := by cbv
  simp only [Outline.ofFile, missing]

/-- The desk where the fault comes: one file is done, and the other two are being built. -/
def desk : Desk where
  library := ⟨⟨[⟨"y.js", [block "y.js"], [], []⟩]⟩, [("y.js", 0)]⟩
  reads := ["x.js", "y.js", "z.js"]
  underway := ["z.js", "x.js"]

theorem outcome_torn : (torn.fetch .standard [] "x.js").outcome ⟨empty, [], []⟩ =
    some (.error (.unreadable "z.js" none), desk) := by
  have target_z : importTarget? (Path.folder "x.js") "./z.js" = some "z.js" := by decide
  have first : (torn.fetch .standard ["x.js"] "y.js").outcome (.begun "x.js" ⟨empty, [], []⟩) =
      some (.ok 0, ⟨desk.library, ["x.js", "y.js"], ["x.js"]⟩) :=
    outcome_fetch_of_built rfl (outcome_build_of_through torn_y rfl rfl) rfl
  refine outcome_fetch_of_error rfl (outcome_build_of_effects torn_x ?_)
  refine (outcome_through_of_file target_x (by decide) first).trans ?_
  exact outcome_through_of_error target_z (by decide)
    (outcome_fetch_of_error rfl (outcome_build_of_unopened torn_z))

end Torn

/-- A file with a missing import does not become known, but the one that it imports first does. -/
theorem Library.intact_of_fault_torn :
    (empty.read .standard Torn.torn "x.js").outcome = .error (.unreadable "z.js" none) ∧
      Path.normal "x.js" ∈ Torn.desk.underway ∧
      Torn.desk.library.index? (Path.normal "x.js") = none ∧
      Complete .standard Torn.torn empty Torn.desk "y.js" 0 := by
  have run : (Torn.torn.fetch .standard [] (Path.normal "x.js")).outcome ⟨empty, [], []⟩ =
      some (.error (.unreadable "z.js" none), Torn.desk) := Ring.normal_x ▸ Torn.outcome_torn
  have failed : (empty.read .standard Torn.torn "x.js").outcome =
      .error (.unreadable "z.js" none) := by
    rw [read_of_errand run]
  obtain ⟨desk, run', -, -, begun, unknown, -, complete⟩ := intact_of_fault failed
  cases run.symm.trans run'
  exact ⟨failed, begun, unknown _ begun, complete "y.js" 0 rfl rfl⟩

end Docblock
