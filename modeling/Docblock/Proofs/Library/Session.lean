import Docblock.Proofs.Library.Reach

/-!
# Sessions

A session reads files, looks them up and forgets them, in any order and with failures in between.
Files that were forgotten are read anew, so the sources of a library may hold a file several times,
and other sources may see blocks of either reading. What a session keeps nevertheless is that every
source, forgotten or not, has the blocks of its file (`sources_of_session`), and that a file which
is known shows its view where no cycle of imports is reached from it (`steady_of_session`).

An event carries the settings and the files of its time. That a library has the blocks of its files
is said of any session, and that it shows their views only of those over the same files: a file that
is known is not read again, so it is not noticed when it has changed on the way.

Nothing is said of what an event returns. The results of reading are what the reading of a library
gives, and a file that is looked up changes nothing.
-/

namespace Docblock

namespace Library

/-- What can be done with a library. -/
inductive Action where
  | read (path : String)
  | get (path : String)
  | remove (path : String)
  | discard (path : String)
  | clear
  deriving DecidableEq, Repr

/-- An action, and the settings and the files at the time. -/
structure Event where
  settings : Settings
  storage : Storage
  action : Action

/-- The library after an event. A file that is looked up changes nothing. -/
def perform (library : Library) (event : Event) : Library :=
  match event.action with
  | .read path => (library.read event.settings event.storage path).library
  | .get _ => library
  | .remove path => library.remove path
  | .discard path => library.discard path
  | .clear => library.clear

/-- The library after events, one after the other. -/
def ofSession (events : List Event) : Library := events.foldl perform empty

/-- What is kept by every event of a session holds after it. -/
theorem holds_of_session {events : List Event} (P : Library → Prop) (start : P empty)
    (step : ∀ library, ∀ event ∈ events, P library → P (library.perform event)) :
    P (ofSession events) := by
  unfold ofSession
  generalize empty = library at start ⊢
  induction events generalizing library with
  | nil => exact start
  | cons event rest ih =>
    have first := step library event List.mem_cons_self start
    exact ih (fun other next hm => step other next (List.mem_cons_of_mem _ hm)) _ first

/-! ## Forgetting -/

/-- Some paths of a library are forgotten, and nothing else changes. -/
structure Forgets (before after : Library) : Prop where
  corpus : after.corpus = before.corpus
  known : ∀ {path index}, after.index? path = some index → before.index? path = some index

theorem index?_discard (library : Library) (path other : String) :
    (library.discard path).index? other =
      if other = path then none else library.index? other := by
  unfold index? discard
  dsimp only
  induction library.known with
  | nil => simp
  | cons entry rest ih =>
    obtain ⟨key, index⟩ := entry
    by_cases gone : key = path
    · subst gone
      rw [List.filter_cons_of_neg (by simp), ih]
      by_cases same : other = key
      · simp [same]
      · simp [List.lookup_cons, same, beq_eq_false_iff_ne.2 same]
    · rw [List.filter_cons_of_pos (by simpa using gone), List.lookup_cons, List.lookup_cons, ih]
      by_cases same : other = key
      · subst same
        simp [gone]
      · simp [beq_eq_false_iff_ne.2 same]

theorem forgets_discard (library : Library) (path : String) :
    Forgets library (library.discard path) where
  corpus := rfl
  known {other index} h := by
    rw [index?_discard] at h
    split at h
    · cases h
    · exact h

theorem forgets_clear (library : Library) : Forgets library library.clear where
  corpus := rfl
  known h := by cases h

/-- An event reads a file, or at most forgets some. -/
theorem perform_cases (library : Library) (event : Event) :
    (∃ path, event.action = .read path ∧
      library.perform event = (library.read event.settings event.storage path).library) ∨
      Forgets library (library.perform event) := by
  unfold perform
  split
  · exact .inl ⟨_, by assumption, rfl⟩
  · exact .inr ⟨rfl, fun h => h⟩
  · exact .inr (forgets_discard library _)
  · exact .inr (forgets_discard library _)
  · exact .inr (forgets_clear library)

/-! ## What every source is -/

/-- Every source has blocks that go with its file, forgotten or not. -/
def Sources (P : String → List Block → Prop) (library : Library) : Prop :=
  ∀ source ∈ library.corpus.sources, P source.file source.blocks

variable {settings : Settings} {storage : Storage} {P : String → List Block → Prop}

theorem Sources.add {library : Library} (h : library.Sources P) {path : String} {source : Source}
    (new : P source.file source.blocks) : (library.add path source).Sources P := by
  intro other hm
  rcases List.mem_append.1 hm with hm | hm
  · exact h other hm
  · rw [List.mem_singleton.1 hm]
    exact new

theorem sources_rule
    (opened : ∀ path outline, Outline.ofFile settings storage path = .ok outline →
      P path outline.blocks) :
    LoadRule settings storage (fun _ _ s _ s' => s.library.Sources P → s'.library.Sources P)
      (fun _ _ _ _ s _ s' => s.library.Sources P → s'.library.Sources P) where
  known _ all := all
  broken _ _ all := all
  ambientFault _ _ _ _ ha := ha
  importedFault _ _ _ _ _ ha hi all := hi (ha all)
  done _ _ ho _ _ ha hi all := (hi (ha all)).add (opened _ _ ho)
  nil all := all
  skip _ hrest := hrest
  fault _ _ _ hfile := hfile
  next _ _ _ _ hfile hrest all := hrest (hfile all)

/-- Reading keeps what every source is, where it is so of every file that can be opened. -/
theorem Sources.read {library : Library} (h : library.Sources P)
    (opened : ∀ path outline, Outline.ofFile settings storage path = .ok outline →
      P path outline.blocks) (path : String) :
    (library.read settings storage path).library.Sources P :=
  (sources_rule opened).holds _ (library.read_ends settings storage path) h

theorem sources_of_session {events : List Event}
    (opened : ∀ event ∈ events, ∀ path outline,
      Outline.ofFile event.settings event.storage path = .ok outline → P path outline.blocks) :
    (ofSession events).Sources P := by
  refine holds_of_session _ (by intro source hm; cases hm) fun library event he all => ?_
  obtain ⟨path, -, heq⟩ | forgets := library.perform_cases event
  · rw [heq]
    exact all.read (opened event he) path
  · intro source hm
    rw [forgets.corpus] at hm
    exact all source hm

/-- The blocks of every source were read from some text of its file. -/
theorem parsed_of_session (events : List Event) :
    (ofSession events).Sources fun file blocks => ∃ code, Block.ofSource file code = .ok blocks := by
  refine sources_of_session fun event _ path outline opened => ?_
  obtain ⟨code, blocks, -, parsed, rfl⟩ := Outline.exists_source opened
  exact ⟨code, by rw [parsed, Outline.blocks_ofSource]⟩

/-! ## Sessions over files that stay as they are -/

/-- What holds of a library after any session over the same files. -/
structure Steady (settings : Settings) (storage : Storage) (library : Library) : Prop where
  sound : Sound settings storage library
  sighted : Sighted settings storage library
  genuine : library.Sources fun file blocks =>
    ∃ outline, Outline.ofFile settings storage file = .ok outline ∧ outline.blocks = blocks

theorem Steady.read {library : Library} (h : Steady settings storage library) (path : String) :
    Steady settings storage (library.read settings storage path).library where
  sound := sound_of_load (library.read_ends settings storage path) h.sound
  sighted := sighted_of_load (library.read_ends settings storage path) h.sighted
  genuine := h.genuine.read (fun _ outline opened => ⟨outline, opened, rfl⟩) path

theorem Steady.forgets {before after : Library} (h : Steady settings storage before)
    (forgets : Forgets before after) : Steady settings storage after := by
  have sources : after.corpus = before.corpus := forgets.corpus
  refine ⟨⟨?_, ?_, ?_⟩, ?_, ?_⟩
  · intro path index known
    rw [sources]
    exact h.sound.known (forgets.known known)
  · rw [sources]
    exact h.sound.ambient
  · rw [sources]
    exact h.sound.imported
  · intro path index known acyclic
    obtain ⟨view, source, built, covers⟩ := h.sighted path index (forgets.known known) acyclic
    refine ⟨view, source, built, ⟨?_, covers.file, covers.blocks, ?_, ?_⟩⟩
    · rw [sources]
      exact covers.found
    · rw [sources]
      exact covers.ambient
    · rw [sources]
      exact covers.imported
  · unfold Sources
    rw [sources]
    exact h.genuine

/-- A library is steady after every session over the same files. -/
theorem steady_of_session (settings : Settings) (storage : Storage) (actions : List Action) :
    Steady settings storage (ofSession (actions.map (.mk settings storage))) := by
  have start : Steady settings storage empty :=
    ⟨sound_empty, sighted_empty settings storage, by intro source hm; cases hm⟩
  refine holds_of_session _ start fun library event he steady => ?_
  obtain ⟨action, -, rfl⟩ := List.mem_map.1 he
  obtain ⟨path, -, heq⟩ | forgets := library.perform_cases ⟨settings, storage, action⟩
  · rw [heq]
    exact steady.read path
  · exact steady.forgets forgets

end Library

end Docblock
