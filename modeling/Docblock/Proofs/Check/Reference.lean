import Docblock.Proofs.Check.Guard
import Docblock.Proofs.Check.OneSource
import Docblock.Proofs.Check.Report
import Docblock.Proofs.Library.Independence
import Docblock.Proofs.Library.Session

/-!
# References to typedefs of other files

A name that means a block of another file takes a value just when the block by itself does, unless
one of the names that the block leads to is captured on the way (`reference_iff_typedef`). Names are
looked up in the file of the reference first, and only then in the file of the block, so a name that
the block uses can mean one thing there and another at the reference (`captured_reference`).

Both checks have to give a report. The guard closes the block on the way by its name and not on the
direct way, so one of them may break off at a number to which the other never comes. Where both end,
closing the block makes no difference (`Grants.close`), and neither does the registry in front
(`Grants.of_clear`).

Files are read in any session, and any file of the library may hold the reference. Only what names
mean in the end is used of that.
-/

namespace Docblock

/-- The blocks of a library have allowed filters, whatever was done before. -/
theorem Library.filtered_of_session (events : List Event) (ref : BlockRef) (block : Block)
    (found : (ofSession events).corpus.block? ref = some block) : block.Filtered := by
  simp only [Corpus.block?, Option.bind_eq_bind, Option.bind_eq_some_iff] at found
  obtain ⟨source, hs, hb⟩ := found
  obtain ⟨code, parsed⟩ := parsed_of_session events source (List.mem_of_getElem? hs)
  exact Block.filtered_of_ofSource parsed (List.mem_of_getElem? hb)

section

variable [AddressTest] {corpus : Corpus} {registry : Registry} {closed : List BlockRef}
variable {path : List Value} {value : Value}

/-- A value is of the only alternative, or it is not. -/
theorem checkType_of_check_singleton {type : TypeExpr} {strict : Bool} {outcome : Option Failure}
    (h : check corpus registry closed path [type] value [] strict = .ok outcome) :
    ∃ verdict, checkType corpus registry closed path type value strict = .ok verdict ∧
      (outcome = none ↔ verdict = .yes) := by
  have single : alternatives [type] = [type] := rfl
  cases check_cases h with
  | @first before after other _ split _ matched filtered =>
    have mem : other ∈ [type] := by
      rw [← single, split]
      simp
    obtain rfl : other = type := List.mem_singleton.1 mem
    rw [filterFailure?_eq_none.2 (TypeExpr.passes_nil _)] at filtered
    cases filtered
    exact ⟨.yes, matched, fun _ => rfl, fun _ => rfl⟩
  | none _ others =>
    obtain ⟨verdict, checked, ne⟩ := others type (by simp [single])
    exact ⟨verdict, checked, nofun, fun yes => absurd yes ne⟩

/-- A report on a block with a name tells whether the value is of the block. -/
theorem Schema.checkBlock_of_reportTypedef {schema : Schema} {report : Report}
    (h : schema.reportTypedef value = .ok report) :
    ∃ verdict, checkBlock schema.corpus schema.registry [] [] schema.block value schema.strict =
      .ok verdict ∧ (report.passed = true ↔ verdict = .yes) := by
  unfold reportTypedef at h
  split at h
  · exact absurd h refuse_ne_ok
  · obtain ⟨verdict, checked, told⟩ := bind_eq_ok.1 h
    exact ⟨verdict, checked, (Report.passed_of_explained told).trans Verdict.failure?_eq_none⟩

/-- After any session a value is of a name just when it is of the block that the name means, both
asked with the same strictness, if no name that the block leads to is captured: neither by the
registry of the name, nor by one with which the block is met again for the same value. -/
theorem reference_iff_typedef (events : List Library.Event) (registry : Registry)
    (text name : String) (ref : BlockRef) (block : Block) (value : Value) (strict : Bool)
    (means : (Library.ofSession events).corpus.resolve registry name = some ref)
    (found : (Library.ofSession events).corpus.block? ref = some block)
    (uncaptured : (Library.ofSession events).corpus.Uncaptured registry (.alone ref))
    (uncaptured_again : ∀ again,
      Relation.TransGen ((Library.ofSession events).corpus.Goes Block.Equates) (.alone ref)
        ⟨again, ref⟩ → (Library.ofSession events).corpus.Uncaptured again (.alone ref))
    {outcome : Option Failure} {report : Report}
    (checked : check (Library.ofSession events).corpus registry [] [] [.named text name] value []
      strict = .ok outcome)
    (reported : Schema.reportTypedef ⟨(Library.ofSession events).corpus, ref.source, block, strict⟩
      value = .ok report) :
    outcome = none ↔ report.passed = true := by
  have blocks := Library.filtered_of_session events
  generalize (Library.ofSession events).corpus = corpus at *
  obtain ⟨verdict, type_checked, of_outcome⟩ := checkType_of_check_singleton checked
  obtain ⟨verdict', block_checked, of_report⟩ := Schema.checkBlock_of_reportTypedef reported
  -- At the reference the block is closed and its names are looked up behind the registry; by itself
  -- neither is so.
  have target : corpus.target? registry (.named text name) = some ref := means
  have behind : corpus.Behind registry (registry.chain ref.source) [ref.source] :=
    fun other => corpus.resolve_chain registry ref.source other
  rw [checkType_of_not_mem target found (by simp),
    checkBlock_eq_of_uncaptured behind found uncaptured] at type_checked
  have same : Schema.strict ⟨corpus, ref.source, block, strict⟩ = (strict || block.strict) :=
    Bool.or_comm ..
  rw [show Schema.registry ⟨corpus, ref.source, block, strict⟩ = [ref.source] from rfl,
    same] at block_checked
  have filtered : Query.Filtered (.block block (strict || block.strict)) := blocks ref block found
  rw [of_outcome, of_report]
  constructor
  · rintro rfl
    have closed := grants_of_accepted blocks _ filtered type_checked
    have granted := closed.mono (List.nil_subset _)
    refine by_contra fun refused => granted.not_refused blocks filtered ?_
    exact ⟨verdict', block_checked, refused⟩
  · rintro rfl
    have granted := grants_of_accepted blocks _ filtered block_checked
    -- A way that comes back to the block could have been begun there.
    have closed := granted.close blocks found uncaptured_again
    refine by_contra fun refused => closed.not_refused blocks filtered ?_
    exact ⟨verdict, type_checked, refused⟩

end

/-! ## A name that the file of the reference has too -/

namespace Capture

open Library

def countLine : List Char := "@typedef {string} Count".toList

def keyLine : List Char := "@typedef {Count|Key} Key".toList

def countTag : Tag := { Ring.tag with typeText := "string", types := [.primitive "string" .string] }

def keyTag : Tag :=
  { Ring.tag with
    typeText := "Count|Key"
    types := [.named "Count" "Count", .named "Key" "Key"]
    name := "Key" }

theorem ofText_count : Tag.ofText .typedef countLine = .ok countTag := by
  have read : TypeExpr.read ['s', 't', 'r', 'i', 'n', 'g'] = .ok countTag.types := by
    rw [TypeExpr.read_of_form (by cbv) (by cbv)]
    cbv
  exact Tag.ofText_naming (by cbv) (by cbv) (by cbv) (by cbv) read (by cbv) (by cbv)

theorem ofText_key : Tag.ofText .typedef keyLine = .ok keyTag := by
  have read : TypeExpr.read ['C', 'o', 'u', 'n', 't', '|', 'K', 'e', 'y'] = .ok keyTag.types := by
    rw [TypeExpr.read_of_union (by cbv)
      (show _ = some [['C', 'o', 'u', 'n', 't'], ['K', 'e', 'y']] by cbv),
      TypeExpr.readAll, TypeExpr.readAll, TypeExpr.readAll,
      TypeExpr.read_of_form (by cbv) (by cbv), TypeExpr.read_of_form (by cbv) (by cbv)]
    cbv
  exact Tag.ofText_naming (by cbv) (by cbv) (by cbv) (by cbv) read (by cbv) (by cbv)

/-- The first file declares a count, and keys by it. The others import it, and one of them has
another count. -/
def storage : Storage where
  entries := [
    ("f.js", .text "\n/** @typedef {number} Count */\n/** @typedef {Count|Key} Key */"),
    ("g.js", .text "import './f.js'\n/** @typedef {string} Count */"),
    ("h.js", .text "import './f.js'\n/** @typedef {Node|null} Node */")]
  folders := none

def key : Block := ⟨.naming keyTag, "f.js", 3, 3, ""⟩

def otherCount : Block := ⟨.naming countTag, "g.js", 2, 2, ""⟩

def node : Block := ⟨.naming Cycle.tag, "h.js", 2, 2, ""⟩

theorem opened_f : Outline.ofFile .standard storage "f.js" =
    .ok ⟨[Ring.block "f.js", key], [], []⟩ := by
  have second : Block.ofComment "f.js" ⟨"/** @typedef {Count|Key} Key */", 32, 3, 3, ""⟩ = .ok key :=
    Block.ofComment_naming "f.js" (by cbv)
      (Elements.ofLines_naming (by cbv) (by cbv) (by cbv) (by decide) ofText_key)
  have read : storage.read Settings.standard.encoding "f.js" =
      .ok "\n/** @typedef {number} Count */\n/** @typedef {Count|Key} Key */" := by cbv
  have comments : Comment.ofSource
      "\n/** @typedef {number} Count */\n/** @typedef {Count|Key} Key */".toList =
      [⟨Ring.comment, 1, 2, 2, ""⟩, ⟨"/** @typedef {Count|Key} Key */", 32, 3, 3, ""⟩] := by cbv
  unfold Outline.ofFile
  simp only [read, Block.ofSource, comments, List.mapM_cons, List.mapM_nil, Ring.ofComment_comment,
    second]
  rfl

theorem opened_g : Outline.ofFile .standard storage "g.js" =
    .ok ⟨[otherCount], [.effects "./f.js"], []⟩ := by
  have read : storage.read Settings.standard.encoding "g.js" =
      .ok "import './f.js'\n/** @typedef {string} Count */" := by cbv
  have comments : Comment.ofSource "import './f.js'\n/** @typedef {string} Count */".toList =
      [⟨"/** @typedef {string} Count */", 16, 2, 2, ""⟩] := by cbv
  exact Outline.ofFile_of_comment read comments
    (Block.ofComment_naming "g.js" (by cbv)
      (Elements.ofLines_naming (by cbv) (by cbv) (by cbv) (by decide) ofText_count)) rfl (by cbv)

theorem opened_h : Outline.ofFile .standard storage "h.js" =
    .ok ⟨[node], [.effects "./f.js"], []⟩ := by
  have read : storage.read Settings.standard.encoding "h.js" =
      .ok "import './f.js'\n/** @typedef {Node|null} Node */" := by cbv
  have comments : Comment.ofSource "import './f.js'\n/** @typedef {Node|null} Node */".toList =
      [⟨Cycle.code, 16, 2, 2, ""⟩] := by cbv
  exact Outline.ofFile_of_comment read comments
    (Block.ofComment_naming "h.js" (by cbv)
      (Elements.ofLines_naming (by cbv) (by cbv) (by cbv) (by decide) Cycle.ofText_line)) rfl
    (by cbv)

def events : List Event := [
  ⟨.standard, storage, .read "g.js"⟩,
  ⟨.standard, storage, .read "h.js"⟩]

/-- The second and the third source see the blocks of the first one behind their own. -/
def corpus : Corpus where
  sources := [
    ⟨"f.js", [Ring.block "f.js", key], [], []⟩,
    ⟨"g.js", [otherCount], [⟨0, 0⟩, ⟨0, 1⟩], []⟩,
    ⟨"h.js", [node], [⟨0, 0⟩, ⟨0, 1⟩], []⟩]

def afterFirst : Library where
  corpus := ⟨corpus.sources.take 2⟩
  known := [("f.js", 0), ("g.js", 1)]

theorem read_g : (empty.read .standard storage "g.js").library = afterFirst := by
  have target : importTarget? (Path.folder "g.js") "./f.js" = some "f.js" := by decide
  have inner : (load .standard storage ["g.js"] "f.js" (by decide)).Ends
      (LoadState.noted ⟨empty, []⟩ "g.js") _ _ := load_of_walks rfl opened_f rfl rfl
  have outer : (load .standard storage [] "g.js" (by decide)).Ends ⟨empty, []⟩ _ _ :=
    load_of_walks rfl opened_g (loadThrough_of_load _ target inner rfl) rfl
  rw [read_of_ends (by decide) outer]
  rfl

theorem read_h : (afterFirst.read .standard storage "h.js").library.corpus = corpus := by
  have target : importTarget? (Path.folder "h.js") "./f.js" = some "f.js" := by decide
  have inner : (load .standard storage ["h.js"] "f.js" (by decide)).Ends
      (LoadState.noted ⟨afterFirst, []⟩ "h.js") (.ok 0) _ := load_of_known rfl
  have outer : (load .standard storage [] "h.js" (by decide)).Ends ⟨afterFirst, []⟩ _ _ :=
    load_of_walks rfl opened_h (loadThrough_of_load _ target inner rfl) rfl
  rw [read_of_ends (by decide) outer]
  rfl

theorem ofSession_events : (ofSession events).corpus = corpus := by
  show ((empty.read .standard storage "g.js").library.read .standard storage "h.js").library.corpus =
    corpus
  rw [read_g, read_h]

/-! ### Where a key leads -/

theorem mentions_key {name : String} (h : key.Mentions name) : name = "Count" ∨ name = "Key" := by
  cases h with
  | key _ mem => cases mem
  | @synonym tag type _ _ named among there =>
    cases named
    replace among : type ∈ [.named "Count" "Count", .named "Key" "Key"] := among
    simp only [List.mem_cons, List.not_mem_nil, or_false] at among
    rcases among with rfl | rfl
    · cases there with
      | here self => exact .inl (Option.some.inj self).symm
      | inside mem => cases mem
    · cases there with
      | here self => exact .inr (Option.some.inj self).symm
      | inside mem => cases mem

theorem not_mentions_count {name : String} : ¬(Ring.block "f.js").Mentions name := by
  intro h
  cases h with
  | key _ mem => cases mem
  | @synonym tag type _ _ named among there =>
    cases named
    obtain rfl : type = .primitive "number" .number := List.mem_singleton.1 among
    cases there with
    | here self => cases self
    | inside mem => cases mem

/-- From a key a check comes to a count or to a key, and sees no other file. -/
theorem goes_key {speaks : Block → String → Prop}
    (mentions : ∀ block name, speaks block name → block.Mentions name) {visit : Visit}
    (h : Relation.ReflTransGen (corpus.Goes speaks) (.alone ⟨0, 1⟩) visit) :
    visit = .alone ⟨0, 1⟩ ∨ visit = .alone ⟨0, 0⟩ := by
  induction h with
  | refl => exact .inl rfl
  | @tail visit next _ goes ih =>
    obtain ⟨block, name, found, spoken, resolved, grown⟩ := goes
    obtain ⟨registry, ref⟩ := next
    rcases ih with rfl | rfl
    · cases found
      rcases mentions_key (mentions _ _ spoken) with rfl | rfl
      · cases (by cbv : corpus.resolve [0] "Count" = some ⟨0, 0⟩).symm.trans resolved
        exact .inr (congrArg (Visit.mk · _) grown)
      · cases (by cbv : corpus.resolve [0] "Key" = some ⟨0, 1⟩).symm.trans resolved
        exact .inl (congrArg (Visit.mk · _) grown)
    · cases found
      exact absurd (mentions _ _ spoken) not_mentions_count

theorem uncaptured_key {outer : Registry}
    (count : corpus.resolve outer "Count" = some ⟨0, 0⟩)
    (key : corpus.resolve outer "Key" = some ⟨0, 1⟩) : corpus.Uncaptured outer (.alone ⟨0, 1⟩) := by
  intro next way block found name spoken
  rcases goes_key (fun _ _ spoken => spoken) way with rfl | rfl
  · cases found
    rcases mentions_key spoken with rfl | rfl
    · exact .inr (count.trans (by cbv))
    · exact .inr (key.trans (by cbv))
  · cases found
    exact absurd spoken not_mentions_count

/-! ### What the checker does with a key -/

section

variable [AddressTest] {registry : Registry} {closed : List BlockRef} {strict : Bool}

theorem checkBlock_key
    (count : checkType corpus registry closed [] (.named "Count" "Count") (.int 1) strict = .ok .yes) :
    checkBlock corpus registry closed [] key (.int 1) strict = .ok .yes := by
  have inside : check corpus registry closed [] keyTag.types (.int 1) [] strict = .ok none := by
    rw [check]
    exact checkAny_of_yes count
  rw [checkBlock_of_synonym rfl rfl rfl]
  exact bind_eq_ok.2 ⟨none, inside, rfl⟩

theorem checkType_count (target : corpus.target? registry (.named "Count" "Count") = some ⟨0, 0⟩)
    (fresh : ⟨0, 0⟩ ∉ closed) :
    checkType corpus registry closed [] (.named "Count" "Count") (.int 1) strict = .ok .yes := by
  rw [checkType_of_not_mem target rfl fresh, checkBlock_of_synonym rfl rfl rfl]
  refine bind_eq_ok.2 ⟨none, ?_, rfl⟩
  rw [check]
  exact checkAny_of_yes (checkType_of_plain rfl rfl)

theorem reportTypedef_key :
    Schema.reportTypedef ⟨corpus, 0, key, false⟩ (.int 1) = .ok ⟨some .typedef, none⟩ := by
  have checked : checkBlock corpus [0] [] [] key (.int 1) false = .ok .yes :=
    checkBlock_key (checkType_count (by cbv) (by simp))
  exact bind_eq_ok.2 ⟨.yes, checked, rfl⟩

/-- What is said of a number where the other count is meant. -/
def failure : Failure := .ofType "string" (.int 1) [] ""

theorem checkType_otherCount :
    checkType corpus [1, 0] [⟨0, 1⟩] [] (.named "Count" "Count") (.int 1) false =
      .ok (.failed failure) := by
  have target : corpus.target? [1, 0] (.named "Count" "Count") = some ⟨1, 0⟩ := by cbv
  rw [checkType_of_not_mem target rfl (by simp), checkBlock_of_synonym rfl rfl rfl]
  refine bind_eq_ok.2 ⟨some failure, ?_, rfl⟩
  rw [check]
  refine (checkAny_of_refused (checkType_of_mismatch rfl rfl) rfl).trans ?_
  rw [checkAny]
  rfl

/-- Where another count is seen first, a key is checked with it. -/
theorem check_key_g :
    check corpus [1] [] [] [.named "Key" "Key"] (.int 1) [] false = .ok (some failure) := by
  have target : corpus.target? [1] (.named "Key" "Key") = some ⟨0, 1⟩ := by cbv
  have again : corpus.target? [1, 0] (.named "Key" "Key") = some ⟨0, 1⟩ := by cbv
  have inside : check corpus [1, 0] [⟨0, 1⟩] [] keyTag.types (.int 1) [] false =
      .ok (some failure) := by
    rw [check]
    refine (checkAny_of_refused checkType_otherCount rfl).trans ?_
    refine (checkAny_of_refused (checkType_of_mem again rfl (by simp)) rfl).trans ?_
    rw [checkAny]
    rfl
  have entered : checkType corpus [1] [] [] (.named "Key" "Key") (.int 1) false =
      .ok (.failed failure) := by
    rw [checkType_of_not_mem target rfl (by simp), checkBlock_of_synonym rfl rfl rfl]
    exact bind_eq_ok.2 ⟨some failure, inside, rfl⟩
  rw [check]
  refine (checkAny_of_refused entered rfl).trans ?_
  rw [checkAny]
  rfl

theorem check_key_h :
    check corpus [2] [] [] [.named "Key" "Key"] (.int 1) [] false = .ok none := by
  have target : corpus.target? [2] (.named "Key" "Key") = some ⟨0, 1⟩ := by cbv
  have entered : checkType corpus [2] [] [] (.named "Key" "Key") (.int 1) false = .ok .yes := by
    rw [checkType_of_not_mem target rfl (by simp)]
    exact checkBlock_key (checkType_count (by cbv) (by simp))
  rw [check]
  exact checkAny_of_yes entered

end

end Capture

open scoped Net

/-- A key is a count of its own file, but where another count is seen first it is that count. -/
theorem captured_reference :
    (Library.ofSession Capture.events).corpus.resolve [1] "Key" = some ⟨0, 1⟩ ∧
    (Library.ofSession Capture.events).corpus.block? ⟨0, 1⟩ = some Capture.key ∧
    check (Library.ofSession Capture.events).corpus [1] [] [] [.named "Key" "Key"] (.int 1) []
      false = .ok (some Capture.failure) ∧
    ∃ report, Schema.reportTypedef
        ⟨(Library.ofSession Capture.events).corpus, 0, Capture.key, false⟩ (.int 1) = .ok report ∧
      report.passed = true := by
  rw [Capture.ofSession_events]
  exact ⟨by cbv, rfl, Capture.check_key_g, _, Capture.reportTypedef_key, rfl⟩

/-- Where no other count is seen, a key is what its own file says. -/
theorem reference_iff_typedef_key :
    (Library.ofSession Capture.events).corpus.resolve [2] "Key" = some ⟨0, 1⟩ ∧
    (Library.ofSession Capture.events).corpus.Uncaptured [2] (.alone ⟨0, 1⟩) ∧
    ∃ report, Schema.reportTypedef
        ⟨(Library.ofSession Capture.events).corpus, 0, Capture.key, false⟩ (.int 1) = .ok report ∧
      report.passed = true := by
  have means : (Library.ofSession Capture.events).corpus.resolve [2] "Key" = some ⟨0, 1⟩ := by
    rw [Capture.ofSession_events]
    cbv
  have found : (Library.ofSession Capture.events).corpus.block? ⟨0, 1⟩ = some Capture.key := by
    rw [Capture.ofSession_events]
    rfl
  have uncaptured : (Library.ofSession Capture.events).corpus.Uncaptured [2] (.alone ⟨0, 1⟩) := by
    rw [Capture.ofSession_events]
    exact Capture.uncaptured_key (by cbv) (by cbv)
  -- A key is met again where it was met first.
  have uncaptured_again : ∀ again, Relation.TransGen
      ((Library.ofSession Capture.events).corpus.Goes Block.Equates) (.alone ⟨0, 1⟩) ⟨again, ⟨0, 1⟩⟩ →
      (Library.ofSession Capture.events).corpus.Uncaptured again (.alone ⟨0, 1⟩) := by
    rw [Capture.ofSession_events]
    intro again way
    have last := Capture.goes_key (fun _ _ equates => equates.mentions) way.to_reflTransGen
    obtain rfl : again = [0] := by
      rcases last with same | other
      · exact congrArg Visit.registry same
      · cases other
    exact Capture.uncaptured_key (by cbv) (by cbv)
  have checked : check (Library.ofSession Capture.events).corpus [2] [] [] [.named "Key" "Key"]
      (.int 1) [] false = .ok none := by
    rw [Capture.ofSession_events]
    exact Capture.check_key_h
  have reported : Schema.reportTypedef
      ⟨(Library.ofSession Capture.events).corpus, 0, Capture.key, false⟩ (.int 1) =
      .ok ⟨some .typedef, none⟩ := by
    rw [Capture.ofSession_events]
    exact Capture.reportTypedef_key
  refine ⟨means, uncaptured, _, reported, ?_⟩
  exact (reference_iff_typedef Capture.events [2] "Key" "Key" ⟨0, 1⟩ Capture.key (.int 1) false means
    found uncaptured uncaptured_again checked reported).1 rfl

end Docblock
