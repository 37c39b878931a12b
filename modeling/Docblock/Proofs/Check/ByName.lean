import Docblock.Proofs.Check.Answer
import Docblock.Proofs.Check.Reference
import Docblock.Proofs.Check.Returns

/-!
# Types by their names within a source

A block with a name can be taken as a schema itself, or through a type that is its name. Within one
source both mean the same (`accepts_named_iff`), so where both give a report the value passes both
or none (`typedef_by_name`). They need not break off together: the guard closes the block for the
way by its name only, so a name that leads back to the block is followed once more on the direct
way, and one way may come to a number that is too large where the other has gone past it. Nor do
they tell the same of a failure: a check by the name writes no message.

Verdicts are compared through what they mean, and not step by step. The two runs cut a cycle at
different depths, so their steps do not correspond, but both are right about the least relation. For
faults there is no such meaning, and each way has its own condition.

A name that two blocks of a source share means the first of them. The second cannot be meant by a
name, and it is left out.
-/

namespace Docblock

/-- In a source that is read by itself a name means the first block that has it. -/
theorem Corpus.resolve_ofBlocks {file : String} {blocks : List Block} {place : Nat} {block : Block}
    {name : String} (there : blocks[place]? = some block) (declares : block.declares name = true)
    (first : ∀ other ∈ blocks.take place, other.declares name = false) :
    (ofBlocks file blocks).resolve [0] name = some ⟨0, place⟩ := by
  have named : block.typedefTag?.isSome = true := by
    obtain ⟨tag, ht, -⟩ := (Option.any_eq_true _ _).1 declares
    rw [ht]
    rfl
  obtain ⟨bound, hblock⟩ := List.getElem?_eq_some_iff.1 there
  have earlier : ∀ other (ho : other < blocks.length), other < place →
      blocks[other].declares name = false := by
    intro other ho hlt
    exact first _ (List.mem_take_iff_getElem.2 ⟨other, by omega, rfl⟩)
  have found : ∀ other (ho : other < blocks.length),
      (ofBlocks file blocks).block? ⟨0, other⟩ = some blocks[other] := by
    intro other ho
    exact List.getElem?_eq_getElem ho
  have seen : [0].flatMap (ofBlocks file blocks).seenBy =
      Source.localRefs ⟨file, blocks, [], []⟩ 0 := by
    simp [seenBy, ofBlocks]
  rw [resolve, seen, Source.localRefs, List.find?_filterMap]
  refine Option.bind_eq_some_iff.2 ⟨(block, place), ?_, by simp [named]⟩
  refine List.find?_eq_some_iff_getElem.2 ⟨?_, place, by simpa using bound, by simp [hblock], ?_⟩
  · simp [named, found place bound, hblock, declares]
  · intro other ho
    have short : other < blocks.length := by omega
    rw [List.getElem_zipIdx, Nat.zero_add]
    dsimp only
    split <;> simp [found other short, earlier other short ho]

section

variable [AddressTest] {corpus : Corpus} {registry : Registry} {value : Value} {strict : Bool}

/-- A value is of a name just when it is of the block that the name means. -/
theorem accepts_named_iff {text name : String} {ref : BlockRef} {block : Block}
    (means : corpus.resolve registry name = some ref) (found : corpus.block? ref = some block) :
    Accepts corpus registry value (.types [.named text name] [] strict) ↔
      Accepts corpus registry value (.block block (strict || block.strict)) := by
  have target : corpus.target? registry (.named text name) = some ref := means
  rw [accepts_iff, accepts_iff]
  constructor
  · intro h
    -- No filters stand beside the name, so both rules for alternatives lead to it.
    have named : Admits corpus registry (Meets corpus registry) value
        (.type (.named text name) strict) := by
      cases h.justified with
      | alternative mem inside => exact List.mem_singleton.1 mem ▸ inside
      | first some => exact absurd rfl some
    cases named.justified with
    | form fits => exact nomatch target.symm.trans fits.1
    | name target' found' inside =>
      cases target.symm.trans target'
      cases found.symm.trans found'
      exact inside
  · intro h
    exact .of_justified (.alternative (List.mem_singleton.2 rfl) (.of_justified (.name target found h)))

/-- A check against a single name breaks off just when the check of the block that it means does,
with this block closed. -/
theorem check_named_eq_error_iff {closed : List BlockRef} {path : List Value} {text name : String}
    {ref : BlockRef} {block : Block} {fault : Fault}
    (means : corpus.resolve registry name = some ref) (found : corpus.block? ref = some block)
    (fresh : ref ∉ closed) :
    check corpus registry closed path [.named text name] value [] strict = .error fault ↔
      checkBlock corpus (registry.chain ref.source) (ref :: closed) path block value
        (strict || block.strict) = .error fault := by
  have target : corpus.target? registry (.named text name) = some ref := means
  rw [← checkType_of_not_mem target found fresh, check_eq_error_iff]
  constructor
  · rintro ⟨type, turn, faulty⟩
    obtain rfl : type = .named text name := List.mem_singleton.1 turn.mem
    rcases faulty with faulty | ⟨-, faulty⟩
    · exact faulty
    · -- A name has no category, so it has no filters that could be checked.
      cases faulty
  · intro faulty
    exact ⟨_, TypeExpr.turn_cons.2 (.inl rfl), .inl faulty⟩

/-- A value passes a check against a block of a source just when it passes one against the name of
the block, where both give a report and the block is the first that has the name. A report is missing
just where a whole number is in the way, one that is too large for a filter or one that has no text,
and the check by the name goes its way with the block closed. By the name no message is written, so
only the direct way can end with a failure that cannot be told. -/
theorem typedef_by_name (answers : AddressTest.Answers) {file code : String} {blocks : List Block}
    (parsed : Block.ofSource file code = .ok blocks) {place : Nat} {block : Block} {tag : Tag}
    (there : blocks[place]? = some block) (named : block.typedefTag? = some tag)
    (first : ∀ other ∈ blocks.take place, other.declares tag.name = false)
    (text : String) (value : Value) :
    let corpus := Corpus.ofBlocks file blocks
    let direct := Schema.reportTypedef ⟨corpus, 0, block, false⟩ value
    let byName := corpus.checkTypes [0] [.named text tag.name] value []
    (∀ report report', direct = .ok report → byName = .ok report' →
      (report.passed = true ↔ report'.passed = true)) ∧
    (∀ fault, direct = .error fault ↔
      fault.OfNumber ∧ Query.Breaks corpus [0] value (.block block block.strict) fault) ∧
    ∀ fault, byName = .error fault ↔
      fault.OfNumber ∧
        Breaks corpus [0] [⟨0, place⟩] [] value (.block block block.strict) fault := by
  intro corpus direct byName
  have settled : Settled corpus [0] := settled_ofBlocks parsed
  have declares : block.declares tag.name = true := by simp [Block.declares, named]
  have means : corpus.resolve [0] tag.name = some ⟨0, place⟩ :=
    Corpus.resolve_ofBlocks there declares first
  have found : corpus.block? ⟨0, place⟩ = some block := there
  have filtered : Query.Filtered (.block block block.strict) :=
    Block.filtered_of_ofSource parsed (List.mem_of_getElem? there)
  have isNamed : block.typedefTag?.isSome = true := by rw [named]; rfl
  refine ⟨fun report report' told told' => ?_, fun fault => ?_, fun fault => ?_⟩
  · -- Both ways answer as the meaning of the block says, which knows of no closed blocks.
    obtain ⟨verdict, checked, passed⟩ := Schema.checkBlock_of_reportTypedef told
    obtain ⟨outcome, checked', told'⟩ := bind_eq_ok.1 told'
    rw [pure_eq_ok] at told'
    subst told'
    have block_accepts : verdict = .yes ↔ Accepts corpus [0] value (.block block block.strict) := by
      rw [Schema.strict, Bool.or_false] at checked
      exact Query.eq_yes_iff_accepts settled filtered checked
    have name_accepts : outcome = none ↔
        Accepts corpus [0] value (.types [.named text tag.name] [] false) := by
      rw [← Verdict.ofFailure_eq_yes]
      have plain : Query.Filtered (.types [.named text tag.name] [] false) :=
        ⟨.inl rfl, TypeExpr.filtered_singleton (TypeExpr.filtered_of_inner_eq_nil rfl rfl)⟩
      exact Query.eq_yes_iff_accepts settled plain (Query.verdict_types_eq_ok checked')
    rw [passed, block_accepts, Report.passed, Option.isNone_iff_eq_none, name_accepts,
      accepts_named_iff means found, Bool.false_or]
  · have number : fault.OfNumber ∧ Query.Breaks corpus [0] value (.block block block.strict) fault ↔
        Query.Breaks corpus [0] value (.block block block.strict) fault :=
      and_iff_right_of_imp fun breaks => breaks.ofNumber answers
    rw [number, Schema.reportTypedef_eq_error_iff isNamed, Schema.strict, Bool.or_false]
    exact Schema.query_eq_error_iff_breaks settled.filtered filtered isNamed
  · have broken_off : byName = .error fault ↔
        check corpus [0] [] [] [.named text tag.name] value [] false = .error fault := by
      simp only [byName, Corpus.checkTypes, bind_eq_error, pure_ne_error, and_false, exists_false,
        or_false]
    have number : fault.OfNumber ∧
          Breaks corpus [0] [⟨0, place⟩] [] value (.block block block.strict) fault ↔
        Breaks corpus [0] [⟨0, place⟩] [] value (.block block block.strict) fault :=
      and_iff_right_of_imp fun breaks => breaks.ofNumber answers
    rw [number, broken_off, check_named_eq_error_iff means found (by simp), Bool.false_or]
    exact faults_iff_breaks settled.filtered (.block block block.strict) filtered isNamed

end

/-! ## A way that is longer where the block is not closed -/

namespace Detour

def code : String :=
  "/** @typedef {U|any} T */\n/** @typedef {T|V} U */\n/** @typedef {number} V {finite: true} */"

def lineT : List Char := "@typedef {U|any} T".toList

def lineU : List Char := "@typedef {T|V} U".toList

def lineV : List Char := "@typedef {number} V {finite: true}".toList

def tagT : Tag :=
  { Cycle.tag with typeText := "U|any", types := [.named "U" "U", .any "*"], name := "T" }

def tagU : Tag :=
  { Cycle.tag with typeText := "T|V", types := [.named "T" "T", .named "V" "V"], name := "U" }

def tagV : Tag := { Finite.tag with name := "V" }

def blockT : Block := ⟨.naming tagT, "", 1, 1, ""⟩

def blockU : Block := ⟨.naming tagU, "", 2, 2, ""⟩

def blockV : Block := ⟨.naming tagV, "", 3, 3, ""⟩

def blocks : List Block := [blockT, blockU, blockV]

theorem ofText_lineT : Tag.ofText .typedef lineT = .ok tagT := by
  have read : TypeExpr.read ['U', '|', 'a', 'n', 'y'] = .ok tagT.types := by
    rw [TypeExpr.read_of_union (by cbv) (show _ = some [['U'], ['a', 'n', 'y']] by cbv),
      TypeExpr.readAll, TypeExpr.readAll, TypeExpr.readAll,
      TypeExpr.read_of_form (by cbv) (by cbv),
      TypeExpr.read_of_shorthand (show _ = some [.any "*"] by cbv)]
    cbv
  exact Tag.ofText_naming (by cbv) (by cbv) (by cbv) (by cbv) read (by cbv) (by cbv)

theorem ofText_lineU : Tag.ofText .typedef lineU = .ok tagU := by
  have read : TypeExpr.read ['T', '|', 'V'] = .ok tagU.types := by
    rw [TypeExpr.read_of_union (by cbv) (show _ = some [['T'], ['V']] by cbv),
      TypeExpr.readAll, TypeExpr.readAll, TypeExpr.readAll,
      TypeExpr.read_of_form (by cbv) (by cbv), TypeExpr.read_of_form (by cbv) (by cbv)]
    cbv
  exact Tag.ofText_naming (by cbv) (by cbv) (by cbv) (by cbv) read (by cbv) (by cbv)

theorem ofText_lineV : Tag.ofText .typedef lineV = .ok tagV :=
  Tag.ofText_naming (by cbv) (by cbv) (by cbv) (by cbv) Finite.read_types (by cbv) (by cbv)

theorem ofSource_code : Block.ofSource "" code = .ok blocks := by
  have first : Block.ofComment "" ⟨"/** @typedef {U|any} T */", 0, 1, 1, ""⟩ = .ok blockT :=
    Block.ofComment_naming "" (by cbv)
      (Elements.ofLines_naming (by cbv) (by cbv) (by cbv) (by decide) ofText_lineT)
  have second : Block.ofComment "" ⟨"/** @typedef {T|V} U */", 26, 2, 2, ""⟩ = .ok blockU :=
    Block.ofComment_naming "" (by cbv)
      (Elements.ofLines_naming (by cbv) (by cbv) (by cbv) (by decide) ofText_lineU)
  have third : Block.ofComment "" ⟨"/** @typedef {number} V {finite: true} */", 50, 3, 3, ""⟩ =
      .ok blockV :=
    Block.ofComment_naming "" (by cbv)
      (Elements.ofLines_naming (by cbv) (by cbv) (by cbv) (by decide) ofText_lineV)
  have comments : Comment.ofSource code.toList = [
      ⟨"/** @typedef {U|any} T */", 0, 1, 1, ""⟩, ⟨"/** @typedef {T|V} U */", 26, 2, 2, ""⟩,
      ⟨"/** @typedef {number} V {finite: true} */", 50, 3, 3, ""⟩] := by cbv
  unfold Block.ofSource
  simp only [comments, List.mapM_cons, List.mapM_nil, first, second, third]
  rfl

def corpus : Corpus := Corpus.ofBlocks "" blocks

theorem target_T : corpus.target? [0] (.named "T" "T") = some ⟨0, 0⟩ := by cbv

theorem target_U : corpus.target? [0] (.named "U" "U") = some ⟨0, 1⟩ := by cbv

theorem target_V : corpus.target? [0] (.named "V" "V") = some ⟨0, 2⟩ := by cbv

section

variable [AddressTest] {closed : List BlockRef} {n : Int}

/-- On the direct way the first block is met once more, where its second alternative is left. -/
theorem checkBlock_T (closed : List BlockRef) (mem : ⟨0, 1⟩ ∈ closed) :
    checkBlock corpus [0] closed [] blockT (.int n) false = .ok .yes := by
  rw [checkBlock_of_synonym rfl rfl rfl]
  refine bind_eq_ok.2 ⟨none, ?_, rfl⟩
  rw [check]
  refine (checkAny_of_refused (checkType_of_mem target_U rfl mem) rfl).trans ?_
  exact checkAny_of_yes (checkType_of_plain rfl rfl)

theorem reportTypedef_T : Schema.reportTypedef ⟨corpus, 0, blockT, false⟩ (.int n) =
    .ok ⟨some .typedef, none⟩ := by
  have again : checkType corpus [0] [⟨0, 1⟩] [] (.named "T" "T") (.int n) false = .ok .yes := by
    rw [checkType_of_not_mem target_T rfl (by simp)]
    exact checkBlock_T _ (by simp)
  have through : checkType corpus [0] [] [] (.named "U" "U") (.int n) false = .ok .yes := by
    rw [checkType_of_not_mem target_U rfl (by simp), checkBlock_of_synonym rfl rfl rfl]
    refine bind_eq_ok.2 ⟨none, ?_, rfl⟩
    rw [check]
    exact checkAny_of_yes again
  have checked : checkBlock corpus [0] [] [] blockT (.int n) false = .ok .yes := by
    rw [checkBlock_of_synonym rfl rfl rfl]
    refine bind_eq_ok.2 ⟨none, ?_, rfl⟩
    rw [check]
    exact checkAny_of_yes through
  exact bind_eq_ok.2 ⟨.yes, checked, rfl⟩

/-- By its name the first block is closed, so the way goes on to the filter. -/
theorem breaks_T (vast : Vast n) :
    Breaks corpus [0] [⟨0, 0⟩] [] (.int n) (.block blockT false) .integerTooLarge := by
  have matched : checkType corpus [0] [⟨0, 2⟩, ⟨0, 1⟩, ⟨0, 0⟩] [] (.primitive "number" .number)
      (.int n) false = .ok .yes := checkType_of_plain rfl rfl
  have breaks : (TypeExpr.primitive "number" .number).Breaks tagV.filters (.int n)
      .integerTooLarge :=
    ⟨.number, rfl, [], _, [], rfl, rfl, .finite, rfl, .tooLarge (.finite vast)⟩
  have blockV : Breaks corpus [0] [⟨0, 2⟩, ⟨0, 1⟩, ⟨0, 0⟩] [] (.int n) (.block blockV false)
      .integerTooLarge :=
    .synonym rfl rfl rfl (.filters ⟨[], [], rfl, by simp⟩ matched breaks)
  have refused : Refused corpus [0] [⟨0, 1⟩, ⟨0, 0⟩] [] (.int n) (.type (.named "T" "T") false) :=
    ⟨_, checkType_of_mem target_T rfl (by simp), nofun⟩
  have blockU : Breaks corpus [0] [⟨0, 1⟩, ⟨0, 0⟩] [] (.int n) (.block blockU false)
      .integerTooLarge := by
    refine .synonym rfl rfl rfl (.alternative ⟨[.named "T" "T"], [], rfl, ?_⟩ ?_)
    · intro other ho
      exact List.mem_singleton.1 ho ▸ refused
    · exact .name target_V rfl (by simp) blockV
  exact .synonym rfl rfl rfl
    (.alternative ⟨[], _, rfl, by simp⟩ (.name target_U rfl (by simp) blockU))

end

end Detour

open scoped Net

/-- A number that is too large for a filter passes by the block itself, while the check by its name
breaks off. -/
theorem typedef_by_name_detour :
    Block.ofSource "" Detour.code = .ok Detour.blocks ∧
      Schema.reportTypedef ⟨.ofBlocks "" Detour.blocks, 0, Detour.blockT, false⟩
        (.int (2 ^ 1024 : Nat)) = .ok ⟨some .typedef, none⟩ ∧
      Corpus.checkTypes (.ofBlocks "" Detour.blocks) [0] [.named "T" "T"] (.int (2 ^ 1024 : Nat)) []
        = .error .integerTooLarge := by
  have vast : Vast (2 ^ 1024 : Nat) := vast_natCast (by omega)
  have there : Detour.blocks[0]? = some Detour.blockT := rfl
  have broken_off := (typedef_by_name Net.answers_browser Detour.ofSource_code there rfl (by simp) "T"
    (.int (2 ^ 1024 : Nat))).2.2 .integerTooLarge
  exact ⟨Detour.ofSource_code, Detour.reportTypedef_T, broken_off.2 ⟨.tooLarge, Detour.breaks_T vast⟩⟩

end Docblock
