import Docblock.Net.Url
import Docblock.Proofs.Block.Naming
import Docblock.Proofs.Check.Agreement
import Mathlib

/-!
# Checks within one source

A source that is read by itself sees only its own blocks, and all filters that were read with them
are allowed. So a check against any tag of any of its blocks gives what the tag's meaning demands,
however the names of the source refer to each other (`check_ofBlocks_iff_accepts`).

With one source there is one registry, and a name means the same wherever it stands. That is the
condition under which a meaning without ways can be right. Sources that import each other do not
meet it: there the file of the reference comes first.

That a check gives a result is assumed, as it may break off at a number.
-/

namespace Docblock

/-- The corpus of a source that is read by itself. -/
def Corpus.ofBlocks (file : String) (blocks : List Block) : Corpus := ⟨[⟨file, blocks, [], []⟩]⟩

variable {file : String} {blocks : List Block}

/-- Every name is that of a block of the source itself. -/
theorem Corpus.source_of_resolve_ofBlocks {name : String} {ref : BlockRef}
    (h : (Corpus.ofBlocks file blocks).resolve [0] name = some ref) : ref.source = 0 := by
  have mem := List.mem_of_find?_eq_some h
  simp only [List.flatMap_cons, List.flatMap_nil, List.append_nil, seenBy, ofBlocks,
    List.getElem?_cons_zero] at mem
  obtain ⟨⟨block, place⟩, -, hr⟩ := List.mem_filterMap.1 mem
  dsimp only at hr
  split at hr <;> cases hr
  rfl

theorem Corpus.mem_of_block?_ofBlocks {ref : BlockRef} {block : Block}
    (h : (Corpus.ofBlocks file blocks).block? ref = some block) : block ∈ blocks := by
  obtain ⟨source, hs, hb⟩ := Option.bind_eq_some_iff.1 h
  have : source ∈ (Corpus.ofBlocks file blocks).sources := List.mem_of_getElem? hs
  cases List.mem_singleton.1 this
  exact List.mem_of_getElem? hb

theorem settled_ofBlocks {code : String} (parsed : Block.ofSource file code = .ok blocks) :
    Settled (Corpus.ofBlocks file blocks) [0] where
  chain name ref h := by
    rw [Corpus.source_of_resolve_ofBlocks h]
    rfl
  filtered ref block h := Block.filtered_of_ofSource parsed (Corpus.mem_of_block?_ofBlocks h)

/-- A check against a tag of a source passes exactly when the value is of the tag's types by their
meaning, and the same goes for a block with a name. -/
theorem check_ofBlocks_iff_accepts [AddressTest] {code : String}
    (parsed : Block.ofSource file code = .ok blocks) {block : Block} (mem : block ∈ blocks)
    (value : Value) (strict : Bool) :
    (∀ tag ∈ block.elements.tags, ∀ outcome,
      check (Corpus.ofBlocks file blocks) [0] [] [] tag.types value tag.filters strict =
        .ok outcome →
      (outcome = none ↔ Accepts (Corpus.ofBlocks file blocks) [0] value
        (.types tag.types tag.filters strict))) ∧
    ∀ verdict,
      checkBlock (Corpus.ofBlocks file blocks) [0] [] [] block value strict = .ok verdict →
      (verdict = .yes ↔ Accepts (Corpus.ofBlocks file blocks) [0] value (.block block strict)) := by
  have settled := settled_ofBlocks parsed
  have filtered := Block.filtered_of_ofSource parsed mem
  constructor
  · intro tag ht outcome checked
    have htag := filtered tag ht
    have hq : Query.Filtered (.types tag.types tag.filters strict) := ⟨htag.allowed, htag.types⟩
    cases outcome with
    | none => exact ⟨fun _ => (answer_iff settled _ hq).1 checked, fun _ => rfl⟩
    | some failure =>
      have refused := (answer_iff settled _ hq).2 ⟨failure, checked⟩
      exact ⟨nofun, fun accepts => absurd accepts refused⟩
  · intro verdict checked
    by_cases h : verdict = .yes
    · subst h
      exact ⟨fun _ => (answer_iff settled (.block block strict) filtered).1 checked, fun _ => rfl⟩
    · have refused := (answer_iff settled (.block block strict) filtered).2 ⟨verdict, checked, h⟩
      exact ⟨fun yes => absurd yes h, fun accepts => absurd accepts refused⟩

/-! ## A name among its own alternatives -/

namespace Cycle

def code : String := "/** @typedef {Node|null} Node */"

def line : List Char := "@typedef {Node|null} Node".toList

def tag : Tag where
  kind := .typedef
  typeText := "Node|null"
  types := [.named "Node" "Node", .null "null"]
  name := "Node"
  description := ""
  filters := []
  optional := false
  defaultValue := none
  member := none
  place := 0

def block : Block :=
  ⟨⟨"", ⟨false, false⟩, false, none, none, some tag, none, none, none, [], [], []⟩, "", 1, 1, ""⟩

theorem read_types :
    TypeExpr.read ['N', 'o', 'd', 'e', '|', 'n', 'u', 'l', 'l'] = .ok tag.types := by
  rw [TypeExpr.read_of_union (by cbv)
    (show _ = some [['N', 'o', 'd', 'e'], ['n', 'u', 'l', 'l']] by cbv),
    TypeExpr.readAll, TypeExpr.readAll, TypeExpr.readAll,
    TypeExpr.read_of_form (by cbv) (by cbv), TypeExpr.read_of_form (by cbv) (by cbv)]
  cbv

theorem ofText_line : Tag.ofText .typedef line = .ok tag :=
  Tag.ofText_naming (by cbv) (by cbv) (by cbv) (by cbv) read_types (by cbv) (by cbv)

theorem ofSource_code : Block.ofSource "" code = .ok [block] := by
  have comment : Block.ofComment "" ⟨code, 0, 1, 1, ""⟩ = .ok block :=
    Block.ofComment_naming "" (by cbv)
      (Elements.ofLines_naming (by cbv) (by cbv) (by cbv) (by decide) ofText_line)
  exact Block.ofSource_of_comment (by cbv) comment

/-- The name is met again for the same value, so only null is left. -/
theorem check_inside [AddressTest] (strict : Bool) :
    check (Corpus.ofBlocks "" [block]) [0] [⟨0, 0⟩] [] tag.types .null [] strict = .ok none := by
  have target : (Corpus.ofBlocks "" [block]).target? [0] (.named "Node" "Node") = some ⟨0, 0⟩ := by
    cbv
  rw [check]
  refine (checkAny_of_refused (checkType_of_mem target rfl (by simp)) rfl).trans ?_
  exact checkAny_of_yes (checkType_of_plain rfl rfl)

theorem check_tag [AddressTest] :
    check (Corpus.ofBlocks "" [block]) [0] [] [] tag.types .null [] false = .ok none := by
  have target : (Corpus.ofBlocks "" [block]).target? [0] (.named "Node" "Node") = some ⟨0, 0⟩ := by
    cbv
  have entered : checkType (Corpus.ofBlocks "" [block]) [0] [] [] (.named "Node" "Node") .null
      false = .ok .yes := by
    rw [checkType_of_not_mem target rfl (by simp), checkBlock_of_synonym rfl rfl rfl]
    exact bind_eq_ok.2 ⟨none, check_inside false, rfl⟩
  rw [check]
  exact checkAny_of_yes entered

end Cycle

open scoped Net

/-- Null is of a type that stands for itself or null: the cycle adds nothing. -/
theorem check_ofBlocks_iff_accepts_cycle :
    Block.ofSource "" Cycle.code = .ok [Cycle.block] ∧
      Accepts (Corpus.ofBlocks "" [Cycle.block]) [0] .null (.types Cycle.tag.types [] false) := by
  refine ⟨Cycle.ofSource_code, ?_⟩
  have iff := (check_ofBlocks_iff_accepts Cycle.ofSource_code (List.mem_singleton.2 rfl) .null
    false).1 Cycle.tag (by simp [Cycle.block, Elements.tags]) none Cycle.check_tag
  exact iff.1 rfl

end Docblock
