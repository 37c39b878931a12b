import Docblock.Proofs.Check.Phrase
import Docblock.Proofs.Number.Nearest

/-!
# A whole number as a type

The decimal digits of a whole number are a type of their own, which admits a number: the nearest
floating-point number. So of the whole numbers it takes just the one that is nearest to the one that
is written, which is another one unless that is a floating-point number itself (`check_whole_iff`).

Digits in a type are a literal of a scripting language, where every number is of this kind. Values
keep their whole numbers exactly, and equality between the two is exact. So nothing is lost in the
check, and all that is lost is lost in the reading.
-/

namespace Docblock

open NumberLiteral

/-- The type that the decimal digits of a whole number are. -/
def wholeType (n : Int) : TypeExpr :=
  .literal (String.ofList (wholeText n)) (.number (.ofRatio (n < 0) n.natAbs 1))

theorem TypeExpr.read_wholeText (n : Int) : read (wholeText n) = .ok [wholeType n] := by
  have solid := solid_wholeText n
  have members : unionMembers? (wholeText n) = none := by
    have pieces : Text.split unionSeparators (wholeText n) = [wholeText n] :=
      (solid.mono (by decide)).split_eq
    simp [unionMembers?, pieces]
  have shorthand : shorthand? (wholeText n) = none := shorthand?_eq_none (wholeText_not_shorthand n)
  have tight := solid.tight.trim_eq
  rw [read_of_form (by rwa [tight]) (by rwa [tight]), tight, solid.unwrap_eq,
    Layer.ofText_wholeText]
  rfl

/-- The decimal digits of a whole number are a type that takes one whole number at most, the nearest
that is a floating-point number. A check gives an outcome for every whole number. The type takes
just the number that is written when that is a floating-point number, and only then. -/
theorem check_whole_iff [AddressTest] (n : Int) :
    ∃ types, TypeExpr.ofString (String.ofList (wholeText n)) = .ok types ∧
      ∀ corpus registry strict,
        (∀ v : Int, ∃ outcome,
          check corpus registry [] [] types (.int v) [] strict = .ok outcome ∧
            (outcome = none ↔ n.natAbs < 2 ^ 1024 - 2 ^ 970 ∧ Double.Nearest n v)) ∧
        ((∀ v : Int, check corpus registry [] [] types (.int v) [] strict = .ok none ↔ v = n) ↔
          Double.Representable n) := by
  refine ⟨[wholeType n], ?_, fun corpus registry strict => ?_⟩
  · rw [TypeExpr.ofString, String.toList_ofList]
    exact TypeExpr.read_wholeText n
  have outcomes : ∀ v : Int, ∃ outcome,
      check corpus registry [] [] [wholeType n] (.int v) [] strict = .ok outcome ∧
        (outcome = none ↔ n.natAbs < 2 ^ 1024 - 2 ^ 970 ∧ Double.Nearest n v) := by
    intro v
    have near : (Literal.number (.ofRatio (n < 0) n.natAbs 1)).admits (.int v) = true ↔
        n.natAbs < 2 ^ 1024 - 2 ^ 970 ∧ Double.Nearest n v := by
      rw [← Double.eqv_ofRatio_iff]
      simp [Literal.admits, Value.number?]
    refine ⟨_, check_literal corpus registry _ _ (.int v) strict, ?_⟩
    rw [← near]
    simp
  refine ⟨outcomes, ?_⟩
  have passes : ∀ v : Int, check corpus registry [] [] [wholeType n] (.int v) [] strict = .ok none ↔
      n.natAbs < 2 ^ 1024 - 2 ^ 970 ∧ Double.Nearest n v := by
    intro v
    obtain ⟨outcome, checked, taken⟩ := outcomes v
    rw [checked, ← taken, Except.ok.injEq]
  constructor
  · intro exact
    exact ((passes n).1 ((exact n).2 rfl)).2.1
  · intro own v
    rw [passes, and_iff_right own.inside]
    exact ⟨fun near => near.unique own.nearest, fun same => same ▸ own.nearest⟩

end Docblock
