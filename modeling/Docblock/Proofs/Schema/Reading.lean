import Docblock.Proofs.Outcome
import Docblock.Schema.Reader

/-!
# The equations of reading

What `TypeExpr.read` does with a text, case by case, without the proofs that its recursion carries:
a shorthand stands for itself, a union is read member by member, and any other text by its outermost
form (`readForm`). What holds of every expression is shown along the same three cases
(`induction_on`), from all texts that are no longer than those that reading goes on with. Which
texts have which form is not looked at here.

The induction gives more than the recursion needs. A property is known of all texts up to the length
of a part, not only of the part itself, because some proofs go on with a trimmed text, or with the
star that stands for a part that was left out, and neither is a part. The recursor that comes with
the definition has a case for each branch of five functions and would have to be told about the
lists of members every time.
-/

namespace Docblock.TypeExpr

open Text

/-- The type of an outermost form; `text` is what the type was read from. -/
def readForm (text : String) : Layer → Except Fault (List TypeExpr)
  | .any => .ok [any text]
  | .literal value => .ok [literal text value]
  | .primitive name => .ok [primitive text name]
  | .null => .ok [null text]
  | .undefined => .ok [undefined text]
  | .array element => do return [array text (← read element)]
  | .object members => do return [object text (← readFields true members [])]
  | .tuple members => do return [tuple text (← readFields false members [])]
  | .map key value => do return [map text (← read key) (← read value)]
  | .named name => .ok [named text (String.ofList name)]

theorem read_of_shorthand {cs : List Char} {types : List TypeExpr}
    (hs : shorthand? (trim cs) = some types) : read cs = .ok types := by
  rw [read, hs]

theorem read_of_union {cs : List Char} {members : List (List Char)}
    (hs : shorthand? (trim cs) = none) (hu : unionMembers? (trim cs) = some members) :
    read cs = (do
      let types ← readAll members
      return if types.isEmpty then [any (String.ofList (trim cs))] else types) := by
  rw [read, hs]
  dsimp only
  split
  · rename_i heq
    rw [hu] at heq
    cases heq
    rfl
  · rename_i heq
    rw [hu] at heq
    cases heq

theorem read_of_form {cs : List Char} (hs : shorthand? (trim cs) = none)
    (hu : unionMembers? (trim cs) = none) :
    read cs = readForm (String.ofList (trim cs)) (Layer.ofText (unwrap (trim cs))) := by
  rw [read, hs]
  dsimp only
  split
  · rename_i heq
    rw [hu] at heq
    cases heq
  · split <;> rename_i heq <;> rw [heq] <;> rfl

theorem readFields_cons {keyed : Bool} {text : List Char} {rest : List (List Char)}
    {done : List (Field TypeExpr)} :
    readFields keyed (text :: rest) done = (do
      let member ← Member.ofText keyed text
      let done ← documentLast member.leading done
      match member.content with
      | none => readFields keyed rest done
      | some (key, type, trailing) =>
        let types ← read type
        let field ← makeField keyed done.length key trailing types
        readFields keyed rest (field :: done)) := by
  rw [readFields]
  split
  · rename_i heq
    rw [heq]
    rfl
  · rename_i member heq
    rw [heq]
    dsimp only [bind, Except.bind]
    split
    · rfl
    · split <;> rename_i hc <;> rw [hc]

/-! ## What reading goes on with -/

/-- Every text that is no longer than this one has a property. -/
def Within (P : List Char → Prop) (text : List Char) : Prop :=
  ∀ cs : List Char, cs.length ≤ text.length → P cs

/-- Every expression has a property that it gets from the texts that reading goes on with: none for
a shorthand, the members of a union, and the texts inside any other form. -/
theorem induction_on {P : List Char → Prop}
    (shorthand : ∀ cs types, shorthand? (trim cs) = some types → P cs)
    (union : ∀ cs members, shorthand? (trim cs) = none → unionMembers? (trim cs) = some members →
      (∀ member ∈ members, Within P member) → P cs)
    (form : ∀ cs, shorthand? (trim cs) = none → unionMembers? (trim cs) = none →
      (∀ t ∈ (Layer.ofText (unwrap (trim cs))).inner, Within P t) → P cs)
    (cs : List Char) : P cs := by
  induction length : cs.length using Nat.strongRecOn generalizing cs with
  | ind n ih =>
    subst length
    have within : ∀ text : List Char, text.length < cs.length → Within P text :=
      fun text shorter other le => ih other.length (by omega) other rfl
    have htrim := length_trim_le cs
    cases hs : shorthand? (trim cs) with
    | some types => exact shorthand cs types hs
    | none =>
      cases hu : unionMembers? (trim cs) with
      | some members =>
        refine union cs members hs hu fun member hm => within member ?_
        have := length_le_longest hm
        have := longest_unionMembers_lt hu
        omega
      | none =>
        refine form cs hs hu fun t ht => within t ?_
        have := Layer.length_lt_of_mem_inner ht
        have := length_unwrap_le (trim cs)
        omega

end Docblock.TypeExpr
