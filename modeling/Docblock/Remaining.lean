/-!
# What remains

How many members of a list are not yet among others. Each that is added to the others leaves one
fewer, so whatever adds one at every step ends.

It is the measure of two recursions: of checks, which go through a name only once for one value, and
of reading files, which fetches none that is already underway. Neither needs to know how many names
or files there are.
-/

namespace Docblock

variable {α : Type} [DecidableEq α]

/-- How many members of a list are not among others. -/
def countRemaining (all others : List α) : Nat := all.countP fun a => !others.contains a

theorem countRemaining_cons_le (all others : List α) (a : α) :
    countRemaining all (a :: others) ≤ countRemaining all others :=
  List.countP_mono_left fun b _ h => by
    simp only [List.contains_cons, Bool.not_or, Bool.and_eq_true] at h
    exact h.2

/-- One fewer remains when one of the list is added that was not there. -/
theorem countRemaining_cons_lt {all others : List α} {a : α} (hm : a ∈ all) (ho : a ∉ others) :
    countRemaining all (a :: others) < countRemaining all others := by
  induction all with
  | nil => cases hm
  | cons b rest ih =>
    have hle := countRemaining_cons_le rest others a
    unfold countRemaining at hle ih ⊢
    by_cases hb : b = a
    · subst hb
      rw [List.countP_cons_of_neg (by simp), List.countP_cons_of_pos (by simpa using ho)]
      exact Nat.lt_succ_of_le hle
    · have := ih ((List.mem_cons.1 hm).resolve_left fun h => hb h.symm)
      simp only [List.countP_cons, List.contains_cons, Bool.false_or,
        beq_eq_false_iff_ne.2 hb] at this ⊢
      omega

end Docblock
