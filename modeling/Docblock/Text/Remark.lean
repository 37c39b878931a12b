import Docblock.Text.Bracket

/-!
# Remarks

A remark starts with two slashes and runs to the end of its line. Inside a type expression remarks
document the members around them, so they are peeled off and joined into one line.

In front of a text a slash can be nothing but the start of a remark, so a lone one there is told by
giving no result at all. Behind a text it is part of the text.
-/

namespace Docblock.Text

/-- The length of a remark's mark at this place, with the blanks around it: the blanks at the
start of a line, two slashes, and the blanks after them. A line feed in front belongs to it. -/
def remarkMark? (lineStart : Bool) (cs : List Char) : Option Nat :=
  if lineStart || cs.head? == some '\n' then
    match cs.dropWhile isBlank with
    | '/' :: '/' :: rest =>
      some (cs.length - (rest.dropWhile isBlank).length)
    | _ => none
  else none

/-- Put one space for each remark mark. The first `skip` characters are dropped. -/
def joinRemarks : Nat → Bool → List Char → List Char
  | _, _, [] => []
  | skip + 1, _, c :: rest => joinRemarks skip (c == '\n') rest
  | 0, lineStart, c :: rest =>
    match remarkMark? lineStart (c :: rest) with
    | some length => ' ' :: joinRemarks (length - 1) (c == '\n') rest
    | none => c :: joinRemarks 0 (c == '\n') rest

/-- The lines of one or more remarks in one text, single spaces for the marks. -/
def flattenRemarks (cs : List Char) : List Char := trim (joinRemarks 0 true cs)

/-- The blanks and remarks at the start of a text, and the rest. None when a slash stands alone
where a remark or the rest could start. `inRemark` tells that a remark is being read. -/
def splitLeading? : Bool → List Char → Option (List Char × List Char)
  | _, [] => some ([], [])
  | true, c :: rest => do
    let (remarks, after) ← splitLeading? (c != '\n') rest
    return (c :: remarks, after)
  | false, c :: rest =>
    if isBlank c then do
      let (remarks, after) ← splitLeading? false rest
      return (c :: remarks, after)
    else if c = '/' then
      if rest.head? = some '/' then do
        let (remarks, after) ← splitLeading? true rest
        return (c :: remarks, after)
      else none
    else some ([], c :: rest)

/-- The remarks before the substance of a text, joined, and that substance. -/
def leadingRemark? (cs : List Char) : Option (List Char × List Char) := do
  let (remarks, rest) ← splitLeading? false cs
  return (flattenRemarks remarks, trim rest)

/-- The text before the first remark outside brackets and quotes, and that remark without its
slashes. The first `skip` characters belong to a span. -/
def splitTrailing : Nat → List Char → List Char × Option (List Char)
  | _, [] => ([], none)
  | skip + 1, c :: rest =>
    let (before, remark) := splitTrailing skip rest
    (c :: before, remark)
  | 0, c :: rest =>
    if c = '/' ∧ rest.head? = some '/' then ([], some (rest.drop 1))
    else
      let (before, remark) := splitTrailing (spanOffset (c :: rest)) rest
      (c :: before, remark)

/-- The substance of a text and the remark after it, joined. -/
def trailingRemark (cs : List Char) : List Char × List Char :=
  let (before, remark) := splitTrailing 0 cs
  (trim before, (remark.map flattenRemarks).getD [])

theorem length_splitLeading_le {inRemark : Bool} {cs remarks rest : List Char}
    (h : splitLeading? inRemark cs = some (remarks, rest)) : rest.length ≤ cs.length := by
  induction cs generalizing inRemark remarks rest with
  | nil => cases inRemark <;> simp_all [splitLeading?]
  | cons c tail ih =>
    have step : ∀ b, (do let (r, after) ← splitLeading? b tail; return (c :: r, after)) =
        some (remarks, rest) → rest.length ≤ tail.length + 1 := by
      intro b hb
      simp only [Option.bind_eq_bind, Option.pure_def, Option.bind_eq_some_iff] at hb
      obtain ⟨⟨r, after⟩, h1, h2⟩ := hb
      have := ih h1
      simp only [Option.some.injEq, Prod.mk.injEq] at h2
      rw [← h2.2]
      omega
    cases inRemark with
    | true => exact step _ (by simpa [splitLeading?] using h)
    | false =>
      unfold splitLeading? at h
      split at h
      · exact step _ h
      · split at h
        · split at h
          · exact step _ h
          · cases h
        · simp only [Option.some.injEq, Prod.mk.injEq] at h
          exact h.2 ▸ Nat.le_refl _

theorem length_leadingRemark_le {cs remark rest : List Char}
    (h : leadingRemark? cs = some (remark, rest)) : rest.length ≤ cs.length := by
  simp only [leadingRemark?, Option.bind_eq_bind, Option.pure_def,
    Option.bind_eq_some_iff] at h
  obtain ⟨⟨r, after⟩, h1, h2⟩ := h
  simp only [Option.some.injEq, Prod.mk.injEq] at h2
  rw [← h2.2]
  exact Nat.le_trans (length_trim_le _) (length_splitLeading_le h1)

theorem length_splitTrailing_le (skip : Nat) (cs : List Char) :
    (splitTrailing skip cs).1.length ≤ cs.length := by
  induction cs generalizing skip with
  | nil => cases skip <;> simp [splitTrailing]
  | cons c rest ih =>
    cases skip with
    | zero =>
      unfold splitTrailing
      split
      · simp
      · simpa using ih _
    | succ n => simpa [splitTrailing] using ih n

theorem length_trailingRemark_le (cs : List Char) :
    (trailingRemark cs).1.length ≤ cs.length :=
  Nat.le_trans (length_trim_le _) (length_splitTrailing_le 0 cs)

end Docblock.Text
