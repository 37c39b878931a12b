import Docblock.Check.Failure
import Docblock.Proofs.Outcome
import Mathlib.Algebra.Ring.Nat

/-!
# Values that have no text

A message can only be written when everything that it shows has a text. A value has none just where
a whole number with too many digits would be shown (`Value.missingIff_text`), and the messages and
paths that are made of such texts are missing in the same cases. One fault stands for all of them,
so the order in which the parts of a message are written does not matter, and nothing here says
which number it was.

Only what is shown counts. Collections show all that they hold, at any depth, and mappings their
keys as well, while a record is shown by its kind alone, so a number that is too long does no harm
in it. What the texts are is of no interest here.
-/

namespace Docblock

/-! ## Texts that are missing -/

/-- A text is missing, and always for the same reason, just where a number in it is too long. -/
def MissingIff {α : Type} (text : Except Fault α) (long : Prop) : Prop :=
  ∀ fault, text = .error fault ↔ fault = .integerTooLong none ∧ long

namespace MissingIff

variable {α β : Type} {text : Except Fault α} {long more : Prop}

theorem ok (a : α) : MissingIff (.ok a) False := fun _ => by simp

theorem congr (h : MissingIff text long) (same : long ↔ more) : MissingIff text more :=
  fun fault => (h fault).trans (and_congr_right fun _ => same)

/-- A text that is not missing is there. -/
theorem exists_ok (h : MissingIff text long) (short : ¬long) : ∃ a, text = .ok a := by
  cases text with
  | ok a => exact ⟨a, rfl⟩
  | error fault => exact absurd ((h fault).1 rfl).2 short

theorem bind {rest : α → Except Fault β} (h : MissingIff text long)
    (after : ∀ a, MissingIff (rest a) more) : MissingIff (text >>= rest) (long ∨ more) := by
  intro fault
  rw [bind_eq_error, h fault]
  constructor
  · rintro (⟨rfl, first⟩ | ⟨a, -, second⟩)
    · exact ⟨rfl, .inl first⟩
    · exact ⟨((after a fault).1 second).1, .inr ((after a fault).1 second).2⟩
  · rintro ⟨rfl, first | second⟩
    · exact .inl ⟨rfl, first⟩
    · by_cases first : long
      · exact .inl ⟨rfl, first⟩
      · obtain ⟨a, ha⟩ := h.exists_ok first
        exact .inr ⟨a, ha, (after a _).2 ⟨rfl, second⟩⟩

/-- What is only written around a text is missing with it. -/
theorem map (h : MissingIff text long) (f : α → β) :
    MissingIff (text >>= fun a => pure (f a)) long :=
  (h.bind fun a => ok (f a)).congr (or_iff_left id)

theorem mapM {f : α → Except Fault β} {bad : α → Prop} {as : List α}
    (each : ∀ a ∈ as, MissingIff (f a) (bad a)) : MissingIff (as.mapM f) (∃ a ∈ as, bad a) := by
  induction as with
  | nil => exact (ok []).congr (by simp)
  | cons a rest ih =>
    rw [List.mapM_cons]
    have later := ih fun b hb => each b (by simp [hb])
    exact ((each a (by simp)).bind fun b => later.map (b :: ·)).congr (by simp)

end MissingIff

/-! ## Values -/

/-- A whole number with more digits than are ever written. -/
def Lengthy (n : Int) : Prop := 10 ^ Text.digitLimit ≤ n.natAbs

theorem missingIff_integerText (n : Int) : MissingIff (integerText n) (Lengthy n) := by
  intro fault
  have short : (Nat.toDigits 10 n.natAbs).length ≤ Text.digitLimit ↔
      n.natAbs < 10 ^ Text.digitLimit :=
    Nat.length_toDigits_le_iff (by omega) (Nat.succ_pos _)
  have long : Text.digitLimit < (Nat.toDigits 10 n.natAbs).length ↔ Lengthy n :=
    Nat.not_le.symm.trans ((not_congr short).trans Nat.not_lt)
  unfold integerText
  by_cases h : Lengthy n
  · rw [if_pos (long.2 h)]
    simp [h, eq_comm]
  · rw [if_neg (mt long.1 h)]
    simp [h]

/-- A number has no text: it is a whole number with too many digits. -/
def Number.Unwritable : Number → Prop
  | .int n => Lengthy n
  | .double _ => False

theorem Number.missingIff_text : ∀ x : Number, MissingIff x.text x.Unwritable
  | .int n => missingIff_integerText n
  | .double _ => .ok _

namespace Value

mutual

/-- Inside another value a value has no text: a whole number in it has too many digits. -/
def UnwritableInside : Value → Prop
  | .int n => Lengthy n
  | .list items | .tuple items | .set items => AnyUnwritable items
  | .mapping entries => EntryUnwritable entries
  | .symbol _ _ value => UnwritableInside value
  | _ => False

@[inherit_doc UnwritableInside]
def AnyUnwritable : List Value → Prop
  | [] => False
  | item :: rest => UnwritableInside item ∨ AnyUnwritable rest

@[inherit_doc UnwritableInside]
def EntryUnwritable : List (Value × Value) → Prop
  | [] => False
  | (key, value) :: rest =>
    UnwritableInside key ∨ UnwritableInside value ∨ EntryUnwritable rest

end

/-- A value has no text. A symbol has one whatever its value is. -/
def Unwritable : Value → Prop
  | .symbol .. => False
  | value => value.UnwritableInside

mutual

theorem missingIff_innerText : ∀ value : Value,
    MissingIff value.innerText value.UnwritableInside
  | .int n => missingIff_integerText n
  | .list items => (missingIff_itemsText items).map _
  | .tuple [] => (missingIff_itemsText []).map _
  | .tuple [item] =>
    ((missingIff_innerText item).map _).congr (by simp [UnwritableInside, AnyUnwritable])
  | .tuple (item :: other :: rest) => (missingIff_itemsText (item :: other :: rest)).map _
  | .set [] => .ok _
  | .set (item :: rest) => (missingIff_itemsText (item :: rest)).map _
  | .mapping entries => (missingIff_entriesText entries).map _
  | .symbol _ _ value => (missingIff_innerText value).map _
  | .null | .undefined | .bool _ | .double _ | .string _ | .record .. | .function | .builtin
  | .type _ | .pattern _ | .date _ | .dateTime .. | .decimal _ | .bytes _ => .ok _

theorem missingIff_itemsText : ∀ items : List Value,
    MissingIff (itemsText items) (AnyUnwritable items)
  | [] => .ok _
  | [item] => (missingIff_innerText item).congr (by simp [AnyUnwritable])
  | item :: other :: rest =>
    (missingIff_innerText item).bind fun _ => (missingIff_itemsText (other :: rest)).map _

theorem missingIff_entriesText : ∀ entries : List (Value × Value),
    MissingIff (entriesText entries) (EntryUnwritable entries)
  | [] => .ok _
  | [(key, value)] =>
    ((missingIff_innerText key).bind fun _ => (missingIff_innerText value).map _).congr
      (by simp [EntryUnwritable])
  | (key, value) :: other :: rest =>
    (missingIff_innerText key).bind fun _ => (missingIff_innerText value).bind fun _ =>
      (missingIff_entriesText (other :: rest)).map _

end

theorem missingIff_text (value : Value) : MissingIff value.text value.Unwritable := by
  cases value with
  | string | date | dateTime | decimal | symbol => exact .ok _
  | _ => exact missingIff_innerText _

/-- The start of an array is written only when all of it can be. -/
theorem missingIff_arrayText (items : List Value) :
    MissingIff (arrayText items) (∃ item ∈ items, item.Unwritable) :=
  (MissingIff.mapM fun item _ => item.missingIff_text).map _

theorem missingIff_stepText (first : Bool) (key : Value) :
    MissingIff (key.stepText first) key.Unwritable :=
  key.missingIff_text.map _

theorem missingIff_pathText (path : List Value) :
    MissingIff (pathText path) (∃ key ∈ path, key.Unwritable) := by
  cases path with
  | nil => exact (MissingIff.ok "").congr (by simp)
  | cons key rest =>
    have later : MissingIff (rest.mapM (stepText false)) (∃ key ∈ rest, key.Unwritable) :=
      .mapM fun key _ => key.missingIff_stepText false
    exact ((key.missingIff_stepText true).bind fun _ => later.map _).congr (by simp)

theorem not_unwritable_string (s : String) : ¬(Value.string s).Unwritable := id

end Value

/-! ## Messages -/

namespace Failure

theorem missingIff_placeText (depth : Nat) (path : List Value) :
    MissingIff (placeText depth path) (depth < path.length ∧ ∃ key ∈ path, key.Unwritable) := by
  unfold placeText
  by_cases deep : depth < path.length
  · rw [if_pos deep]
    exact ((Value.missingIff_pathText path).map _).congr (by simp [deep])
  · rw [if_neg deep]
    exact (MissingIff.ok "").congr (by simp [deep])

/-- The message about undeclared keys shows them and the whole path. -/
theorem missingIff_extraMessage (extra path : List Value) :
    MissingIff (extraMessage extra path) (∃ key ∈ extra ++ path, key.Unwritable) := by
  have names : MissingIff (extra.mapM Value.text) (∃ key ∈ extra, key.Unwritable) :=
    .mapM fun key _ => key.missingIff_text
  refine (names.bind fun _ => (missingIff_placeText 0 path).map _).congr ?_
  have place : (0 < path.length ∧ ∃ key ∈ path, key.Unwritable) ↔ ∃ key ∈ path, key.Unwritable :=
    and_iff_right_of_imp fun ⟨_, mem, _⟩ => List.length_pos_of_mem mem
  rw [place]
  simp only [List.mem_append, or_and_right, exists_or]

theorem missingIff_ofExtraKeys (extra path : List Value) :
    MissingIff (ofExtraKeys extra path) (∃ key ∈ extra ++ path, key.Unwritable) :=
  (missingIff_extraMessage extra path).map _

/-- A failure cannot be told: it has no message yet, and its path, which the message would show, has
no text. -/
structure Untold (depth : Nat) (failure : Failure) : Prop where
  silent : failure.message = ""
  deep : depth < failure.path.length
  unwritable : ∃ key ∈ failure.path, key.Unwritable

theorem missingIff_explain (what : String) (depth : Nat) (failure : Failure) :
    MissingIff (failure.explain what depth) (failure.Untold depth) := by
  unfold explain
  by_cases silent : failure.message = ""
  · rw [if_pos silent]
    refine (((missingIff_placeText depth failure.path).map _).map _).congr ?_
    exact ⟨fun ⟨deep, unwritable⟩ => ⟨silent, deep, unwritable⟩,
      fun untold => ⟨untold.deep, untold.unwritable⟩⟩
  · rw [if_neg silent]
    exact (MissingIff.ok failure).congr ⟨False.elim, fun untold => silent untold.silent⟩

end Failure

end Docblock
