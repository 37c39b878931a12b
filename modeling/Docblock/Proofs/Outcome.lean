import Docblock.Fault

/-!
# Outcomes

Steps that give a result or break off. What is known of a result is taken apart by the steps that
led to it: a result of two steps is a result of the second on a result of the first.

Most of it holds of `Except` with any error. It is stated for faults, which is what every definition
here breaks off with, so that the lemmas apply without naming the type. Loops over lists are treated
by what they give. In what order they break off is shown where it matters.
-/

namespace Docblock

variable {α β : Type}

theorem bind_eq_ok {x : Except Fault α} {f : α → Except Fault β} {b : β} :
    x >>= f = .ok b ↔ ∃ a, x = .ok a ∧ f a = .ok b := by
  cases x with
  | error fault =>
    constructor
    · intro h
      cases h
    · rintro ⟨a, h, -⟩
      cases h
  | ok a =>
    constructor
    · intro h
      exact ⟨a, rfl, h⟩
    · rintro ⟨a', h, hf⟩
      cases h
      exact hf

/-- Two steps break off where the first does, or the second on a result of the first. -/
theorem bind_eq_error {x : Except Fault α} {f : α → Except Fault β} {fault : Fault} :
    x >>= f = .error fault ↔ x = .error fault ∨ ∃ a, x = .ok a ∧ f a = .error fault := by
  cases x with
  | error other => simp [bind, Except.bind]
  | ok a => simp [bind, Except.bind]

theorem pure_ne_error {a : α} {fault : Fault} : (pure a : Except Fault α) ≠ .error fault := nofun

theorem pure_eq_ok {a b : α} : (pure a : Except Fault α) = .ok b ↔ a = b := by
  constructor
  · intro h
    cases h
    rfl
  · rintro rfl
    rfl

theorem map_eq_ok {x : Except Fault α} {f : α → β} {b : β} :
    f <$> x = .ok b ↔ ∃ a, x = .ok a ∧ f a = b := by
  cases x <;> simp [Functor.map, Except.map]

theorem refuse_ne_ok {fault : SchemaFault} {a : α} : refuse fault ≠ .ok a := by
  intro h
  cases h

/-- Steps on every member of a list give a result only where each of them does. -/
theorem forM_eq_ok {f : α → Except Fault PUnit} {as : List α} :
    as.forM f = .ok () ↔ ∀ a ∈ as, f a = .ok () := by
  induction as with
  | nil => simp [List.forM, pure_eq_ok]
  | cons a rest ih =>
    rw [List.forM, bind_eq_ok]
    constructor
    · rintro ⟨u, ha, hr⟩ b hb
      rcases List.mem_cons.1 hb with rfl | hb
      · exact ha
      · exact ih.1 hr b hb
    · intro h
      exact ⟨(), h a (by simp), ih.2 fun b hb => h b (by simp [hb])⟩

theorem mapM_cons_eq_ok {f : α → Except Fault β} {a : α} {as : List α} {b : β} {bs : List β}
    (first : f a = .ok b) (rest : as.mapM f = .ok bs) : (a :: as).mapM f = .ok (b :: bs) := by
  rw [List.mapM_cons]
  exact bind_eq_ok.2 ⟨b, first, bind_eq_ok.2 ⟨bs, rest, rfl⟩⟩

/-- Every member of the results comes from a member of the list. -/
theorem exists_of_mem_mapM {f : α → Except Fault β} {as : List α} {bs : List β}
    (h : as.mapM f = .ok bs) {b : β} (hb : b ∈ bs) : ∃ a ∈ as, f a = .ok b := by
  induction as generalizing bs with
  | nil =>
    rw [List.mapM_nil, pure_eq_ok] at h
    subst h
    cases hb
  | cons a rest ih =>
    rw [List.mapM_cons, bind_eq_ok] at h
    obtain ⟨c, hc, h⟩ := h
    obtain ⟨cs, hcs, h⟩ := bind_eq_ok.1 h
    rw [pure_eq_ok] at h
    subst h
    rcases List.mem_cons.1 hb with rfl | hb
    · exact ⟨a, by simp, hc⟩
    · obtain ⟨a', ha, hf⟩ := ih hcs hb
      exact ⟨a', by simp [ha], hf⟩

/-- What the results of steps on a list keep of its members they keep in order. -/
theorem map_of_mapM {γ : Type} {f : α → Except Fault β} {as : List α} {bs : List β} {kept : α → γ}
    {keeps : β → γ} (same : ∀ a b, f a = .ok b → keeps b = kept a) (h : as.mapM f = .ok bs) :
    bs.map keeps = as.map kept := by
  induction as generalizing bs with
  | nil =>
    rw [List.mapM_nil, pure_eq_ok] at h
    rw [← h]
    rfl
  | cons a rest ih =>
    rw [List.mapM_cons, bind_eq_ok] at h
    obtain ⟨b, first, h⟩ := h
    obtain ⟨others, all, h⟩ := bind_eq_ok.1 h
    rw [pure_eq_ok] at h
    rw [← h, List.map_cons, List.map_cons, same a b first, ih all]

end Docblock
