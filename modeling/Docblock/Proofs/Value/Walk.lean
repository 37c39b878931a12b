import Docblock.Value.Member

/-!
# Walking into values

A walk goes from a value into one of its members with each key (`Leads`). A mapping holds no two
equal keys and a record no two attributes of one name (`Proper`), so what is listed under an own key
is what a step with that key finds (`under_of_mem_ownEntries`). Only a key that is not equal to
itself, as a number can be, cannot be looked up; it is found where it stands.

Values are a data type that could hold any list of entries, and a mapping with two equal keys would
be a value that no program can have. Such values are not excluded from the checks, which run on all
of them. They are excluded here, where it is said what a path of keys means. What is put together
entry by entry is proper (`proper_ofEntries`), and so are its members.

Attributes that a value has by its class are no entries. A step with such a name finds nothing.
-/

namespace Docblock.Value

/-! ## Steps -/

/-- What one step with a key finds. -/
def Under (value key found : Value) : Prop :=
  value.member key = found ∨ key.eqv key = false ∧ (key, found) ∈ value.ownEntries?.getD []

/-- What a walk along keys ends at. -/
inductive Leads : Value → List Value → Value → Prop
  | here (value : Value) : Leads value [] value
  | step {value key next last : Value} {keys : List Value} (under : value.Under key next)
      (rest : Leads next keys last) : Leads value (key :: keys) last

theorem Leads.one {value key found : Value} (h : value.Under key found) :
    value.Leads [key] found := .step h (.here found)

theorem Leads.append {value middle last : Value} {keys keys' : List Value}
    (h : value.Leads keys middle) (h' : middle.Leads keys' last) :
    value.Leads (keys ++ keys') last := by
  induction h with
  | here value => exact h'
  | step under rest ih => exact .step under (ih h')

/-- Steps with members only. -/
theorem leads_foldl_member (value : Value) (keys : List Value) :
    value.Leads keys (keys.foldl member value) := by
  induction keys generalizing value with
  | nil => exact .here value
  | cons key rest ih => exact .step (.inl rfl) (ih _)

/-- Along keys that are equal to themselves a walk reads one member after the other. -/
theorem Leads.eq_foldl_member {value last : Value} {keys : List Value} (h : value.Leads keys last)
    (found : ∀ key ∈ keys, key.eqv key = true) : last = keys.foldl member value := by
  induction h with
  | here value => rfl
  | @step value key next last keys under rest ih =>
    have hnext : value.member key = next := by
      rcases under with h | ⟨h, -⟩
      · exact h
      · rw [found key (by simp)] at h
        cases h
    rw [List.foldl_cons, hnext]
    exact ih fun other ho => found other (by simp [ho])

/-! ## Proper values -/

mutual

/-- No mapping in a value has two equal keys, and no record two attributes of one name. -/
def Proper : Value → Prop
  | .list items | .tuple items => ProperAll items
  | .mapping entries =>
    entries.Pairwise (fun one other => one.1.eqv other.1 = false) ∧ ProperEntries entries
  | .record _ attributes _ =>
    attributes.Pairwise (fun one other => one.1 ≠ other.1) ∧ ProperAttributes attributes
  | .symbol _ _ value => Proper value
  | _ => True

@[inherit_doc Proper]
def ProperAll : List Value → Prop
  | [] => True
  | item :: rest => Proper item ∧ ProperAll rest

@[inherit_doc Proper]
def ProperEntries : List (Value × Value) → Prop
  | [] => True
  | (_, value) :: rest => Proper value ∧ ProperEntries rest

@[inherit_doc Proper]
def ProperAttributes : List (String × Value) → Prop
  | [] => True
  | (_, value) :: rest => Proper value ∧ ProperAttributes rest

end

theorem properAll_iff {items : List Value} : ProperAll items ↔ ∀ item ∈ items, item.Proper := by
  induction items with
  | nil => simp [ProperAll]
  | cons item rest ih => simp [ProperAll, ih]

theorem properEntries_iff {entries : List (Value × Value)} :
    ProperEntries entries ↔ ∀ entry ∈ entries, entry.2.Proper := by
  induction entries with
  | nil => simp [ProperEntries]
  | cons entry rest ih => simp [ProperEntries, ih]

theorem properAttributes_iff {attributes : List (String × Value)} :
    ProperAttributes attributes ↔ ∀ entry ∈ attributes, entry.2.Proper := by
  induction attributes with
  | nil => simp [ProperAttributes]
  | cons entry rest ih => simp [ProperAttributes, ih]

theorem mem_insertEntry {key value : Value} {entries : List (Value × Value)}
    {entry : Value × Value} (h : entry ∈ insertEntry key value entries) :
    (entry.1 = key ∨ ∃ old ∈ entries, old.1 = entry.1) ∧ (entry.2 = value ∨ entry ∈ entries) := by
  induction entries with
  | nil =>
    cases List.mem_singleton.1 h
    exact ⟨.inl rfl, .inl rfl⟩
  | cons old rest ih =>
    rw [insertEntry] at h
    split at h
    · rcases List.mem_cons.1 h with rfl | h
      · exact ⟨.inr ⟨old, by simp, rfl⟩, .inl rfl⟩
      · exact ⟨.inr ⟨entry, by simp [h], rfl⟩, .inr (by simp [h])⟩
    · rcases List.mem_cons.1 h with rfl | h
      · exact ⟨.inr ⟨old, by simp, rfl⟩, .inr (by simp)⟩
      · obtain ⟨hkey, hvalue⟩ := ih h
        refine ⟨hkey.imp_right fun ⟨other, ho, hk⟩ => ⟨other, by simp [ho], hk⟩, ?_⟩
        exact hvalue.imp_right fun hm => by simp [hm]

theorem pairwise_insertEntry {key value : Value} {entries : List (Value × Value)}
    (h : entries.Pairwise fun one other => one.1.eqv other.1 = false) :
    (insertEntry key value entries).Pairwise fun one other => one.1.eqv other.1 = false := by
  induction entries with
  | nil => simp [insertEntry]
  | cons old rest ih =>
    rw [List.pairwise_cons] at h
    rw [insertEntry]
    split
    · exact List.pairwise_cons.2 ⟨h.1, h.2⟩
    · rename_i hne
      refine List.pairwise_cons.2 ⟨fun entry he => ?_, ih h.2⟩
      rcases (mem_insertEntry he).1 with hk | ⟨other, ho, hk⟩
      · rw [hk]
        simpa using hne
      · rw [← hk]
        exact h.1 other ho

/-- A mapping that is made by putting entries in one after the other is proper. -/
theorem proper_ofEntries {entries : List (Value × Value)}
    (h : ∀ entry ∈ entries, entry.2.Proper) : (ofEntries entries).Proper := by
  have insert : ∀ (entries done : List (Value × Value)), (∀ entry ∈ entries, entry.2.Proper) →
      (mapping done).Proper →
      (mapping (entries.foldl (fun done entry => insertEntry entry.1 entry.2 done) done)).Proper := by
    intro entries
    induction entries with
    | nil => exact fun _ _ hd => hd
    | cons entry rest ih =>
      intro done h hd
      refine ih _ (fun other ho => h other (by simp [ho]))
        ⟨pairwise_insertEntry hd.1, properEntries_iff.2 fun other ho => ?_⟩
      rcases (mem_insertEntry ho).2 with hv | hm
      · rw [hv]
        exact h entry (by simp)
      · exact properEntries_iff.1 hd.2 other hm
  exact insert entries [] h ⟨.nil, trivial⟩

/-! ## Members of proper values -/

theorem lookup_eq_of_mem {key value : Value} {entries : List (Value × Value)}
    (h : entries.Pairwise fun one other => one.1.eqv other.1 = false)
    (hm : (key, value) ∈ entries) (hk : key.eqv key = true) : lookup key entries = value := by
  induction entries with
  | nil => cases hm
  | cons entry rest ih =>
    rw [List.pairwise_cons] at h
    rw [lookup]
    rcases List.mem_cons.1 hm with rfl | hm
    · rw [if_pos hk]
    · rw [h.1 _ hm]
      exact ih h.2 hm

theorem field_eq_of_mem {name : String} {value : Value} {attributes : List (String × Value)}
    (h : attributes.Pairwise fun one other => one.1 ≠ other.1)
    (hm : (name, value) ∈ attributes) : field name attributes = value := by
  induction attributes with
  | nil => cases hm
  | cons entry rest ih =>
    rw [List.pairwise_cons] at h
    rw [field]
    rcases List.mem_cons.1 hm with rfl | hm
    · rw [if_pos rfl]
    · rw [if_neg (h.1 _ hm)]
      exact ih h.2 hm

/-- A step with an own key finds what is listed under it. -/
theorem under_of_mem_ownEntries {value : Value} {entries : List (Value × Value)}
    {entry : Value × Value} (proper : value.Proper) (h : value.ownEntries? = some entries)
    (he : entry ∈ entries) : value.Under entry.1 entry.2 := by
  cases value <;> simp only [ownEntries?, Option.some.injEq, reduceCtorEq] at h
  case mapping all =>
    subst h
    by_cases hk : entry.1.eqv entry.1 = true
    · exact .inl (lookup_eq_of_mem proper.1 he hk)
    · exact .inr ⟨by simpa using hk, he⟩
  case record kind attributes callable =>
    subst h
    obtain ⟨own, ha, rfl⟩ := List.mem_map.1 he
    exact .inl (field_eq_of_mem proper.1 (List.mem_filter.1 ha).1)
  all_goals
    subst h
    cases he

theorem Proper.ownEntry {value : Value} {entries : List (Value × Value)} {entry : Value × Value}
    (proper : value.Proper) (h : value.ownEntries? = some entries) (he : entry ∈ entries) :
    entry.2.Proper := by
  cases value <;> simp only [ownEntries?, Option.some.injEq, reduceCtorEq] at h
  case mapping all =>
    subst h
    exact properEntries_iff.1 proper.2 entry he
  case record kind attributes callable =>
    subst h
    obtain ⟨own, ha, rfl⟩ := List.mem_map.1 he
    exact properAttributes_iff.1 proper.2 own (List.mem_filter.1 ha).1
  all_goals
    subst h
    cases he

theorem Proper.item {value item : Value} {items : List Value} (proper : value.Proper)
    (h : value.items? = some items) (hi : item ∈ items) : item.Proper := by
  cases value <;> simp only [items?, Option.some.injEq, reduceCtorEq] at h
  all_goals
    subst h
    exact properAll_iff.1 proper item hi

theorem Proper.member {value : Value} (proper : value.Proper) (key : Value) :
    (value.member key).Proper := by
  have none : Value.undefined.Proper := trivial
  have ofItems : ∀ items, ProperAll items → ∀ place, (Value.item place items).Proper := by
    intro items h place
    rcases item_eq_undefined_or_mem place items with h' | h'
    · rw [h']
      exact none
    · exact properAll_iff.1 h _ h'
  unfold Value.member
  split
  · rename_i entries
    rcases lookup_eq_undefined_or_mem key entries with h | ⟨entry, hm, h⟩
    · rw [h]
      exact none
    · rw [h]
      exact properEntries_iff.1 proper.2 entry hm
  · split
    · exact ofItems _ proper _
    · exact none
  · split
    · exact ofItems _ proper _
    · exact none
  · rename_i attributes _ name
    rcases field_eq_undefined_or_mem name attributes with h | ⟨entry, hm, h⟩
    · rw [h]
      exact none
    · rw [h]
      exact properAttributes_iff.1 proper.2 entry hm
  · split
    · exact trivial
    · split
      · exact proper
      · exact none
  · exact none

theorem member_int {value : Value} {items : List Value} (h : value.items? = some items)
    (place : Nat) : value.member (.int place) = items[place]?.getD .undefined := by
  have index : (Value.int place).index? = some place := by
    simp [index?]
  cases value <;> simp only [items?, Option.some.injEq, reduceCtorEq] at h
  all_goals
    subst h
    simp only [Value.member, index]
    rfl

end Docblock.Value
