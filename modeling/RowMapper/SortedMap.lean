/-!
# `RowMapper.SortedMap`: maps from names, in the order of the names

The values of a record, its snapshot and the messages of a repository are looked up by name and
shown in the order of the names, which is the order of their code points. A `SortedMap` keeps its
entries strictly increasing, so that it has one entry a name and one representation:

* `get?_insert_self`, `get?_insert_of_ne`: what an insertion does to a look-up,
* `get?_empty`: nothing is in the empty map,
* `ext_get?`: two maps with the same look-ups are equal.
-/

set_option autoImplicit false

namespace RowMapper

/-- Entries with strictly increasing names. -/
structure SortedMap (α : Type) where
  entries : List (String × α)
  sorted : entries.Pairwise (fun a b => a.1 < b.1)
deriving DecidableEq

namespace SortedMap

variable {α : Type}

/-- Puts an entry in its place, instead of an entry of the same name. -/
def insertEntry (name : String) (value : α) : List (String × α) → List (String × α)
  | [] => [(name, value)]
  | (first, held) :: rest =>
    if name < first then (name, value) :: (first, held) :: rest
    else if name = first then (name, value) :: rest
    else (first, held) :: insertEntry name value rest

theorem mem_insertEntry {name : String} {value : α} {entry : String × α}
    {entries : List (String × α)} (h : entry ∈ insertEntry name value entries) :
    entry = (name, value) ∨ entry ∈ entries := by
  induction entries with
  | nil => simpa [insertEntry] using h
  | cons head rest ih =>
    obtain ⟨first, held⟩ := head
    rw [insertEntry] at h
    split at h
    · simpa using h
    · split at h
      · rcases List.mem_cons.1 h with h | h
        · exact .inl h
        · exact .inr (List.mem_cons_of_mem _ h)
      · rcases List.mem_cons.1 h with h | h
        · exact .inr (h ▸ List.mem_cons_self)
        · exact (ih h).imp_right (List.mem_cons_of_mem _)

theorem insertEntry_sorted (name : String) (value : α) {entries : List (String × α)}
    (h : entries.Pairwise (fun a b => a.1 < b.1)) :
    (insertEntry name value entries).Pairwise (fun a b => a.1 < b.1) := by
  induction entries with
  | nil => simp [insertEntry]
  | cons head rest ih =>
    obtain ⟨first, held⟩ := head
    obtain ⟨above, restSorted⟩ := List.pairwise_cons.1 h
    rw [insertEntry]
    split
    case isTrue before =>
      refine List.pairwise_cons.2 ⟨fun entry mem => ?_, h⟩
      rcases List.mem_cons.1 mem with rfl | mem
      · exact before
      · exact String.lt_trans before (above entry mem)
    case isFalse notBefore =>
      split
      case isTrue same =>
        subst same
        exact List.pairwise_cons.2 ⟨above, restSorted⟩
      case isFalse different =>
        refine List.pairwise_cons.2 ⟨fun entry mem => ?_, ih restSorted⟩
        rcases mem_insertEntry mem with rfl | mem
        · have notAfter : first ≤ name := String.not_lt.1 notBefore
          exact Std.lt_of_le_of_ne notAfter (Ne.symm different)
        · exact above entry mem

/-- The map without entries. -/
def empty : SortedMap α := ⟨[], .nil⟩

instance : EmptyCollection (SortedMap α) := ⟨empty⟩

/-- The map in which the name stands for the value; other names keep theirs. -/
def insert (map : SortedMap α) (name : String) (value : α) : SortedMap α :=
  ⟨insertEntry name value map.entries, insertEntry_sorted name value map.sorted⟩

/-- The value a name stands for. -/
def get? (map : SortedMap α) (name : String) : Option α :=
  map.entries.lookup name

/-- Whether the name stands for a value. -/
def contains (map : SortedMap α) (name : String) : Bool :=
  (map.get? name).isSome

@[simp]
theorem get?_empty (name : String) : (empty : SortedMap α).get? name = none := rfl

@[simp]
theorem get?_insert_self (map : SortedMap α) (name : String) (value : α) :
    (map.insert name value).get? name = some value := by
  show (insertEntry name value map.entries).lookup name = some value
  induction map.entries with
  | nil => simp [insertEntry]
  | cons head rest ih =>
    obtain ⟨first, held⟩ := head
    rw [insertEntry]
    split
    · simp
    · split
      · simp
      · rename_i different
        simpa [List.lookup_cons, beq_false_of_ne different] using ih

theorem get?_insert_of_ne (map : SortedMap α) {name other : String} (value : α)
    (h : other ≠ name) : (map.insert name value).get? other = map.get? other := by
  show (insertEntry name value map.entries).lookup other = map.entries.lookup other
  have skip : (other == name) = false := beq_false_of_ne h
  induction map.entries with
  | nil => simp [insertEntry, List.lookup_cons, skip]
  | cons head rest ih =>
    obtain ⟨first, held⟩ := head
    rw [insertEntry]
    split
    · simp [List.lookup_cons, skip]
    · split
      · rename_i same
        subst same
        simp [List.lookup_cons, skip]
      · simp [List.lookup_cons, ih]

theorem lookup_eq_none_of_lt {name : String} {entries : List (String × α)}
    (h : ∀ entry ∈ entries, name < entry.1) : entries.lookup name = none := by
  induction entries with
  | nil => rfl
  | cons head rest ih =>
    obtain ⟨first, held⟩ := head
    have skip : (name == first) = false :=
      beq_false_of_ne fun same => String.lt_irrefl name (by simpa [← same] using h (first, held))
    rw [List.lookup_cons, skip]
    exact ih fun entry mem => h entry (List.mem_cons_of_mem _ mem)

theorem eq_of_lookup_eq {left right : List (String × α)}
    (hl : left.Pairwise (fun a b => a.1 < b.1)) (hr : right.Pairwise (fun a b => a.1 < b.1))
    (h : ∀ name, left.lookup name = right.lookup name) : left = right := by
  induction left generalizing right with
  | nil =>
    cases right with
    | nil => rfl
    | cons head rest =>
      obtain ⟨first, held⟩ := head
      have := h first
      simp at this
  | cons l ls ih =>
    obtain ⟨lName, lValue⟩ := l
    obtain ⟨lAbove, lsSorted⟩ := List.pairwise_cons.1 hl
    cases right with
    | nil =>
      have := h lName
      simp at this
    | cons r rs =>
      obtain ⟨rName, rValue⟩ := r
      obtain ⟨rAbove, rsSorted⟩ := List.pairwise_cons.1 hr
      have same : lName = rName := by
        apply String.le_antisymm <;> refine String.not_lt.1 fun below => ?_
        · have missing : ((lName, lValue) :: ls).lookup rName = none :=
            lookup_eq_none_of_lt fun entry mem => by
              rcases List.mem_cons.1 mem with rfl | mem
              · exact below
              · exact String.lt_trans below (lAbove entry mem)
          simp [h rName] at missing
        · have missing : ((rName, rValue) :: rs).lookup lName = none :=
            lookup_eq_none_of_lt fun entry mem => by
              rcases List.mem_cons.1 mem with rfl | mem
              · exact below
              · exact String.lt_trans below (rAbove entry mem)
          simp [← h lName] at missing
      subst same
      have values : lValue = rValue := by simpa using h lName
      subst values
      refine congrArg _ (ih lsSorted rsSorted fun name => ?_)
      by_cases here : name = lName
      · subst here
        rw [lookup_eq_none_of_lt lAbove, lookup_eq_none_of_lt rAbove]
      · simpa [List.lookup_cons, beq_false_of_ne here] using h name

theorem ext_get? {left right : SortedMap α} (h : ∀ name, left.get? name = right.get? name) :
    left = right := by
  obtain ⟨_, leftSorted⟩ := left
  obtain ⟨_, rightSorted⟩ := right
  have same := eq_of_lookup_eq leftSorted rightSorted h
  subst same
  rfl

end SortedMap

end RowMapper
