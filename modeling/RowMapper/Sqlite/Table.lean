import RowMapper.Row
import RowMapper.Sqlite.Storage

/-!
# `RowMapper.Sqlite.Table`: rows under keys that are never used twice

A table has the columns `id` and `v`. The key `id` of a new row is one more than that of any row
before it, those that are gone included; `v` holds whatever is stored there.
-/

set_option autoImplicit false

namespace RowMapper.Sqlite

/-- Rows in the order of their keys, and the last key that was assigned. -/
structure Table where
  rows : List (Nat × Storage) := []
  lastKey : Nat := 0
  increasing : rows.Pairwise (fun a b => a.1 < b.1) := by simp
  assigned : ∀ row ∈ rows, row.1 ≤ lastKey := by simp

namespace Table

/-- The key as a number of SQLite. -/
def keyNumber (key : Nat) : Int64 :=
  Int64.ofNat key

/-- The table with a new row. -/
def insert (table : Table) (stored : Storage) : Table where
  rows := table.rows ++ [(table.lastKey + 1, stored)]
  lastKey := table.lastKey + 1
  increasing := by
    refine List.pairwise_append.2 ⟨table.increasing, by simp, fun a held b new => ?_⟩
    have := table.assigned a held
    have : b = (table.lastKey + 1, stored) := by simpa using new
    subst this
    show a.1 < table.lastKey + 1
    omega
  assigned row mem := by
    rcases List.mem_append.1 mem with held | new
    · have := table.assigned row held
      omega
    · have : row = (table.lastKey + 1, stored) := by simpa using new
      subst this
      exact Nat.le_refl _

/-- The row with another value, if its key is meant. -/
def replaceAt (id stored : Storage) (row : Nat × Storage) : Nat × Storage :=
  (row.1, if id.isKey (keyNumber row.1) then stored else row.2)

/-- The table with another value in the row whose key is meant. -/
def update (table : Table) (id stored : Storage) : Table where
  rows := table.rows.map (replaceAt id stored)
  lastKey := table.lastKey
  increasing := List.pairwise_map.2 table.increasing
  assigned row mem := by
    obtain ⟨before, held, rfl⟩ := List.mem_map.1 mem
    exact table.assigned before held

/-- The table without the row whose key is meant. -/
def erase (table : Table) (id : Storage) : Table where
  rows := table.rows.filter fun row => !id.isKey (keyNumber row.1)
  lastKey := table.lastKey
  increasing := table.increasing.filter _
  assigned row mem := table.assigned row (List.mem_filter.1 mem).1

/-- The number of rows whose key is meant. -/
def count (table : Table) (id : Storage) : Nat :=
  table.rows.countP fun row => id.isKey (keyNumber row.1)

/-- All rows in the order of their keys. -/
def toRows (table : Table) : List Row :=
  table.rows.map fun (key, stored) => ⟨[("id", .int (keyNumber key)), ("v", stored.toValue)]⟩

end Table

end RowMapper.Sqlite
