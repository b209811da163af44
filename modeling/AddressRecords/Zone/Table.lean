import AddressRecords.Zone.Cache

/-!
A source of zone lists that answers from a table. Failures can be queued, and each of them spoils
one query.
-/

namespace AddressRecords

structure ZoneTable where
  rows : List (String × List Zone)
  failures : List Api.Failure
  /-- The names asked for so far. -/
  queries : List String

namespace ZoneTable

/-- A row replaces an earlier one for the same name. -/
def addRows (table : ZoneTable) (rows : List (String × List Zone)) : ZoneTable :=
  { table with rows := rows ++ table.rows }

def addFailures (table : ZoneTable) (failures : List Api.Failure) : ZoneTable :=
  { table with failures := table.failures ++ failures }

/-- A name without a row has no zones. -/
def source : ZoneSource ZoneTable := fun name table =>
  let asked := { table with queries := table.queries ++ [name] }
  match table.failures with
  | failure :: rest => ⟨.error failure, { asked with failures := rest }, []⟩
  | [] => ⟨.ok ((table.rows.lookup name).getD []), asked, []⟩

end ZoneTable

end AddressRecords
