import PairedContacts.Run

/-!
# Sources of rows

A source answers a query by rows or by a failure.  A query stays open while its rows are used, and
is closed however their use ends.
-/

set_option autoImplicit false

namespace PairedContacts

structure Source where
  select : Query -> Except Failure (List Row)

namespace Row

def meets (row : Row) (filter : KeyedList String Value) : Bool :=
  filter.all fun wanted => (row.value wanted.1).agrees wanted.2

end Row

namespace Source

def ofRows (rows : List Row) : Source where
  select query := .ok (rows.filter fun row => row.meets query.filter)

def refusing (failure : Failure) : Source where
  select _ := .error failure

def reading {α : Type} (source : Source) (query : Query) (use : List Row -> Run α) : Run α :=
  let used := match source.select query with
    | .ok rows => use rows
    | .error failure => throw failure
  ⟨.opened query :: (used.events ++ [.closed query]), used.outcome⟩

end Source

end PairedContacts
