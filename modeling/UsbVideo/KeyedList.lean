/-!
# Values under keys

A table with few keys is a list of them with their values, each key once. `List.lookup` finds the value
of a key and `KeyedList.put` gives it one.
-/

namespace UsbVideo

/-- Keys with their values. -/
abbrev KeyedList (α : Type) := List (String × α)

namespace KeyedList

variable {α : Type}

/-- Give `key` a value, in its old place if it had one. -/
def put (entries : KeyedList α) (key : String) (value : α) : KeyedList α :=
  match entries with
  | [] => [(key, value)]
  | (k, old) :: rest => if k = key then (k, value) :: rest else (k, old) :: put rest key value

end KeyedList

end UsbVideo
