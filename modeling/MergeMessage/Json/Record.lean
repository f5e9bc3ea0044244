import MergeMessage.Json.Reader

/-!
# Records in JSON

A record with named fields is written as an object, where the order of the members is free and
members under other names are passed over, or as an array of the fields in their order.

## Main definitions

* `Json.Slot` — what was found for a field.
* `Json.record?` — the slots of a record's fields, for the strict dialect.
* `Json.Slot.required?`, `Json.Slot.optional?`, `Json.Slot.defaulted?` — the three kinds of field.
* `Json.lastMember?` — the member that counts in the loose dialect.
-/

namespace MergeMessage.Json

/-- What was found for a field of a record. -/
inductive Slot
  /-- The object has no such member. -/
  | missing
  /-- The array ended before this field. -/
  | ended
  /-- The value of the field. -/
  | value (j : Json)

/-- The values of the members with this key. -/
def valuesOf (key : Text) (members : List (Option Text × Json)) : List Json :=
  members.filterMap fun (k, value) => if k = some key then some value else none

/-- The slot of a field in an object; a field must not be given twice. -/
def memberSlot? (members : List (Option Text × Json)) (key : Text) : Option Slot :=
  match valuesOf key members with
  | [] => some .missing
  | [value] => some (.value value)
  | _ => none

/-- The slots of `count` fields in an array, which must not have more items than that. -/
def itemSlots? : Nat → List Json → Option (List Slot)
  | 0, [] => some []
  | 0, _ :: _ => none
  | count + 1, [] => some (List.replicate (count + 1) .ended)
  | count + 1, item :: items => (itemSlots? count items).map (.value item :: ·)

/-- The slots of a record's fields, in the order of `keys`. -/
def record? (keys : List Text) : Json → Option (List Slot)
  | .object members =>
    if members.any (·.1.isNone) then none else keys.mapM (memberSlot? members)
  | .array items => itemSlots? keys.length items
  | _ => none

namespace Slot

variable {α : Type}

/-- The value of a field that must be given. -/
def required? (read : Json → Option α) : Slot → Option α
  | .value j => read j
  | _ => none

/-- The value of a field that an object may leave out, and that may be null. -/
def optional? (read : Json → Option α) : Slot → Option (Option α)
  | .value .null => some none
  | .value j => (read j).map some
  | .missing => some none
  | .ended => none

/-- The value of a field that has a default. -/
def defaulted? (read : Json → Option α) (default : α) : Slot → Option α
  | .value j => read j
  | _ => some default

end Slot

/-- The value of the last member with this key, if there is one.  Every member with the key must be
readable. -/
def lastMember? {α : Type} (key : String) (read : Json → Option α)
    (members : List (Option Text × Json)) : Option (Option α) :=
  ((valuesOf key.toList members).mapM read).map List.getLast?

end MergeMessage.Json
