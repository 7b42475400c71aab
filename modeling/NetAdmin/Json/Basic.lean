import NetAdmin.Text.Decimal
/-!
JSON documents. A document keeps what its text says: the fields of an object in
written order with repetitions, numbers as their digits, and strings whose
escapes name no text as strings without content. What of this is acceptable is
decided by whoever reads a value from the document.
-/

namespace NetAdmin

namespace Json

structure Number where
  negative : Bool
  whole : Text
  fraction : Option Text
  exponent : Option (Bool × Text)
  deriving DecidableEq, Repr

end Json

/-- A JSON document. A string, or the name of a field, has no content if one of
its escapes is half of a surrogate pair. -/
inductive Json
  | null
  | bool (value : Bool)
  | number (value : Json.Number)
  | string (content : Option Text)
  | array (items : List Json)
  | object (fields : List (Option Text × Json))

namespace Json

def ofText (text : Text) : Json :=
  .string (some text)

def ofOption {α : Type} (encode : α → Json) : Option α → Json
  | none => .null
  | some value => encode value

def ofNat (value : Nat) : Json :=
  .number ⟨false, Decimal.write value, none, none⟩

def ofFields (fields : List (String × Json)) : Json :=
  .object (fields.map fun field => (some field.1.toList, field.2))

mutual

def depth : Json → Nat
  | .array items => depthOfItems items + 1
  | .object fields => depthOfFields fields + 1
  | _ => 0

def depthOfItems : List Json → Nat
  | [] => 0
  | item :: items => max (depth item) (depthOfItems items)

def depthOfFields : List (Option Text × Json) → Nat
  | [] => 0
  | field :: fields => max (depth field.2) (depthOfFields fields)

end

/-! ## Equality -/

mutual

def same : Json → Json → Bool
  | .null, .null => true
  | .bool first, .bool second => first == second
  | .number first, .number second => first == second
  | .string first, .string second => first == second
  | .array first, .array second => sameItems first second
  | .object first, .object second => sameFields first second
  | _, _ => false

def sameItems : List Json → List Json → Bool
  | [], [] => true
  | first :: firsts, second :: seconds => same first second && sameItems firsts seconds
  | _, _ => false

def sameFields : List (Option Text × Json) → List (Option Text × Json) → Bool
  | [], [] => true
  | first :: firsts, second :: seconds =>
      first.1 == second.1 && same first.2 second.2 && sameFields firsts seconds
  | _, _ => false

end

mutual

theorem same_iff : ∀ first second : Json, same first second = true ↔ first = second
  | .null, second => by cases second <;> simp [same]
  | .bool _, second => by cases second <;> simp [same]
  | .number _, second => by cases second <;> simp [same]
  | .string _, second => by cases second <;> simp [same]
  | .array first, second => by cases second <;> simp [same, sameItems_iff first]
  | .object first, second => by cases second <;> simp [same, sameFields_iff first]

theorem sameItems_iff : ∀ first second : List Json, sameItems first second = true ↔ first = second
  | [], second => by cases second <;> simp [sameItems]
  | item :: items, second => by
      cases second <;> simp [sameItems, same_iff item, sameItems_iff items]

theorem sameFields_iff : ∀ first second : List (Option Text × Json),
    sameFields first second = true ↔ first = second
  | [], second => by cases second <;> simp [sameFields]
  | (name, value) :: fields, second => by
      cases second <;> simp [sameFields, same_iff value, sameFields_iff fields, Prod.ext_iff]

end

instance : DecidableEq Json := fun first second =>
  decidable_of_iff (same first second = true) (same_iff first second)

end Json
end NetAdmin
