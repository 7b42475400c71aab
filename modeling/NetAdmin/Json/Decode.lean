import NetAdmin.Json.Basic
/-!
Reading values of known shape from JSON documents.

A record is an object with its fields in any order, each at most once and
beside any others, or an array of all its fields in order. What a reader skips
need only be well-formed JSON; what it keeps must have content, numbers in the
range of a binary64 float, and bounded nesting.
-/

namespace NetAdmin
namespace Json

/-! ## Numbers -/

namespace Number

def digitsValue (digits : Text) : Nat :=
  digits.foldl (fun value c => 10 * value + (c.toNat - '0'.toNat)) 0

/-- The value of a number that is written as digits alone and fits an unsigned
word of 64 bits. -/
def natural? (number : Number) : Option Nat :=
  if number.negative || number.fraction.isSome || number.exponent.isSome then none
  else
    let value := digitsValue number.whole
    if value < 0x10000000000000000 then some value else none

/-- The leading digits of a number that an unsigned word of 64 bits can hold,
the first ones read before and the value so far, with the count of the digits
that were dropped. -/
def leading (value dropped : Nat) : Text → Nat × Nat
  | [] => (value, dropped)
  | c :: rest =>
      let next := 10 * value + (c.toNat - '0'.toNat)
      if dropped = 0 ∧ next < 0x10000000000000000 then leading next 0 rest
      else leading value (dropped + 1) rest

def scaled (number : Number) : Nat × Int :=
  let whole := leading 0 0 number.whole
  let fraction := number.fraction.getD []
  let fitting := leading whole.1 0 fraction
  let power : Int :=
    match number.exponent with
    | none => 0
    | some (negative, digits) =>
        if negative then -(digitsValue digits : Int) else digitsValue digits
  (fitting.1, whole.2 - (fraction.length - fitting.2 : Nat) + power)

/-- The nearest number with at most 53 binary digits in front of its zeros; of
two such numbers it is the one whose last digit is even. -/
def nearest (value : Nat) : Nat :=
  let unit := 1 <<< (value.log2 + 1 - 53)
  let low := value / unit
  let rest := value % unit
  if unit < 2 * rest ∨ (unit = 2 * rest ∧ low % 2 = 1) then (low + 1) * unit else low * unit

example : nearest (2 ^ 53 + 1) = 2 ^ 53 ∧ nearest (2 ^ 53 + 3) = 2 ^ 53 + 4 := by decide

def powerLimit : Int := 308

/-- Whether the number is within the range of binary64 floats. The digits and
the power of ten are rounded first, and then their product. -/
def inRange (number : Number) : Bool :=
  match number.scaled with
  | (digits, power) =>
      if digits = 0 ∨ power < 0 then true
      else if powerLimit < power then false
      else nearest (nearest digits * nearest (Nat.pow 10 power.toNat)) < 1 <<< 1024

end Number

/-! ## Values that are kept whole -/

mutual

def isSound : Json → Bool
  | .number value => value.inRange
  | .string content => content.isSome
  | .array items => itemsSound items
  | .object fields => fieldsSound fields
  | _ => true

def itemsSound : List Json → Bool
  | [] => true
  | item :: items => isSound item && itemsSound items

def fieldsSound : List (Option Text × Json) → Bool
  | [] => true
  | field :: fields => field.1.isSome && isSound field.2 && fieldsSound fields

end

def nestingLimit : Nat := 127

/-- The value of a field of an object, the last one if it is repeated. -/
def field? (name : Text) : Json → Option Json
  | .object fields => (fields.reverse.find? fun field => field.1 == some name).map (·.2)
  | _ => none

def natural? : Json → Option Nat
  | .number value => value.natural?
  | _ => none

/-! ## Records -/

def valuesOf (name : Text) (fields : List (Option Text × Json)) : List Json :=
  (fields.filter fun field => field.1 == some name).map (·.2)

/-- The value of a field that may be missing and may not be repeated. -/
def atMostOnce : List Json → Option (Option Json)
  | [] => some none
  | [value] => some (some value)
  | _ => none

def record? (names : List Text) : Json → Option (List (Option Json))
  | .array items => if items.length = names.length then some (items.map some) else none
  | .object fields =>
      if fields.all (·.1.isSome) then names.mapM fun name => atMostOnce (valuesOf name fields)
      else none
  | _ => none

def optional? {α : Type} (decode : Json → Option α) : Option Json → Option (Option α)
  | none => some none
  | some .null => some none
  | some value => (decode value).map some

def text? : Json → Option Text
  | .string content => content
  | _ => none

def byte? (value : Json) : Option Nat :=
  value.natural?.filter (· < 256)

def items? {α : Type} (decode : Json → Option α) : Json → Option (List α)
  | .array items => items.mapM decode
  | _ => none

end Json
end NetAdmin
