import MacroScribe.Decimal.Reading
import MacroScribe.Fault
import MacroScribe.Json.Text
import MacroScribe.Text.Split
/-!
# MacroScribe.Json.View

Values as sequences, records and numbers. A list has its items, a text its characters and a mapping
its keys; no other value is a sequence, but one that does not count as given may stand for the empty
one. A record is given as a mapping from the names of its fields. A text stands for the number that
it is a numeral of, a boolean for one or zero; null, lists and mappings stand for none.
-/

namespace MacroScribe.Json

/-! ### Sequences -/

variable {ω : Type}

/-- The items of a value. -/
def items [Described ω] : Json ω → Outcome (List (Json ω))
  | list vs => .ok vs
  | str s => .ok (s.toList.map fun c => str (String.ofList [c]))
  | obj fields => .ok (fields.map fun f => str f.1)
  | v => misused (.notIterable v.typeName)

/-- The items of a value, none if it does not count as given. -/
def itemsOrNone [Described ω] (v : Json ω) : Outcome (List (Json ω)) :=
  if v.truthy then v.items else .ok []

/-- A text occurs in a value: as a part of a text, as an item of a list, or as a key of a mapping.
Other values cannot be searched. -/
def holds? (v : Json ω) (part : String) : Option Bool :=
  match v with
  | str s => some (Text.contains part.toList s.toList)
  | list vs => some (vs.any fun item => item.str? == some part)
  | obj fields => some (Fields.has fields part)
  | _ => none

mutual

/-- The texts in a value, its keys included. -/
def texts : Json ω → List String
  | str s => [s]
  | list items => textsOfItems items
  | obj fields => textsOfFields fields
  | _ => []

/-- The texts in some items. -/
def textsOfItems : List (Json ω) → List String
  | [] => []
  | v :: rest => v.texts ++ textsOfItems rest

/-- The texts in some fields. -/
def textsOfFields : List (String × Json ω) → List String
  | [] => []
  | (k, v) :: rest => k :: v.texts ++ textsOfFields rest

end

/-- The value may be looked up in a table. -/
def requireScalar [Described ω] (v : Json ω) : Outcome Unit :=
  if v.isScalar then .ok () else misused (.notScalar v.typeName)

end MacroScribe.Json

namespace MacroScribe

/-! ### Records -/

/-- The first key that is not among the names. -/
def Fields.unknown? {α : Type} (names : List String) (fields : Fields α) : Option String :=
  fields.keys.find? (!names.contains ·)

/-- The fields are among the names; the first that is not is at fault. -/
def knownFields {α : Type} (owner : String) (names : List String) (fields : Fields α) :
    Outcome Unit :=
  match fields.unknown? names with
  | none => .ok ()
  | some name => misused (.unknownField owner name)

/-- The fields are among those of a record. The name `self` stands for the record itself. -/
def knownRecordFields {α : Type} (owner : String) (names : List String) (fields : Fields α) :
    Outcome Unit :=
  match fields.unknown? names with
  | none => .ok ()
  | some name =>
    if name = "self" then misused (.repeatedField owner name)
    else misused (.unknownField owner name)

namespace Fields

variable {ω : Type}

/-- The value under a key; null if there is none. -/
def value (fields : Fields (Json ω)) (key : String) : Json ω :=
  (fields.get? key).getD .null

end Fields

/-! ### Numbers -/

/-- The integer that a text is a numeral of. -/
def integerOfText (s : String) : Outcome Int :=
  match Decimal.readInt s.toList with
  | .ok n => .ok n
  | .error .malformed => misused (.malformedNumeral (Text.quoteString s))
  | .error (.tooLong digits) => misused (.longNumeral digits)

/-- The integer next to a float in the direction of zero. -/
def integerOfFloat (x : Float) : Outcome Int :=
  match Decimal.Binary.ofFloat x with
  | .nan => misused .undefinedNumber
  | .infinite _ => misused .infiniteNumber
  | b => .ok (b.truncate?.getD 0)

/-- The float nearest to an integer. -/
def floatOfInteger (n : Int) : Outcome Float :=
  let x := Decimal.scaled (n < 0) n.natAbs 0
  if x.isFinite then .ok x else misused .hugeNumber

namespace Json

variable {ω : Type} [Described ω]

/-- The integer that a value stands for; a float loses its fractional part. -/
def toInteger : Json ω → Outcome Int
  | bool b => .ok (if b then 1 else 0)
  | int n => .ok n
  | float x => integerOfFloat x
  | str s => integerOfText s
  | v => misused (.notNumber v.typeName)

/-- The float that a value stands for. -/
def toFloat : Json ω → Outcome Float
  | bool b => .ok (if b then 1.0 else 0.0)
  | int n => floatOfInteger n
  | float x => .ok x
  | str s =>
    match Decimal.readFloat? s.toList with
    | some x => .ok x
    | none => misused (.malformedFloat (Text.quoteString s))
  | v => misused (.notNumber v.typeName)

end Json
end MacroScribe
