import MacroScribe.Decimal.Text
/-!
# MacroScribe.Json.Basic

Descriptions of macros are JSON data. In the parameters of a builder a ready-made object, such as an
action, may stand where data could: `Json ω` is JSON with objects of type `ω` as further leaves, and
`Data` has none.

The fields of a mapping keep the order in which they were given, each key once.
-/

namespace MacroScribe

/-- JSON data, with objects of type `ω` as leaves. Integers and floats are kept apart. -/
inductive Json (ω : Type) where
  | null
  | bool (b : Bool)
  | int (n : Int)
  | float (x : Float)
  | str (s : String)
  | list (items : List (Json ω))
  | obj (fields : List (String × Json ω))
  | embed (x : ω)

/-- Plain JSON data. -/
abbrev Data := Json Empty

/-- Named values in the order in which they were given. -/
abbrev Fields (α : Type) := List (String × α)

namespace Fields

variable {α : Type}

/-- The value under a key. -/
def get? (fields : Fields α) (key : String) : Option α :=
  (fields.find? (·.1 == key)).map (·.2)

/-- There is a value under the key. -/
def has (fields : Fields α) (key : String) : Bool :=
  fields.any (·.1 == key)

/-- The keys in order. -/
def keys (fields : Fields α) : List String :=
  fields.map (·.1)

/-- Puts a value under a key: in the place of the old value, or at the end. -/
def put (key : String) (value : α) : Fields α → Fields α
  | [] => [(key, value)]
  | (k, v) :: rest => if k = key then (key, value) :: rest else (k, v) :: put key value rest

/-- Puts a value under a key that has none. -/
def putNew (key : String) (value : α) (fields : Fields α) : Fields α :=
  if fields.has key then fields else put key value fields

/-- The fields of a list in which a key may occur several times: each key has its first place and
its last value. -/
def ofList (pairs : List (String × α)) : Fields α :=
  pairs.foldl (fun fields f => put f.1 f.2 fields) []

/-- Takes the value under a key away. -/
def erase (key : String) (fields : Fields α) : Fields α :=
  fields.filter (·.1 != key)

/-- Takes the values under several keys away. -/
def eraseAll (keys : List String) (fields : Fields α) : Fields α :=
  fields.filter fun f => !keys.contains f.1

end Fields

/-- Objects that messages call by the name of their type. -/
class Described (ω : Type) where
  typeName : ω → String

instance : Described Empty := ⟨Empty.elim⟩

namespace Json

variable {ω : Type}

/-- The name that messages give to the type of a value. -/
def typeName [Described ω] : Json ω → String
  | null => "NoneType"
  | bool _ => "bool"
  | int _ => "int"
  | float _ => "float"
  | str _ => "str"
  | list _ => "list"
  | obj _ => "dict"
  | embed x => Described.typeName x

/-- The value counts as given: it is not null, false, zero or empty. -/
def truthy : Json ω → Bool
  | null => false
  | bool b => b
  | int n => n != 0
  | float x => !(x == 0.0)
  | str s => s != ""
  | list items => !items.isEmpty
  | obj fields => !fields.isEmpty
  | embed _ => true

/-- The value is null. -/
def isNull : Json ω → Bool
  | null => true
  | _ => false

/-- The value may be looked up in a table: it is not a list or a mapping. -/
def isScalar : Json ω → Bool
  | list _ => false
  | obj _ => false
  | _ => true

/-- The text that the value is. -/
def str? : Json ω → Option String
  | str s => some s
  | _ => none

/-- The number that the value is; booleans are none. -/
def number? : Json ω → Option Number
  | int n => some (.int n)
  | float x => some (.float x)
  | _ => none

/-- The number that the value counts as when values are compared: booleans are one and zero. -/
def quantity? : Json ω → Option Number
  | bool b => some (.int (if b then 1 else 0))
  | int n => some (.int n)
  | float x => some (.float x)
  | _ => none

mutual

/-- Two values are equal: numbers and booleans by value, lists item by item, and mappings key by key
in any order. Objects are not compared. -/
def same : Json ω → Json ω → Bool
  | null, null => true
  | str a, str b => a == b
  | list as, list bs => sameItems as bs
  | obj as, obj bs => as.length == bs.length && sameFields as bs
  | a, b =>
    match a.quantity?, b.quantity? with
    | some x, some y => x.same y
    | _, _ => false

/-- Two lists of values are equal. -/
def sameItems : List (Json ω) → List (Json ω) → Bool
  | [], [] => true
  | a :: as, b :: bs => same a b && sameItems as bs
  | _, _ => false

/-- Each field of the first mapping has an equal one in the second. -/
def sameFields : List (String × Json ω) → List (String × Json ω) → Bool
  | [], _ => true
  | (k, a) :: rest, bs =>
    (match Fields.get? bs k with
      | some b => same a b
      | none => false) && sameFields rest bs

end

mutual

/-- The data with its objects replaced. -/
def map {ω' : Type} (f : ω → ω') : Json ω → Json ω'
  | null => null
  | bool b => bool b
  | int n => int n
  | float x => float x
  | str s => str s
  | list items => list (mapItems f items)
  | obj fields => obj (mapFields f fields)
  | embed x => embed (f x)

/-- The items with their objects replaced. -/
def mapItems {ω' : Type} (f : ω → ω') : List (Json ω) → List (Json ω')
  | [] => []
  | v :: rest => map f v :: mapItems f rest

/-- The fields with their objects replaced. -/
def mapFields {ω' : Type} (f : ω → ω') : List (String × Json ω) → List (String × Json ω')
  | [] => []
  | (k, v) :: rest => (k, map f v) :: mapFields f rest

end

/-- Plain data among data with objects. -/
def lift (v : Data) : Json ω :=
  v.map Empty.elim

end Json
end MacroScribe
