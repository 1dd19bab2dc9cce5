import PageObjects.Decimal.Binary64

/-!
# JSON values

A decoded JSON document: null, booleans, integers of any size, binary64
numbers (written with a fraction or an exponent), texts, arrays and objects.
An object keeps its keys in the order they first appear, each once; a key that
appears again replaces the value but keeps its place.

Lookups that return a part of a value return it with the evidence that it is
smaller than the whole, so that a reader of nested documents can recurse on it.
-/

namespace PageObjects

/-- A JSON value. -/
inductive Json where
  | null
  | bool (value : Bool)
  | int (value : Int)
  | float (value : Decimal.Binary64)
  | str (value : String)
  | arr (items : List Json)
  | obj (fields : List (String × Json))
  deriving Inhabited, Repr

namespace Json

/-- Sets a field: replaces the value of a key already present, in its place,
or appends the key. -/
def setField (key : String) (value : Json) : List (String × Json) → List (String × Json)
  | [] => [(key, value)]
  | (k, v) :: rest => if k == key then (k, value) :: rest else (k, v) :: setField key value rest

/-- The fields of an object built from key-value pairs in order, a repeated key
keeping its first place and its last value. -/
def fieldsOfPairs (pairs : List (String × Json)) : List (String × Json) :=
  pairs.foldl (fun fields pair => setField pair.1 pair.2 fields) []

/-- The value of a key among fields, with the evidence that it is part of them. -/
def fieldValue? : (fields : List (String × Json)) → String →
    Option { v : Json // sizeOf v < sizeOf fields }
  | [], _ => none
  | (k, v) :: rest, key =>
    if k == key then some ⟨v, by simp; omega⟩
    else (fieldValue? rest key).map (fun w => ⟨w.1, by have := w.2; simp; omega⟩)

/-- The value of a key of an object, with the evidence that it is part of it. -/
def child? : (j : Json) → String → Option { v : Json // sizeOf v < sizeOf j }
  | obj fields, key => (fieldValue? fields key).map (fun w => ⟨w.1, by have := w.2; simp; omega⟩)
  | _, _ => none

/-- The value of a key of an object. -/
def get? (j : Json) (key : String) : Option Json :=
  (j.child? key).map (·.1)

/-- Whether an object has a key. -/
def has (j : Json) (key : String) : Bool :=
  (j.get? key).isSome

/-- The keys of an object, in order; none for other values. -/
def keys : Json → List String
  | obj fields => fields.map (·.1)
  | _ => []

/-- The items of a list, each with the evidence that it is part of the list. -/
def itemsOf (items : List Json) : List { v : Json // sizeOf v < sizeOf items } :=
  items.attach.map (fun x => ⟨x.1, List.sizeOf_lt_of_mem x.2⟩)

/-- The items of an array, each with the evidence that it is part of it. -/
def elements? : (j : Json) → Option (List { v : Json // sizeOf v < sizeOf j })
  | arr items => some ((itemsOf items).map (fun w => ⟨w.1, by have := w.2; simp; omega⟩))
  | _ => none

/-- The value under a key, with null for a missing key. -/
def getD (j : Json) (key : String) : Json :=
  (j.get? key).getD null

/-- Whether the value is null. -/
def isNull : Json → Bool
  | null => true
  | _ => false

end Json

end PageObjects
