/-!
# JSON values

A value keeps what a document says: integers and reals are different things, an object is a list of
fields in document order with each key once. `Json.size` counts nodes; it is the measure by which
everything that walks a tree comes to an end.
-/

namespace Typings

inductive Json where
  | null
  | bool (b : Bool)
  | int (n : Int)
  | real (x : Float)
  | string (s : String)
  | list (items : List Json)
  | object (fields : List (String × Json))
  deriving Inhabited

namespace Json

/-! ## Size -/

mutual

/-- The number of nodes of a value. Scalars and keys are not taken apart. -/
def size : Json → Nat
  | .list items => 1 + sizeItems items
  | .object fields => 1 + sizeFields fields
  | _ => 1

def sizeItems : List Json → Nat
  | [] => 0
  | v :: rest => v.size + sizeItems rest

def sizeFields : List (String × Json) → Nat
  | [] => 0
  | (_, v) :: rest => v.size + sizeFields rest

end

theorem size_le_sizeItems {v : Json} : {items : List Json} → v ∈ items → v.size ≤ sizeItems items
  | [], h => by simp at h
  | w :: rest, h => by
      simp only [sizeItems]
      rcases List.mem_cons.1 h with rfl | h
      · omega
      · have := size_le_sizeItems h
        omega

/-! ## Fields and truth -/

/-- Sets a field: an existing key keeps its place and takes the new value, a new key goes last. -/
def setField (key : String) (value : Json) : List (String × Json) → List (String × Json)
  | [] => [(key, value)]
  | (k, v) :: rest => if k = key then (k, value) :: rest else (k, v) :: setField key value rest

/-- Whether a value stands for something present. Null, false, zero, and empty text, lists and
objects stand for nothing. -/
def isPresent : Json → Bool
  | .null => false
  | .bool b => b
  | .int n => n != 0
  | .real x => x != 0
  | .string s => s != ""
  | .list items => !items.isEmpty
  | .object fields => !fields.isEmpty

/-- The value itself if it is present, and `other` if not. -/
def orElse (v other : Json) : Json :=
  if v.isPresent then v else other

end Json

end Typings
