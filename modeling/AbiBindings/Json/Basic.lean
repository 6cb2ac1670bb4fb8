/-!
# Json — values

A JSON document as a tree. Numbers keep the form they were written in as far as it fits: without
sign and fraction up to `2^64 - 1`, negative down to `-2^63`, and as a double otherwise. An object
is the list of its members in the order of the document.
-/

namespace AbiBindings

/-- A number in the smallest of three forms that holds it. -/
inductive Json.Number where
  | unsigned (value : UInt64)
  | negative (value : Int64)
  | float (value : Float)

/-- A JSON value. -/
inductive Json where
  | null
  | bool (value : Bool)
  | number (value : Json.Number)
  | string (value : String)
  | array (items : List Json)
  | object (members : List (String × Json))

namespace Json

/-- The members with `key` set to `value`: a key that is there already keeps its place. -/
def insertMember (members : List (String × Json)) (key : String) (value : Json) :
    List (String × Json) :=
  if members.any (·.1 == key) then
    members.map fun member => if member.1 == key then (key, value) else member
  else members ++ [(key, value)]

/-- The member `key` of an object. -/
def member? (key : String) : Json → Option Json
  | .object members => members.lookup key
  | _ => none

mutual

/-- How many arrays and objects are open at the innermost value. -/
def depth : Json → Nat
  | .array items => depthOfItems items + 1
  | .object members => depthOfMembers members + 1
  | _ => 0

/-- The greatest depth among items. -/
def depthOfItems : List Json → Nat
  | [] => 0
  | item :: rest => max item.depth (depthOfItems rest)

/-- The greatest depth among members. -/
def depthOfMembers : List (String × Json) → Nat
  | [] => 0
  | member :: rest => max (depthOfMember member) (depthOfMembers rest)

/-- The depth of a member is that of its value. -/
def depthOfMember : String × Json → Nat
  | (_, value) => value.depth

end

end Json

end AbiBindings
