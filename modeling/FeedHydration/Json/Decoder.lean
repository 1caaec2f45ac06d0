import FeedHydration.Json.Document

/-!
Reading typed values out of a document. A record is an object, or an array of its members in their
declared order. Members that the record does not declare are passed over, unless the record is open
and collects them. A union names its variant in `$type`, or in the first place of an array.
-/

namespace FeedHydration

namespace JsonNode

def bool? : JsonNode → Option Bool
  | .bool b => some b
  | _ => none

def str? : JsonNode → Option String
  | .str s => some s
  | _ => none

/-- A count: a whole number of 64 bits without sign. -/
def count? : JsonNode → Option Nat
  | .num (.int (.ofNat n)) => some n
  | _ => none

def list? (read : JsonNode → Option α) : JsonNode → Option (List α)
  | .arr items => items.mapM read
  | _ => none

def nullable? (read : JsonNode → Option α) : JsonNode → Option (Option α)
  | .null => some none
  | node => (read node).map some

/-- A declared member of a record as a document gives it. -/
inductive Member where
  | given (node : JsonNode)
  | absent
  | cutOff

/-- The declared members of a record, by name. -/
abbrev Record := List (String × Member)

def findMember? (name : String) (members : List (String × JsonNode)) : Option Member :=
  match members.filter (·.1 == name) with
  | [] => some .absent
  | [(_, node)] => some (.given node)
  | _ => none

def placeMembers : List String → List JsonNode → Record
  | [], _ => []
  | name :: names, [] => (name, .cutOff) :: placeMembers names []
  | name :: names, item :: items => (name, .given item) :: placeMembers names items

/-- An object must not repeat a declared member. -/
def named? (names : List String) : JsonNode → Option Record
  | .obj members => names.mapM fun name => (findMember? name members).map (name, ·)
  | _ => none

/-- An array must not have more items than there are declared members. -/
def record? (names : List String) : JsonNode → Option Record
  | .arr items => if items.length ≤ names.length then some (placeMembers names items) else none
  | node => node.named? names

/-- The members of an open record that it does not declare. Only an object can be one. -/
def extras? (names : List String) : JsonNode → Option (List (String × Json))
  | .obj members =>
    (toJsonMembers? (members.filter fun member => !names.contains member.1)).map Json.sortMembers
  | _ => none

namespace Record

def member (r : Record) (name : String) : Member :=
  (r.lookup name).getD .absent

def required? (r : Record) (name : String) (read : JsonNode → Option α) : Option α :=
  match r.member name with
  | .given node => read node
  | _ => none

/-- A member that an object may leave out. -/
def optional? (r : Record) (name : String) (read : JsonNode → Option α) : Option (Option α) :=
  match r.member name with
  | .given node => nullable? read node
  | .absent => some none
  | .cutOff => none

/-- A member with a default, which also an array may leave out at its end. -/
def defaulted? (r : Record) (name : String) (read : JsonNode → Option α) (default : α) :
    Option α :=
  match r.member name with
  | .given node => read node
  | _ => some default

def trailing? (r : Record) (name : String) (read : JsonNode → Option α) : Option (Option α) :=
  r.defaulted? name (nullable? read) none

end Record

/-- How the variant of a union may be given. Within a part of a document that is read as a whole
before it is taken apart, its place in the list of variants serves as well as its name. -/
inductive TagForm where
  | name
  | nameOrIndex
deriving DecidableEq

/-- A union: the name of its variant, and the record of its members. -/
structure Tagged where
  tag : String
  content : JsonNode

def tagName? (form : TagForm) (variants : List String) : JsonNode → Option String
  | .str s => some s
  | .num (.int (.ofNat n)) =>
    match form with
    | .name => none
    | .nameOrIndex => some (variants[n]?.getD "")
  | _ => none

/-- A union is read as a whole: every part of it must be readable. -/
def tagged? (form : TagForm) (variants : List String) (node : JsonNode) : Option Tagged :=
  if node.isReadable then
    match node with
    | .obj members =>
      match findMember? "$type" members with
      | some (.given tag) =>
        (tagName? form variants tag).map
          (⟨·, .obj (members.filter fun member => member.1 != "$type")⟩)
      | _ => none
    | .arr (tag :: items) => (tagName? form variants tag).map (⟨·, .arr items⟩)
    | _ => none
  else none

/-- A variant without members takes any object, and of the arrays the empty one. -/
def isBareContent : JsonNode → Bool
  | .obj _ => true
  | .arr items => items.isEmpty
  | _ => false

end JsonNode

/-- The wire form of a variant: its members and its name. -/
def Json.tagged (tag : String) : Json → Json
  | .obj members => .obj (insertMember "$type" (.str tag) members)
  | value => value

end FeedHydration
