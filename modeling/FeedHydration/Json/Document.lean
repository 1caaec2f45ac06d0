import FeedHydration.Json.Token
import FeedHydration.Text.Utf8

/-!
A JSON document as it is written: members in their order, with repeated names. What is right in form
but has no value is an `unreadable` node, so that it harms only a reader that looks at it: a number
or string without value, an object with such a name, a container nested too deeply.
-/

namespace FeedHydration

inductive JsonNode where
  | null
  | bool (b : Bool)
  | num (n : JsonNumber)
  | str (s : String)
  | arr (items : List JsonNode)
  | obj (members : List (String × JsonNode))
  | unreadable

namespace JsonNode

/-- Containers may be nested this deep. -/
def maxDepth : Nat := 127

/-- An open container; what it holds so far is kept backwards. -/
inductive Frame where
  | array (items : List JsonNode)
  | object (members : List (Option String × JsonNode))
  | member (members : List (Option String × JsonNode)) (name : Option String)

/-- What may come next. -/
inductive Expected where
  | value
  | valueOrEnd
  | name
  | nameOrEnd
  | colon
  | separator

structure Builder where
  stack : List Frame
  expected : Expected
  root : JsonNode

namespace Builder

def start : Builder := ⟨[], .value, .unreadable⟩

/-- Puts a finished value into the innermost container. -/
def complete (node : JsonNode) : List Frame → Builder
  | [] => ⟨[], .separator, node⟩
  | .array items :: stack => ⟨.array (node :: items) :: stack, .separator, .unreadable⟩
  | .member members name :: stack =>
    ⟨.object ((name, node) :: members) :: stack, .separator, .unreadable⟩
  | .object members :: stack => ⟨.object members :: stack, .separator, .unreadable⟩

/-- A container at `depth` that is read to its end. -/
def container (depth : Nat) (node : Option JsonNode) : JsonNode :=
  if maxDepth < depth then .unreadable else node.getD .unreadable

def namedMembers? (members : List (Option String × JsonNode)) :
    Option (List (String × JsonNode)) :=
  members.mapM fun member => member.1.map (·, member.2)

def scalar? : Json.Token → Option JsonNode
  | .null => some .null
  | .bool b => some (.bool b)
  | .number n => some (n.elim .unreadable .num)
  | .string s => some (s.elim .unreadable .str)
  | _ => none

def acceptValue? (stack : List Frame) (token : Json.Token) : Option Builder :=
  match token with
  | .beginArray => some ⟨.array [] :: stack, .valueOrEnd, .unreadable⟩
  | .beginObject => some ⟨.object [] :: stack, .nameOrEnd, .unreadable⟩
  | token => (scalar? token).map (complete · stack)

def acceptEnd? (stack : List Frame) (token : Json.Token) : Option Builder :=
  match stack, token with
  | .array items :: stack, .endArray =>
    some (complete (container (stack.length + 1) (some (.arr items.reverse))) stack)
  | .object members :: stack, .endObject =>
    some (complete (container (stack.length + 1) ((namedMembers? members.reverse).map .obj)) stack)
  | _, _ => none

def acceptName? (stack : List Frame) (token : Json.Token) : Option Builder :=
  match stack, token with
  | .object members :: stack, .string name =>
    some ⟨.member members name :: stack, .colon, .unreadable⟩
  | _, _ => none

def accept? (b : Builder) (token : Json.Token) : Option Builder :=
  match b.expected, token with
  | .value, token => acceptValue? b.stack token
  | .valueOrEnd, .endArray => acceptEnd? b.stack .endArray
  | .valueOrEnd, token => acceptValue? b.stack token
  | .nameOrEnd, .endObject => acceptEnd? b.stack .endObject
  | .nameOrEnd, token => acceptName? b.stack token
  | .name, token => acceptName? b.stack token
  | .colon, .colon => some { b with expected := .value }
  | .colon, _ => none
  | .separator, .comma =>
    match b.stack with
    | .array _ :: _ => some { b with expected := .value }
    | .object _ :: _ => some { b with expected := .name }
    | _ => none
  | .separator, token => acceptEnd? b.stack token

def finish? (b : Builder) : Option JsonNode :=
  match b.stack, b.expected with
  | [], .separator => some b.root
  | _, _ => none

end Builder

def ofTokens? (tokens : List Json.Token) : Option JsonNode := do
  let builder ← tokens.foldlM Builder.accept? Builder.start
  builder.finish?

/-- The document that a text holds. -/
def parse? (text : List Json.Glyph) : Option JsonNode := do
  ofTokens? (← Json.tokens? text)

def ofBytes? (bytes : Bytes) : Option JsonNode :=
  parse? (Utf8.decode bytes)

def ofText? (text : String) : Option JsonNode :=
  parse? (text.toList.map some)

mutual

/-- The value of a document that is readable throughout. -/
def toJson? : JsonNode → Option Json
  | .null => some .null
  | .bool b => some (.bool b)
  | .num n => some (.num n)
  | .str s => some (.str s)
  | .arr items => (toJsonItems? items).map .arr
  | .obj members => (toJsonMembers? members).map Json.object
  | .unreadable => none

def toJsonItems? : List JsonNode → Option (List Json)
  | [] => some []
  | node :: nodes => do
    let item ← toJson? node
    let items ← toJsonItems? nodes
    some (item :: items)

def toJsonMembers? : List (String × JsonNode) → Option (List (String × Json))
  | [] => some []
  | (name, node) :: members => do
    let item ← toJson? node
    let items ← toJsonMembers? members
    some ((name, item) :: items)

end

def isReadable (node : JsonNode) : Bool :=
  node.toJson?.isSome

mutual

/-- A value as a document. -/
def ofJson : Json → JsonNode
  | .null => .null
  | .bool b => .bool b
  | .num n => .num n
  | .str s => .str s
  | .arr items => .arr (ofJsonItems items)
  | .obj members => .obj (ofJsonMembers members)

def ofJsonItems : List Json → List JsonNode
  | [] => []
  | item :: items => ofJson item :: ofJsonItems items

def ofJsonMembers : List (String × Json) → List (String × JsonNode)
  | [] => []
  | (name, item) :: members => (name, ofJson item) :: ofJsonMembers members

end

end JsonNode

/-- The value that a text holds. -/
def Json.ofBytes? (bytes : Bytes) : Option Json := do
  (← JsonNode.ofBytes? bytes).toJson?

def Json.ofText? (text : String) : Option Json := do
  (← JsonNode.ofText? text).toJson?

end FeedHydration
