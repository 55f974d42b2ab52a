import BillingQuery.Filter.Tree
import BillingQuery.Json.Decode

/-!
# Filter trees on the wire

A node is an object whose `kind` says whether it is a condition or a group; the other members may
stand in any order, and members that are no fields are ignored. A node may also be a list: the kind,
then the fields in order, of which those with a default may be left out at the end.

Below the outermost value two more spellings are read: a kind as its index, and the unit of a
variant as an empty object. The parameter `inner` says whether they are.
-/

namespace BillingQuery

inductive NodeKind
  | cond
  | group
deriving DecidableEq

namespace NodeKind

def variants : List (String × NodeKind) := [("cond", .cond), ("group", .group)]

/-- A kind by its name, or, inside a node, by its index. -/
def decode (inner : Bool) : Json → Except DecodeError NodeKind
  | .string s => Json.variantNamed variants s
  | .number (.integer n) =>
    if inner && 0 ≤ n then
      match n with
      | 0 => .ok .cond
      | 1 => .ok .group
      | _ => .error (.outOfRange n "variant index 0 <= i < 2")
    else .error (.wrongType (Json.int n) "variant identifier")
  | j => .error (.wrongType j "variant identifier")

/-- The kind of a node, wherever it stands among the members. -/
def ofMembers (inner : Bool) (members : List (String × Json)) : Except DecodeError NodeKind := do
  decode inner (← required "kind" (members.lookup "kind"))

end NodeKind

def Logical.variants : List (String × Logical) := [("AND", .and), ("OR", .or)]

def Logical.name : Logical → String
  | .and => "AND"
  | .or => "OR"

/-! ## Conditions -/

structure ConditionDraft where
  id : Option String
  field : Option String
  operator : Option String
  value : Option Json
  value2 : Option Json

namespace ConditionDraft

def empty : ConditionDraft := ⟨none, none, none, none, none⟩

/-- Reads the members in order. -/
def ofMembers : List (String × Json) → Except DecodeError ConditionDraft
  | [] => .ok empty
  | (name, j) :: rest =>
    match name with
    | "id" => do let s ← j.asString; return { ← ofMembers rest with id := some s }
    | "field" => do let s ← j.asString; return { ← ofMembers rest with field := some s }
    | "operator" => do let s ← j.asString; return { ← ofMembers rest with operator := some s }
    | "value" => do return { ← ofMembers rest with value := j.asOptionalValue }
    | "value2" => do return { ← ofMembers rest with value2 := j.asOptionalValue }
    | _ => ofMembers rest

def finish (d : ConditionDraft) : Except DecodeError Condition := do
  let id ← required "id" d.id
  let field ← required "field" d.field
  let operator ← required "operator" d.operator
  return ⟨id, field, operator, d.value, d.value2⟩

end ConditionDraft

def Condition.ofItems (items : List Json) : Except DecodeError Condition := do
  let item (i : Nat) := Json.itemAt items i "struct FilterCond" 5
  let id ← (← item 0).asString
  let field ← (← item 1).asString
  let operator ← (← item 2).asString
  let optional (i : Nat) := items[i]?.bind Json.asOptionalValue
  if 5 < items.length then throw (.tooLongNode items.length 5)
  return ⟨id, field, operator, optional 3, optional 4⟩

/-! ## Groups and nodes -/

/-- The fields of a group that the members have given. -/
structure GroupDraft where
  id : Option String
  logical : Option Logical
  children : Option (List FilterNode)

namespace GroupDraft

def empty : GroupDraft := ⟨none, none, none⟩

def finish (d : GroupDraft) : Except DecodeError FilterGroup := do
  let id ← required "id" d.id
  let logical ← required "logical" d.logical
  return ⟨id, logical, d.children.getD []⟩

end GroupDraft

namespace FilterNode

mutual

def decode (inner : Bool) : Json → Except DecodeError FilterNode
  | .object members => do
    match ← NodeKind.ofMembers inner members with
    | .cond => return .cond (← (← ConditionDraft.ofMembers members).finish)
    | .group => return (← (← decodeGroupMembers true members).finish).toNode
  | .array items => decodeItems inner items
  | j => .error (.wrongType j "internally tagged enum FilterNode")

/-- A node from the list of its kind and fields. -/
def decodeItems (inner : Bool) : List Json → Except DecodeError FilterNode
  | [] => .error (.missingField "kind")
  | kind :: items => do
    match ← NodeKind.decode inner kind with
    | .cond => return .cond (← Condition.ofItems items)
    | .group => return (← decodeGroupItems true items).toNode

/-- Reads the members of a group in order. -/
def decodeGroupMembers (inner : Bool) : List (String × Json) → Except DecodeError GroupDraft
  | [] => .ok .empty
  | (name, j) :: rest =>
    match name with
    | "id" => do
      let s ← j.asString
      return { ← decodeGroupMembers inner rest with id := some s }
    | "logical" => do
      let l ← j.asVariant inner Logical.variants
      return { ← decodeGroupMembers inner rest with logical := some l }
    | "children" => do
      let ns ← decodeChildren inner j
      return { ← decodeGroupMembers inner rest with children := some ns }
    | _ => decodeGroupMembers inner rest

def decodeGroupItems (inner : Bool) : List Json → Except DecodeError FilterGroup
  | [] => .error (.tooShort 0 "struct FilterGroup" 3)
  | [id] => do
    let _ ← id.asString
    .error (.tooShort 1 "struct FilterGroup" 3)
  | [id, logical] => do
    return ⟨← id.asString, ← logical.asVariant inner Logical.variants, []⟩
  | id :: logical :: children :: rest => do
    let id ← id.asString
    let logical ← logical.asVariant inner Logical.variants
    let children ← decodeChildren inner children
    if rest.isEmpty then return ⟨id, logical, children⟩
    else if inner then throw (.tooLongNode (3 + rest.length) 3)
    else throw (.tooLong (3 + rest.length))

def decodeChildren (inner : Bool) : Json → Except DecodeError (List FilterNode)
  | .array items => decodeAll inner items
  | j => .error (.wrongType j "a sequence")

def decodeAll (inner : Bool) : List Json → Except DecodeError (List FilterNode)
  | [] => .ok []
  | j :: js => do
    let n ← decode inner j
    let ns ← decodeAll inner js
    return n :: ns

end

end FilterNode

namespace FilterGroup

/-- A group written without its kind. -/
def decode : Json → Except DecodeError FilterGroup
  | .object members => do (← FilterNode.decodeGroupMembers false members).finish
  | .array items => FilterNode.decodeGroupItems false items
  | j => .error (.wrongType j "struct FilterGroup")

/-- Reads a filter. Its root must be a group and within the limits. -/
def ofJson (j : Json) : Except QueryError FilterGroup :=
  match FilterNode.decode false j with
  | .error e => .error (.malformedFilter e.message)
  | .ok (.cond _) => .error (.malformedFilter "filter root must be a group")
  | .ok (.group id logical children) => do
    let g : FilterGroup := ⟨id, logical, children⟩
    g.checkComplexity
    return g

end FilterGroup

/-! ## Writing -/

def optionalMember (name : String) : Option Json → List (String × Json)
  | some j => [(name, j)]
  | none => []

def Condition.toJson (c : Condition) : Json :=
  .object ([("kind", .string "cond"), ("id", .string c.id), ("field", .string c.field),
    ("operator", .string c.operator)] ++
    optionalMember "value" c.value ++ optionalMember "value2" c.value2)

namespace FilterNode

mutual

def toJson : FilterNode → Json
  | .cond c => c.toJson
  | .group id logical children =>
    .object [("kind", .string "group"), ("id", .string id), ("logical", .string logical.name),
      ("children", .array (toJsons children))]

def toJsons : List FilterNode → List Json
  | [] => []
  | n :: ns => n.toJson :: toJsons ns

end

end FilterNode

def FilterGroup.toJson (g : FilterGroup) : Json := g.toNode.toJson

end BillingQuery
