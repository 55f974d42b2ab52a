import BillingQuery.Json.Skip
import BillingQuery.Json.Parts

/-!
# Reading JSON

`Json.read?` reads a whole text as one value. Nesting is bounded by an allowance: a text that opens
more arrays and objects inside each other than allowed is refused. Repeated member names are kept
as written. `Json.readParts?` leaves out the members that are not needed, and only reads past them.

The recursion runs on a fuel of twice the length of the text, which never runs out: every two calls
take at least one character.
-/

namespace BillingQuery.Json

mutual

def readValue (fuel depth : Nat) (parts : Parts) (cs : List Char) : Option (Json × List Char) :=
  match fuel with
  | 0 => none
  | fuel + 1 =>
    match skipSpace cs with
    | [] => none
    | 'n' :: cs => (expect? "ull".toList cs).map fun r => (.null, r)
    | 't' :: cs => (expect? "rue".toList cs).map fun r => (.bool true, r)
    | 'f' :: cs => (expect? "alse".toList cs).map fun r => (.bool false, r)
    | '"' :: cs => (readString cs).map fun (s, r) => (.string (String.ofList s), r)
    | '[' :: cs =>
      match depth with
      | 0 => none
      | depth + 1 =>
        match skipSpace cs with
        | ']' :: rest => some (.array [], rest)
        | cs => (readItems fuel depth parts cs).map fun (js, r) => (.array js, r)
    | '\x7b' :: cs =>
      match depth with
      | 0 => none
      | depth + 1 =>
        match skipSpace cs with
        | '\x7d' :: rest => some (.object [], rest)
        | cs => (readMembers fuel depth parts cs).map fun (ms, r) => (.object ms, r)
    | cs =>
      (Literal.read cs).bind fun (l, r) => l.toNumber?.map fun n => (.number n, r)

/-- Reads the items of an array, up to its closing bracket. -/
def readItems (fuel depth : Nat) (parts : Parts) (cs : List Char) :
    Option (List Json × List Char) :=
  match fuel with
  | 0 => none
  | fuel + 1 =>
    let (first, others) := parts.splitItem
    (readValue fuel depth first cs).bind fun (j, r) =>
      match skipSpace r with
      | ',' :: r => (readItems fuel depth others r).map fun (js, r) => (j :: js, r)
      | ']' :: r => some ([j], r)
      | _ => none

/-- Reads the members of an object, up to its closing brace. -/
def readMembers (fuel depth : Nat) (parts : Parts) (cs : List Char) :
    Option (List (String × Json) × List Char) :=
  match fuel with
  | 0 => none
  | fuel + 1 =>
    match skipSpace cs with
    | '"' :: cs =>
      (readString cs).bind fun (name, r) =>
        match skipSpace r with
        | ':' :: r =>
          let name := String.ofList name
          let member : Option (List (String × Json) × List Char) :=
            match parts.member? name with
            | some parts => (readValue fuel depth parts r).map fun (j, r) => ([(name, j)], r)
            | none => (skipValue r).map fun r => ([], r)
          member.bind fun (read, r) =>
            match skipSpace r with
            | ',' :: r => (readMembers fuel depth parts r).map fun (ms, r) => (read ++ ms, r)
            | '\x7d' :: r => some (read, r)
            | _ => none
        | _ => none
    | _ => none

end

/-- The needed parts of the value that a whole text writes, with at most `depth` arrays and objects
inside each other. -/
def readParts? (parts : Parts) (depth : Nat) (s : String) : Option Json :=
  let cs := s.toList
  match readValue (2 * cs.length + 2) depth parts cs with
  | some (j, r) => if (skipSpace r).isEmpty then some j else none
  | none => none

def read? (depth : Nat) (s : String) : Option Json := readParts? .whole depth s

end BillingQuery.Json
