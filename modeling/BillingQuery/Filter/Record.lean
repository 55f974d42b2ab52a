import BillingQuery.Filter.Plan

/-!
# Matching records

A record is a JSON object with the fields' keys as names. A test holds only of a value that fits
the field: a missing value, null, or a value of another type satisfies none.
-/

namespace BillingQuery

def Operand.accepts (operand : Operand) (actual : Json) : Bool :=
  match operand with
  | .text s => actual.foldedText? == some s
  | .textSet items => actual.foldedText?.any items.contains
  | .pattern kind needle => actual.foldedText?.any (kind.holds needle)
  | .flag b => actual.storedFlag? == some b
  | .number comparison x => actual.storedNumber?.any fun a => comparison.holds a x
  | .numberRange low high => actual.storedNumber?.any fun a => low ≤ a && a ≤ high
  | .day d => actual.toDay? == some d
  | .dayRange low high => actual.toDay?.any fun d => low ≤ d && d ≤ high

namespace Plan

mutual

def accepts (record : Json) : Plan → Bool
  | const b => b
  | test field operand => (record.get? field.key).any operand.accepts
  | all parts => acceptsAll record parts
  | any parts => acceptsAny record parts

def acceptsAll (record : Json) : List Plan → Bool
  | [] => true
  | p :: ps => accepts record p && acceptsAll record ps

def acceptsAny (record : Json) : List Plan → Bool
  | [] => false
  | p :: ps => accepts record p || acceptsAny record ps

end

end Plan

namespace FilterGroup

def accepts (g : FilterGroup) (fields : List Field) (record : Json) : Bool :=
  (g.plan fields).accepts record

def select (g : FilterGroup) (fields : List Field) (records : List Json) : List Json :=
  records.filter (g.plan fields).accepts

end FilterGroup
end BillingQuery
