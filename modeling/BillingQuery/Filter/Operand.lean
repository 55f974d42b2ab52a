import BillingQuery.Filter.Coerce
import BillingQuery.Filter.Tree
import BillingQuery.Schema.Field

/-!
# Operands

The right-hand side of a test, in the form in which it is compared: text is folded, numbers are
finite doubles, days are days, and a range is never inverted. `operandRule?` says for each type and
operator how a condition gives its operand; a condition that is legal but can match no record gives
a reason instead.
-/

namespace BillingQuery

inductive Comparison
  | eq
  | gt
  | lt
  | gte
  | lte
deriving DecidableEq

namespace Comparison

def all : List Comparison := [.eq, .gt, .lt, .gte, .lte]

def symbol : Comparison → String
  | eq => "="
  | gt => ">"
  | lt => "<"
  | gte => ">="
  | lte => "<="

def holds (c : Comparison) (x y : Binary64) : Bool :=
  match c with
  | eq => x.sameValue y
  | gt => y < x
  | lt => x < y
  | gte => y ≤ x
  | lte => x ≤ y

end Comparison

/-- Where a text must stand in another. -/
inductive PatternKind
  | contains
  | startsWith
  | endsWith
deriving DecidableEq

def PatternKind.holds (k : PatternKind) (needle text : String) : Bool :=
  match k with
  | contains => Text.isInfix needle.toList text.toList
  | startsWith => needle.toList.isPrefixOf text.toList
  | endsWith => needle.toList.isSuffixOf text.toList

inductive Operand
  | text (s : String)
  | textSet (items : List String)
  | pattern (kind : PatternKind) (needle : String)
  | flag (b : Bool)
  | number (comparison : Comparison) (x : Binary64)
  | numberRange (low high : Binary64)
  | day (d : Day)
  | dayRange (low high : Day)
deriving DecidableEq

/-- Why a legal condition can match no record. -/
inductive Unmatchable
  | missingValue
  | uncoercible
  | missingBound
  | invertedRange
  | emptySet
deriving DecidableEq

namespace Condition

def coerced (c : Condition) (coerce : Json → Option α) : Except Unmatchable α :=
  match c.value with
  | none => .error .missingValue
  | some j =>
    match coerce j with
    | none => .error .uncoercible
    | some a => .ok a

def coercedBounds (c : Condition) (coerce : Json → Option α) : Except Unmatchable (α × α) :=
  match c.value, c.value2 with
  | some low, some high =>
    match coerce low, coerce high with
    | some a, some b => .ok (a, b)
    | _, _ => .error .uncoercible
  | _, _ => .error .missingBound

def textOperand (c : Condition) : Except Unmatchable Operand :=
  .text <$> c.coerced Json.foldedText?

def patternOperand (kind : PatternKind) (c : Condition) : Except Unmatchable Operand :=
  .pattern kind <$> c.coerced Json.foldedText?

def textSetOperand (c : Condition) : Except Unmatchable Operand :=
  match c.value with
  | none => .error .missingValue
  | some j => if j.foldedTexts.isEmpty then .error .emptySet else .ok (.textSet j.foldedTexts)

def flagOperand (c : Condition) : Except Unmatchable Operand := .flag <$> c.coerced Json.toFlag?

def numberOperand (comparison : Comparison) (c : Condition) : Except Unmatchable Operand :=
  .number comparison <$> c.coerced Json.toNumber?

def numberRangeOperand (c : Condition) : Except Unmatchable Operand := do
  let (low, high) ← c.coercedBounds Json.toNumber?
  if high < low then .error .invertedRange else .ok (.numberRange low high)

def dayOperand (c : Condition) : Except Unmatchable Operand := .day <$> c.coerced Json.toDay?

def dayRangeOperand (c : Condition) : Except Unmatchable Operand := do
  let (low, high) ← c.coercedBounds Json.toDay?
  if high < low then .error .invertedRange else .ok (.dayRange low high)

end Condition

/-- How a condition with this operator on a field of this type gives its operand, if the operator
suits the type. -/
def operandRule? (type : FieldType) (op : Operator) :
    Option (Condition → Except Unmatchable Operand) :=
  match type, op with
  | .string, .equals | .id, .equals | .enum, .equals => some Condition.textOperand
  | .string, .oneOf | .id, .oneOf | .enum, .oneOf => some Condition.textSetOperand
  | .string, .contains | .id, .contains => some (Condition.patternOperand .contains)
  | .string, .startsWith | .id, .startsWith => some (Condition.patternOperand .startsWith)
  | .string, .endsWith | .id, .endsWith => some (Condition.patternOperand .endsWith)
  | .boolean, .equals => some Condition.flagOperand
  | .number, .equals => some (Condition.numberOperand .eq)
  | .number, .gt => some (Condition.numberOperand .gt)
  | .number, .lt => some (Condition.numberOperand .lt)
  | .number, .gte => some (Condition.numberOperand .gte)
  | .number, .lte => some (Condition.numberOperand .lte)
  | .number, .between => some Condition.numberRangeOperand
  | .date, .equals => some Condition.dayOperand
  | .date, .between => some Condition.dayRangeOperand
  | _, _ => none

end BillingQuery
