import Verdict.Value
import Verdict.Json.Printer
import Verdict.Time.Timestamp

/-!
# Values in JSON

JSON has no dates, identifiers, patterns or undefined values, so these leaves are written as objects whose keys say what they are: exactly `$date`, exactly `$oid`, `$regex` alone or with `$options`, or `$undefined` with the payload `true`. Such an object is a leaf or a fault, and nothing inside of it is looked at. Every other object is a document. The first fault in the order of the text is the one that is reported.
-/

namespace Verdict

/-! ### Reading -/

namespace Json

/-- What an object of one of the special shapes writes. -/
inductive Special where
  | date (payload : Json)
  | objectId (payload : Json)
  | pattern (source : Json) (options? : Option Json)
  | undefined

def special? : List (String × Json) → Option Special
  | [("$date", payload)] => some (.date payload)
  | [("$oid", payload)] => some (.objectId payload)
  | [("$regex", source)] => some (.pattern source none)
  | [("$regex", source), ("$options", options)] => some (.pattern source (some options))
  | [("$options", options), ("$regex", source)] => some (.pattern source (some options))
  | [("$undefined", .bool true)] => some .undefined
  | _ => none

/-- A date is a timestamp, or an integer of milliseconds since the start of 1970. -/
def toDate (payload : Json) : Except LiteralError Value :=
  let date? := match payload with
    | .string text => Timestamp.read? text
    | .int millis => if minSigned ≤ millis ∧ millis ≤ maxSigned then Instant.ofMillis? millis else none
    | _ => none
  match date? with
  | some date => .ok (.date date)
  | none => .error (.invalidDate payload.compact)

def toObjectId (payload : Json) : Except LiteralError Value :=
  match payload with
  | .string text =>
    match ObjectId.ofHex? text with
    | some id => .ok (.identifier (.object id))
    | none => .error (.invalidObjectId text)
  | payload => .error (.invalidObjectId payload.compact)

/-- A text inside a pattern. -/
def toPatternText (payload : Json) : Except LiteralError String :=
  match payload with
  | .string text => .ok text
  | payload => .error (.invalidPattern payload.compact .notText)

def toPattern (source : Json) (options? : Option Json) : Except LiteralError Value := do
  let source ← source.toPatternText
  let options ← match options? with
    | none => pure ""
    | some options => options.toPatternText
  let pattern ← Pattern.ofSource source options
  return .pattern pattern

def Special.toValue : Special → Except LiteralError Value
  | date payload => payload.toDate
  | objectId payload => payload.toObjectId
  | pattern source options? => Json.toPattern source options?
  | undefined => .ok .undefined

mutual

/-- The value that a JSON tree writes. -/
def toValue : Json → Except LiteralError Value
  | null => .ok .null
  | bool b => .ok (.bool b)
  | int n => .ok (.number (Binary64.ofInt n))
  | double x => .ok (.number x)
  | string s => .ok (.string s)
  | array items => do
    let values ← toValues items
    return .array values
  | object members =>
    match special? members with
    | some special => special.toValue
    | none => do
      let entries ← toEntries members
      return .document entries
termination_by structural json => json

def toValues : List Json → Except LiteralError (List Value)
  | [] => .ok []
  | item :: rest => do
    let value ← toValue item
    let values ← toValues rest
    return value :: values
termination_by structural items => items

def toEntries : List (String × Json) → Except LiteralError (List (String × Value))
  | [] => .ok []
  | (key, member) :: rest => do
    let value ← toValue member
    let entries ← toEntries rest
    return (key, value) :: entries
termination_by structural members => members

end

/-- The document that a JSON tree writes. A tree that is no object is named by its own kind, an object that writes a leaf by the leaf's. -/
def toDocument (json : Json) : Except LiteralError Document :=
  match json with
  | object members => do
    match ← toValue (object members) with
    | .document entries => return entries
    | leaf => throw (.notADocument leaf.typeName)
  | json => .error (.notADocument json.typeName)

end Json

/-! ### Writing -/

/-- Integers up to this size are exact as doubles, together with all smaller ones. -/
def maxExactInteger : Nat := 9007199254740991

namespace Value

def numberToJson (x : Binary64) : Json :=
  if !x.isFinite then .null
  else if x.isIntegral && x.truncate.natAbs ≤ maxExactInteger then .int x.truncate
  else .double x

def patternToJson (p : Pattern) : Json :=
  .object (("$regex", .string p.source) :: if p.options == "" then [] else [("$options", .string p.options)])

def identifierToJson : Identifier → Json
  | .object id => .object [("$oid", .string id.toHex)]
  | id => .object [("$id", .string id.text)]

mutual

def toJson : Value → Json
  | undefined => .object [("$undefined", .bool true)]
  | null => .null
  | bool b => .bool b
  | number x => numberToJson x
  | string s => .string s
  | date t => .object [("$date", .string (Timestamp.write t))]
  | identifier id => identifierToJson id
  | pattern p => patternToJson p
  | array items => .array (itemsToJson items)
  | document entries => .object (entriesToJson entries)
termination_by structural value => value

def itemsToJson : List Value → List Json
  | [] => []
  | item :: rest => toJson item :: itemsToJson rest
termination_by structural items => items

def entriesToJson : List (String × Value) → List (String × Json)
  | [] => []
  | (key, value) :: rest => (key, toJson value) :: entriesToJson rest
termination_by structural entries => entries

end

/-- The compact JSON text of a value. -/
def text (value : Value) : String := value.toJson.compact

end Value

end Verdict
