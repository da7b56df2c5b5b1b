import Verdict.Fault
import Verdict.Literal
import Verdict.Matcher
import Verdict.Report

/-!
# Fixtures

A fixture is a query with cases: documents, and what the query is expected to answer for each. In a fixture the object `$testId` with an integral number is a numeric identifier. A case passes if it expects anything at all and the answer is as expected in all that it names; what it does not name may be anything.
-/

namespace Verdict

/-! ### Values of fixtures -/

namespace Value

/-- The least and the greatest number of an identifier. -/
def minNumericId : Int := -0x8000000000000000

def maxNumericId : Int := 0x7fffffffffffffff

/-- The number of a document that stands for a numeric identifier. -/
def testId? : List (String × Value) → Option Int
  | [("$testId", .number x)] => if x.isIntegral then some (max minNumericId (min maxNumericId x.truncate)) else none
  | _ => none

mutual

/-- Puts numeric identifiers in the place of the documents that stand for them, the outer ones first. -/
def resolveTestIds : Value → Value
  | document entries =>
    match testId? entries with
    | some n => .identifier (.numeric n)
    | none => .document (resolveInEntries entries)
  | array items => .array (resolveInItems items)
  | leaf => leaf
termination_by structural value => value

def resolveInItems : List Value → List Value
  | [] => []
  | item :: rest => resolveTestIds item :: resolveInItems rest
termination_by structural items => items

def resolveInEntries : List (String × Value) → List (String × Value)
  | [] => []
  | (key, value) :: rest => (key, resolveTestIds value) :: resolveInEntries rest
termination_by structural entries => entries

end

end Value

namespace Json

/-- The value that a JSON tree writes in a fixture. -/
def toFixtureValue (json : Json) : Except LiteralError Value := json.toValue.map Value.resolveTestIds

/-- The document that a JSON tree writes in a fixture. -/
def toFixtureDocument (json : Json) : Except LiteralError Document := do
  match ← json.toFixtureValue with
  | .document entries => return entries
  | other => throw (.notADocument other.typeName)

end Json

/-! ### Cases -/

structure FixtureCase where
  name : String
  document : Json
  expect? : Option Bool
  reasons? : Option (List Reason)
  error? : Option String

/-- What came of a case. -/
structure CaseResult where
  name : String
  passed : Bool
  /-- what went wrong, unless the case passed -/
  message? : Option String
deriving DecidableEq

namespace FixtureCase

/-- What is wrong with an answer. -/
def complaint? (c : FixtureCase) (answer : Except Fault Explanation) : Option String :=
  if c.expect?.isNone && c.reasons?.isNone && c.error?.isNone then some "case declares no expectation"
  else match answer, c.error? with
    | .error fault, some expected =>
      if fault.name == expected then none
      else some ("expected " ++ expected ++ ", got error " ++ fault.name ++ ": " ++ fault.message)
    | .error fault, none => some ("expected a result, got error " ++ fault.name ++ ": " ++ fault.message)
    | .ok explanation, some expected => some ("expected error " ++ expected ++ ", got " ++ explanation.described)
    | .ok explanation, none =>
      let got := Quoted.list (explanation.reasons.map Reason.described)
      if c.expect?.any (· != explanation.matched) then
        some ("expected match=" ++ toString (!explanation.matched) ++ ", got match=" ++ toString explanation.matched ++
          " with " ++ got)
      else match c.reasons? with
        | some expected =>
          if expected == explanation.reasons then none
          else some ("expected reasons " ++ Quoted.list (expected.map Reason.described) ++ ", got " ++ got)
        | none => none

/-- The answer for a case: the query's fault comes first, then the document's. -/
def answer (c : FixtureCase) (query : Except LiteralError Document) : Except Fault Explanation :=
  match query with
  | .error e => .error (.literal e)
  | .ok query =>
    match c.document.toFixtureValue with
    | .error e => .error (.literal e)
    | .ok value => (explain query value).mapError .rejection

def ofTree? {α : Type} [Tree α] (tree : α) : Option FixtureCase := do
  match ← Tree.parts? ["name", "document", "expect", "reasons", "error"] tree with
  | [some name, some document, expect, reasons, error] =>
    return ⟨← Tree.text? name, ← Tree.json? document, ← Tree.optional? Tree.flag? expect,
      ← Tree.optional? (Tree.list? Reason.ofTree?) reasons, ← Tree.optional? Tree.text? error⟩
  | _ => none

end FixtureCase

/-! ### Fixtures -/

structure Fixture where
  name : String
  description : String
  query : Json
  cases : List FixtureCase

namespace Fixture

/-- Answers every case and compares the answers with what is expected. -/
def run (f : Fixture) : List CaseResult :=
  let query := f.query.toFixtureDocument
  f.cases.map fun c =>
    let message? := c.complaint? (c.answer query)
    ⟨c.name, message?.isNone, message?⟩

def ofTree? {α : Type} [Tree α] (tree : α) : Option Fixture := do
  match ← Tree.parts? ["name", "description", "query", "cases"] tree with
  | [some name, description?, some query, some cases] =>
    let description ← match description? with
      | some description => Tree.text? description
      | none => some ""
    return ⟨← Tree.text? name, description, ← Tree.json? query, ← Tree.list? FixtureCase.ofTree? cases⟩
  | _ => none

end Fixture

end Verdict
