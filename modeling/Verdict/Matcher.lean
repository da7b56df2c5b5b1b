import Verdict.Query.Validation

/-!
# Matching documents

What a user of queries calls: whether a value satisfies a query and why, whether a query is one at all, and which of several values satisfy it. A matcher is a query that is read once and put to many values; nothing is carried from one value to the next.
-/

namespace Verdict

/-- Evaluates a query on a value from a place on, with the journal. -/
def evaluateFrom (query : Document) (value : Value) (p : Position) : Trial Explanation :=
  (Query.ofDocument query).evaluate value p

/-- The verdict of a query on a value, with its reasons. -/
def explain (query : Document) (value : Value) : Except Rejection Explanation :=
  (evaluateFrom query value .root).outcome

/-- Checks a query without a value, with the journal. -/
def check (query : Document) : Trial Unit := (Query.ofDocument query).validate .root

def validate (query : Document) : Except Rejection Unit := (check query).outcome

/-- A query to be put to many values, read off its document. -/
structure Matcher where
  document : Document
  query : Query
  query_eq : query = Query.ofDocument document

namespace Matcher

def ofDocument (document : Document) : Matcher := ⟨document, Query.ofDocument document, rfl⟩

def evaluate (m : Matcher) (value : Value) : Trial Explanation := m.query.evaluate value .root

/-- The values that satisfy the query, in order, up to the first rejection. -/
def select (m : Matcher) : List Value → Trial (List Value)
  | [] => return []
  | value :: rest => do
    let explanation ← m.evaluate value
    let selected ← m.select rest
    return if explanation.matched then value :: selected else selected

def equals (a b : Matcher) : Bool := Value.equalsEntries a.document b.document

def described (m : Matcher) : String :=
  "Matcher \x7b keys: " ++ Quoted.list ((Keyed.keys m.document).map Quoted.quote) ++ " \x7d"

end Matcher

/-- The values that satisfy a query, in order. -/
def filter (query : Document) (values : List Value) : Except Rejection (List Value) :=
  ((Matcher.ofDocument query).select values).outcome

end Verdict
