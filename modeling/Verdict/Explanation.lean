import Verdict.Path

/-!
# Explanations

The outcome of a query is a verdict together with the reasons for it. A reason names the check that was made, the place in the document where it was made and the place in the query that asked for it.
-/

namespace Verdict

/-- The kinds of checks that decide a verdict. -/
inductive ReasonKind where
  | equal
  | notEqual
  | inSet
  | notInSet
  | elementMatch
  | inequality
  | hasNoKeys
  | hasNoPath
  | invalidOperator
deriving DecidableEq

namespace ReasonKind

def name : ReasonKind → String
  | equal => "EQUAL"
  | notEqual => "NOT_EQUAL"
  | inSet => "IN_SET"
  | notInSet => "NOT_IN_SET"
  | elementMatch => "ELEMENT_MATCH"
  | inequality => "INEQUALITY"
  | hasNoKeys => "HAS_NO_KEYS"
  | hasNoPath => "HAS_NO_PATH"
  | invalidOperator => "INVALID_OPERATOR"

/-- The name in the described form of a reason. -/
def label : ReasonKind → String
  | equal => "Equal"
  | notEqual => "NotEqual"
  | inSet => "InSet"
  | notInSet => "NotInSet"
  | elementMatch => "ElementMatch"
  | inequality => "Inequality"
  | hasNoKeys => "HasNoKeys"
  | hasNoPath => "HasNoPath"
  | invalidOperator => "InvalidOperator"

def all : List ReasonKind :=
  [equal, notEqual, inSet, notInSet, elementMatch, inequality, hasNoKeys, hasNoPath, invalidOperator]

def ofName? (name : String) : Option ReasonKind := all.find? (·.name == name)

end ReasonKind

structure Reason where
  propertyPath : String
  queryPath : String
  kind : ReasonKind
deriving DecidableEq

namespace Reason

def line (r : Reason) : String :=
  r.kind.name ++ " (property \"" ++ r.propertyPath ++ "\", query \"" ++ r.queryPath ++ "\")"

/-- A reason with its parts named. -/
def described (r : Reason) : String :=
  "Reason \x7b property_path: " ++ Quoted.quote r.propertyPath ++ ", query_path: " ++ Quoted.quote r.queryPath ++
    ", kind: " ++ r.kind.label ++ " \x7d"

end Reason

structure Explanation where
  matched : Bool
  reasons : List Reason
deriving DecidableEq

namespace Explanation

/-- The opposite verdict for the same reasons. -/
def invert (e : Explanation) : Explanation := ⟨!e.matched, e.reasons⟩

/-- What several checks that must all hold say together: the reasons of all of them if all hold, else the reasons of those that failed. -/
def all (parts : List Explanation) : Explanation :=
  if parts.all (·.matched) then ⟨true, parts.flatMap (·.reasons)⟩
  else ⟨false, (parts.filter (!·.matched)).flatMap (·.reasons)⟩

/-- What several checks of which one must hold say together: the reasons of those that hold if any does, else the reasons of all of them. -/
def any (parts : List Explanation) : Explanation :=
  if parts.any (·.matched) then ⟨true, (parts.filter (·.matched)).flatMap (·.reasons)⟩
  else ⟨false, parts.flatMap (·.reasons)⟩

def described (e : Explanation) : String :=
  "MatchResult \x7b matched: " ++ toString e.matched ++ ", reasons: " ++
    Quoted.list (e.reasons.map Reason.described) ++ " \x7d"

end Explanation

/-- Where an evaluation stands: the place in the document, the place in the query, and how many query nodes were entered on the way. -/
structure Position where
  propertyPath : String
  queryPath : String
  depth : Nat
deriving DecidableEq

namespace Position

def root : Position := ⟨"", "", 0⟩

def withProperty (p : Position) (segment : String) : Position :=
  { p with propertyPath := Path.join p.propertyPath segment }

def withQuery (p : Position) (segment : String) : Position :=
  { p with queryPath := Path.join p.queryPath segment }

def extend (p : Position) (property query : String) : Position := (p.withProperty property).withQuery query

/-- One query node deeper. -/
def descend (p : Position) : Position := { p with depth := p.depth + 1 }

def reason (p : Position) (kind : ReasonKind) : Reason := ⟨p.propertyPath, p.queryPath, kind⟩

/-- The outcome of a single check. -/
def explain (p : Position) (kind : ReasonKind) (matched : Bool) : Explanation := ⟨matched, [p.reason kind]⟩

end Position

end Verdict
