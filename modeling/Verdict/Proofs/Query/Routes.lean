import Verdict.Proofs.Query.Location

/-!
# Routes through a query

The way of an evaluation from the root of a query to a check is a route: the fields and operators
that it goes through, the clauses that it takes and the elements that it takes them to. The two
paths of a reason are made of the steps of its route, and they tell the route again. The step before
decides what kind of step comes next, so in the path of the query a segment is always read as a step
of that kind (`position_eq_of_queryPath_eq`); only elements are not named there, but they are in the
path of the document (`eq_of_propertyPath_eq`).
-/

namespace Verdict

/-! ### Steps -/

inductive Step where
  | field (field : Field)
  | operator (operator : Operator)
  | clause (index : Nat)
  | element (index : Nat)
deriving DecidableEq

/-- What kind of step a route goes on with. -/
inductive Turn where
  | key
  | clause
  | element
deriving DecidableEq

/-- A key that a path of a query can name. -/
def IsReadableKey (key : String) : Prop := key ≠ "" ∧ '"' ∉ key.toList

instance (key : String) : Decidable (IsReadableKey key) :=
  inferInstanceAs (Decidable (_ ∧ _))

/-- A field that such a key asks for. -/
structure Field.IsReadable (field : Field) : Prop where
  classify : Key.classify field.property = .field field
  key : IsReadableKey field.property

theorem IsReadableKey.field {key : String} {field : Field} (h : IsReadableKey key)
    (hkey : Key.classify key = .field field) : field.IsReadable := by
  have hproperty := Key.property_of_classify hkey
  exact ⟨hproperty ▸ hkey, hproperty ▸ h⟩

/-- Places of arrays can be named. -/
theorem isReadableKey_toString (index : Nat) : IsReadableKey (toString index) := by
  refine ⟨fun hempty => ?_, Digit.not_mem_toString (by decide) index⟩
  have hchars := Digit.toList_toString index
  rw [hempty] at hchars
  exact Nat.toDigits_ne_nil hchars.symm

namespace Step

/-- The segment that a step adds to the path of the query. -/
def query : Step → String
  | field f => f.query
  | operator o => o.name
  | clause index => Path.element index
  | element _ => ""

/-- The segment that a step adds to the path of the document. -/
def property : Step → String
  | field f => f.property
  | operator _ | clause _ => ""
  | element index => Path.element index

/-- The key of a query document that a step goes below; a clause has its place for a key. Elements
are not in the query. -/
def key? : Step → Option String
  | field f => some f.property
  | operator o => some o.name
  | clause index => some (toString index)
  | element _ => none

def isElement : Step → Bool
  | element _ => true
  | _ => false

/-- What comes after a step. -/
def turn : Step → Turn
  | operator .and | operator .or => .clause
  | operator .elemMatch => .element
  | _ => .key

/-- A step is of the kind that comes next. -/
inductive Fits : Turn → Step → Prop
  | field {field : Field} (h : field.IsReadable) : Fits .key (.field field)
  | operator (operator : Operator) : Fits .key (.operator operator)
  | clause (index : Nat) : Fits .clause (.clause index)
  | element (index : Nat) : Fits .element (.element index)

/-- The step that a key of a query takes. -/
inductive TakenBy (key : String) : Step → Prop
  | field {field : Field} (h : Key.classify key = .field field) : TakenBy key (.field field)
  | operator {operator : Operator} (h : Key.classify key = .operator operator.name) :
      TakenBy key (.operator operator)

theorem TakenBy.key?_eq {key : String} {step : Step} (h : TakenBy key step) :
    step.key? = some key := by
  cases h with
  | field hkey => exact congrArg some (Key.property_of_classify hkey)
  | operator hkey => exact congrArg some (Key.eq_of_classify_operator hkey).symm

theorem TakenBy.fits {key : String} {step : Step} (h : TakenBy key step)
    (hreadable : IsReadableKey key) : step.Fits .key := by
  cases h with
  | field hkey => exact .field (hreadable.field hkey)
  | operator => exact .operator _

/-- The step that a segment of a query path is read as where a key comes next. -/
def ofSegment? (segment : String) : Option Step :=
  match segment.toList with
  | '"' :: quoted => some (field (.dotted (String.ofList quoted.dropLast)))
  | _ =>
    match Key.classify segment with
    | .field found => some (field found)
    | .operator name => (Operator.ofName? name).map operator

/-- No operator and no plain key begins with a quote, so a segment is read back as the step that
wrote it. -/
theorem ofSegment?_query {step : Step} (h : step.Fits .key) : ofSegment? step.query = some step := by
  cases h with
  | @field field hfield =>
      obtain ⟨hclassify, -, hquote⟩ := hfield
      cases field with
      | plain name =>
          change ofSegment? name = _
          rw [ofSegment?]
          split
          · rename_i quoted hname
            exact absurd (hname ▸ List.mem_cons_self) hquote
          · rw [show Key.classify name = .field (.plain name) from hclassify]
      | dotted path =>
          have hchars : (query (.field (.dotted path))).toList = '"' :: (path.toList ++ ['"']) := by
            simp [query, Field.query, String.toList_append]
          rw [ofSegment?, hchars]
          simp [String.ofList_toList]
  | operator operator =>
      have hchars : operator.name.toList.head? = some '$' := by
        cases operator with
        | compare comparison => cases comparison <;> decide
        | _ => decide
      change ofSegment? operator.name = _
      rw [ofSegment?]
      split
      · rename_i quoted hname
        rw [hname] at hchars
        cases hchars
      · rw [classify_operator_name]
        simp [Operator.ofName?_name]

theorem Fits.isReadable {turn : Turn} {step : Step} (h : step.Fits turn) (hturn : turn ≠ .element) :
    Path.IsReadable step.query := by
  cases h with
  | @field field hfield =>
      obtain ⟨hclassify, hempty, hquote⟩ := hfield
      cases field with
      | plain name =>
          have hnamed := Key.isNamed_of_classify hclassify hempty
          exact .bare hempty hquote (hnamed.no_point name rfl)
      | dotted path => exact .quoted hquote
  | operator operator =>
      cases operator with
      | compare comparison => cases comparison <;> exact .bare (by decide) (by decide) (by decide)
      | _ => exact .bare (by decide) (by decide) (by decide)
  | clause index => exact Path.isReadable_element index
  | element index => exact absurd rfl hturn

theorem Fits.isElement_eq {turn : Turn} {step : Step} (h : step.Fits turn)
    (hturn : turn ≠ .element) : step.isElement = false := by
  cases h with
  | element index => exact absurd rfl hturn
  | _ => rfl

/-- Two steps of one kind that a query path names alike are one step. -/
theorem Fits.eq_of_query_eq {turn : Turn} {first second : Step} (hfirst : first.Fits turn)
    (hsecond : second.Fits turn) (hturn : turn ≠ .element) (h : first.query = second.query) :
    first = second := by
  cases turn with
  | key =>
      have hread := ofSegment?_query hfirst
      rw [h, ofSegment?_query hsecond] at hread
      exact (Option.some.inj hread).symm
  | clause =>
      cases hfirst
      cases hsecond
      exact congrArg Step.clause (Path.element_inj h)
  | element => exact absurd rfl hturn

end Step

/-! ### Routes -/

abbrev Route := List Step

namespace Route

def queryPath (route : Route) : String :=
  route.foldr (fun step path => Path.join step.query path) ""

def propertyPath (route : Route) : String :=
  route.foldr (fun step path => Path.join step.property path) ""

/-- The place in the query that a route leads to, whatever elements it takes there. -/
def position (route : Route) : Route := route.filter (!·.isElement)

theorem queryPath_cons (step : Step) (rest : Route) :
    queryPath (step :: rest) = Path.join step.query (queryPath rest) := rfl

theorem propertyPath_cons (step : Step) (rest : Route) :
    propertyPath (step :: rest) = Path.join step.property (propertyPath rest) := rfl

/-- Every step of a route is of the kind that the step before calls for. -/
inductive IsRouteFrom : Turn → Route → Prop
  | nil (turn : Turn) : IsRouteFrom turn []
  | cons {turn : Turn} {step : Step} {rest : Route} (hstep : step.Fits turn)
      (hrest : IsRouteFrom step.turn rest) : IsRouteFrom turn (step :: rest)

variable {turn : Turn} {first second : Route}

theorem position_cons (step : Step) (rest : Route) :
    position (step :: rest) =
      if step.isElement then position rest else step :: position rest := by
  rw [position, List.filter_cons]
  cases step.isElement <;> rfl

theorem position_cons_of_key? {step : Step} {key : String} (h : step.key? = some key)
    (rest : Route) : position (step :: rest) = step :: position rest := by
  cases step with
  | element index => cases h
  | _ => rfl

/-- Only elements leave no trace in the path of the query. -/
theorem position_eq_nil (h : IsRouteFrom turn first) (hpath : queryPath first = "") :
    position first = [] := by
  induction h with
  | nil => rfl
  | @cons turn step rest hstep _ ih =>
      obtain ⟨hquery, hrest⟩ := Path.join_eq_empty_iff.1 hpath
      cases hstep with
      | element index => exact ih hrest
      | field hfield => exact absurd hquery ((Step.Fits.field hfield).isReadable nofun).ne_empty
      | operator o => exact absurd hquery ((Step.Fits.operator o).isReadable nofun).ne_empty
      | clause index => exact absurd hquery (Path.element_ne_empty index)

/-- The path of the query tells the place in the query. -/
theorem position_eq_of_queryPath_eq (hfirst : IsRouteFrom turn first)
    (hsecond : IsRouteFrom turn second) (h : queryPath first = queryPath second) :
    position first = position second := by
  induction hfirst generalizing second with
  | nil => exact (position_eq_nil hsecond h.symm).symm
  | @cons turn step rest hstep hrest ih =>
      cases hsecond with
      | nil => exact position_eq_nil (.cons hstep hrest) h
      | @cons _ other others hother hothers =>
          by_cases hturn : turn = .element
          · -- the path of the query does not say which element is taken, only that one is
            subst hturn
            cases hstep
            cases hother
            change position rest = position others
            exact ih hothers h
          · obtain ⟨hquery, hpaths⟩ :=
              (hstep.isReadable hturn).join_inj (hother.isReadable hturn) h
            obtain rfl := hstep.eq_of_query_eq hother hturn hquery
            rw [position_cons, position_cons, ih hothers hpaths]

/-- A step leaves a trace in the place in the query or in the path of the document. -/
theorem eq_nil_of_position_eq_nil {route : Route} (hposition : position route = [])
    (hpath : propertyPath route = "") : route = [] := by
  cases route with
  | nil => rfl
  | cons step rest =>
      cases step with
      | element index =>
          rw [propertyPath_cons] at hpath
          exact absurd (Path.join_eq_empty_iff.1 hpath).1 (Path.element_ne_empty index)
      | _ => cases hposition

/-- The path of the document tells the elements, on routes to one place in the query. -/
theorem eq_of_propertyPath_eq (hfirst : IsRouteFrom turn first) (hsecond : IsRouteFrom turn second)
    (hposition : position first = position second) (h : propertyPath first = propertyPath second) :
    first = second := by
  induction hfirst generalizing second with
  | nil => exact (eq_nil_of_position_eq_nil hposition.symm h.symm).symm
  | @cons turn step rest hstep hrest ih =>
      cases hsecond with
      | nil => exact eq_nil_of_position_eq_nil hposition h
      | @cons _ other others hother hothers =>
          by_cases hturn : turn = .element
          · subst hturn
            cases hstep with
            | element i =>
                cases hother with
                | element j =>
                    obtain ⟨hplace, hpaths⟩ :=
                      (Path.isReadable_element i).join_inj (Path.isReadable_element j) h
                    rw [Path.element_inj hplace, ih hothers hposition hpaths]
          · rw [position_cons, position_cons, hstep.isElement_eq hturn,
              hother.isElement_eq hturn] at hposition
            obtain ⟨rfl, hrests⟩ := List.cons.inj hposition
            rw [ih hothers hrests (Path.join_left_cancel h)]

end Route

end Verdict
