import Verdict.Regex.Bracket

/-!
# Reading patterns

A pattern is read from left to right in one pass, with the flags in force at each place. Flags that are set inside a group last until its end, also across alternatives. Every step takes at least one character or enters a group whose parenthesis was taken before, so a few steps for each character are enough. Reading only tells a pattern from a text that is none; why a text is no pattern is not kept.
-/

namespace Verdict.Regex

/-- What is known at a place of a pattern: the flags in force and the names of groups so far. -/
structure Context where
  flags : Flags
  names : List (List Char)

/-- A character of a group's name; the first one must be a letter or a low line. -/
def isNameChar (c : Char) (isFirst : Bool) : Bool :=
  if isFirst then c == '_' || Unicode.alphabetic.contains c.toNat
  else c == '_' || c == '.' || c == '[' || c == ']' || Unicode.alphanumeric.contains c.toNat

def isName : List Char → Bool
  | [] => false
  | c :: rest => isNameChar c true && rest.all (isNameChar · false)

/-! ### Repetitions -/

/-- Reads a count: decimal digits with any blanks around them. -/
def Flags.count? (flags : Flags) (text : List Char) : Option (Nat × List Char) :=
  let text := text.dropWhile isBlank
  let (digits, rest) := digits text.length text
  let value := Digit.number 10 digits
  if digits.isEmpty || 4294967295 < value then none else some (value, flags.skip (rest.dropWhile isBlank))
where
  digits : Nat → List Char → List Char × List Char
    | fuel + 1, c :: rest =>
      if c.isDigit then
        let (more, rest) := digits fuel (flags.skip rest)
        (c :: more, rest)
      else ([], c :: rest)
    | _, text => ([], text)

/-- Reads the bounds of a repetition, after its opening brace. -/
def Flags.bounds? (flags : Flags) (text : List Char) : Option (Nat × Option Nat × List Char) := do
  let (least, rest) ← flags.count? (flags.skip text)
  match rest with
  | '\x7d' :: rest => some (least, some least, flags.skip rest)
  | ',' :: rest =>
    match flags.skip rest with
    | '\x7d' :: rest => some (least, none, flags.skip rest)
    | rest => do
      let (most, rest) ← flags.count? rest
      match rest with
      | '\x7d' :: rest => if least ≤ most then some (least, some most, flags.skip rest) else none
      | _ => none
  | _ => none

/-- A question mark after a repetition makes it lazy, which a search cannot tell. -/
def dropLazy : List Char → List Char
  | '?' :: rest => rest
  | rest => rest

/-- Repeats the last of the parts read so far, which are kept in reverse. -/
def repeatLast? (least : Nat) (most? : Option Nat) : List Expr → Option (List Expr)
  | part :: parts => if part.isRepeatable then some (.repetition part least most? :: parts) else none
  | [] => none

/-! ### Groups -/

/-- What stands after an opening parenthesis: flags for what follows, or the head of a group. -/
inductive GroupHead where
  | flags (flags : Flags)
  | group (captures : Bool) (context : Context)

def namedGroup? (context : Context) (text : List Char) : Option (GroupHead × List Char) :=
  let name := text.takeWhile (· != '>')
  match text.dropWhile (· != '>') with
  | _ :: rest =>
    if isName name && !context.names.contains name then
      some (.group true { context with names := name :: context.names }, rest)
    else none
  | [] => none

/-- Reads what opens a group. Looking around is refused. -/
def groupHead? (context : Context) (text : List Char) : Option (GroupHead × List Char) :=
  match context.flags.skip text with
  | '?' :: '=' :: _ | '?' :: '!' :: _ | '?' :: '<' :: '=' :: _ | '?' :: '<' :: '!' :: _ => none
  | '?' :: 'P' :: '<' :: rest => namedGroup? context rest
  | '?' :: '<' :: rest => namedGroup? context rest
  | '?' :: rest => do
    let (flags, after) ← context.flags.read? [] rest
    match after with
    | ':' :: body => some (.group false { context with flags := flags }, body)
    | _ :: body => if rest.head? == some ')' then none else some (.flags flags, body)
    | [] => none
  | rest => some (.group true context, rest)

/-! ### Sequences and alternatives -/

/-- The assertions that stand for themselves. -/
def Flags.lineStart (flags : Flags) : Assertion :=
  if !flags.multiLine then .textStart else if flags.returnLines then .returnLineStart else .lineStart

def Flags.lineEnd (flags : Flags) : Assertion :=
  if !flags.multiLine then .textEnd else if flags.returnLines then .returnLineEnd else .lineEnd

def Flags.atom? (flags : Flags) : Atom → Option Expr
  | .char c byte => (flags.literal? c byte).map .chars
  | .set set => some (.chars set)
  | .assertion condition => some (.assertion condition)

mutual

/-- Reads parts up to a bar, a closing parenthesis or the end. -/
def sequence? : (fuel : Nat) → Context → List Expr → List Char → Option (Expr × Context × List Char)
  | 0, _, _, _ => none
  | fuel + 1, context, parts, text =>
    let flags := context.flags
    match flags.skip text with
    | [] => some (.ofParts parts.reverse, context, [])
    | '|' :: rest => some (.ofParts parts.reverse, context, '|' :: rest)
    | ')' :: rest => some (.ofParts parts.reverse, context, ')' :: rest)
    | '(' :: rest =>
      match groupHead? context rest with
      | none => none
      | some (.flags flags, rest) => sequence? fuel { context with flags := flags } (.flags :: parts) rest
      | some (.group captures inner, rest) =>
        match branches? fuel inner [] rest with
        | some (body, inner, ')' :: rest) =>
          sequence? fuel { inner with flags := flags } (.group captures body :: parts) rest
        | _ => none
    | '[' :: rest => do
      let (nested, rest) ← flags.class? rest
      sequence? fuel context (.bracketed nested.nesting nested.set :: parts) rest
    | '?' :: rest => do
      let parts ← repeatLast? 0 (some 1) parts
      sequence? fuel context parts (dropLazy rest)
    | '*' :: rest => do
      let parts ← repeatLast? 0 none parts
      sequence? fuel context parts (dropLazy rest)
    | '+' :: rest => do
      let parts ← repeatLast? 1 none parts
      sequence? fuel context parts (dropLazy rest)
    | '\x7b' :: rest => do
      let (least, most?, rest) ← flags.bounds? rest
      let parts ← repeatLast? least most? parts
      sequence? fuel context parts (dropLazy rest)
    | '\\' :: rest => do
      let (atom, rest) ← flags.escape? rest
      let part ← flags.atom? atom
      sequence? fuel context (part :: parts) rest
    | '.' :: rest => do
      let set ← flags.dot?
      sequence? fuel context (.chars set :: parts) rest
    | '^' :: rest => sequence? fuel context (.assertion flags.lineStart :: parts) rest
    | '$' :: rest => sequence? fuel context (.assertion flags.lineEnd :: parts) rest
    | c :: rest => sequence? fuel context (.chars (flags.character c) :: parts) rest

/-- Reads alternatives up to a closing parenthesis or the end. -/
def branches? : (fuel : Nat) → Context → List Expr → List Char → Option (Expr × Context × List Char)
  | 0, _, _, _ => none
  | fuel + 1, context, branches, text =>
    match sequence? fuel context [] text with
    | none => none
    | some (branch, context, '|' :: rest) => branches? fuel context (branch :: branches) rest
    | some (branch, context, rest) => some (.ofBranches (branch :: branches).reverse, context, rest)

end

/-- Nodes of a pattern may nest this deep. -/
def maxNesting : Nat := 250

/-- Reads a whole pattern. -/
def Expr.read? (pattern : String) : Option Expr :=
  match branches? (3 * pattern.length + 3) ⟨.initial, []⟩ [] pattern.toList with
  | some (expr, _, []) => if expr.nesting ≤ maxNesting then some expr else none
  | _ => none

end Verdict.Regex
