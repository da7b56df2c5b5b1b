import Verdict.Yaml

/-!
# Reading YAML scalars

A cursor is the rest of a text and the column it stands in. Scalars may run over several lines: a single line break inside of them is read as a blank, and more of them as one break less than there are. Blanks around a break are dropped. A plain scalar ends before a comment, before a colon with a blank after it, inside brackets also before an indicator of the brackets, and where a line is not indented far enough.
-/

namespace Verdict.Yaml

structure Cursor where
  column : Nat
  rest : List Char

def isBlank (c : Char) : Bool := c == ' ' || c == '\t'

/-- The end of the text, or a blank or a break. -/
def startsBlank : List Char → Bool
  | [] => true
  | c :: _ => isBlank c || c == '\n'

/-- A line of three hyphens or three points separates documents. -/
def Cursor.atMarker (c : Cursor) : Bool :=
  c.column == 0 && match c.rest with
    | '-' :: '-' :: '-' :: rest => startsBlank rest
    | '.' :: '.' :: '.' :: rest => startsBlank rest
    | _ => false

/-- Drops blanks, comments and breaks. Tabs count as blanks only where `tabs` says so: inside brackets, and on the rest of a line that is no indentation. Also says whether a break was dropped. -/
def skip (brackets tabs inComment crossed : Bool) (column : Nat) : List Char → Cursor × Bool
  | [] => (⟨column, []⟩, crossed)
  | c :: rest =>
    if c == '\n' then skip brackets brackets false true 0 rest
    else if inComment then skip brackets tabs true crossed (column + 1) rest
    else if c == ' ' || tabs && c == '\t' then skip brackets tabs false crossed (column + 1) rest
    else if c == '#' then skip brackets tabs true crossed (column + 1) rest
    else (⟨column, c :: rest⟩, crossed)

def Cursor.skipInBrackets (c : Cursor) : Cursor := (skip true true false false c.column c.rest).1

def Cursor.skipInBlock (c : Cursor) (tabs : Bool) : Cursor × Bool := skip false tabs false false c.column c.rest

/-- What a run of breaks stands for. -/
def folded (breaks : Nat) : List Char := if breaks == 1 then [' '] else List.replicate (breaks - 1) '\n'

/-- Drops blanks and breaks, and counts the breaks. -/
def countBreaks (breaks column : Nat) : List Char → Nat × Cursor
  | [] => (breaks, ⟨column, []⟩)
  | c :: rest =>
    if c == '\n' then countBreaks (breaks + 1) 0 rest
    else if isBlank c then countBreaks breaks (column + 1) rest
    else (breaks, ⟨column, c :: rest⟩)

/-! ### Plain scalars -/

/-- A line after the first break has a tab in its indentation, before the column `least`. -/
def hasTabBefore (least : Nat) (broken : Bool) (column : Nat) : List Char → Bool
  | [] => false
  | c :: rest =>
    if c == '\n' then hasTabBefore least true 0 rest
    else if c == '\t' && broken && column < least then true
    else if isBlank c then hasTabBefore least broken (column + 1) rest
    else false

def isBracketIndicator (c : Char) : Bool := c == ',' || c == '[' || c == ']' || c == '\x7b' || c == '\x7d'

/-- The characters of a plain scalar up to the next blank or to its end. -/
def plainRun (brackets : Bool) (run : List Char) (column : Nat) : List Char → Option (List Char × Cursor)
  | [] => some (run.reverse, ⟨column, []⟩)
  | c :: rest =>
    if isBlank c || c == '\n' then some (run.reverse, ⟨column, c :: rest⟩)
    else if c == ':' && startsBlank rest then some (run.reverse, ⟨column, c :: rest⟩)
    else if brackets && c == ':' && rest.head?.any (fun d => isBracketIndicator d || d == '?') then none
    else if brackets && isBracketIndicator c then some (run.reverse, ⟨column, c :: rest⟩)
    else plainRun brackets (c :: run) (column + 1) rest

/-- A scalar, where it ends, and whether it runs over several lines. -/
structure ScalarText where
  text : List Char
  after : Cursor
  multiLine : Bool

/-- Reads a plain scalar of which `before` was read. Its lines start at the column `least` or further right. -/
def plain? (brackets : Bool) (least : Nat) : (fuel : Nat) → (before : ScalarText) → Option ScalarText
  | 0, _ => none
  | fuel + 1, before =>
    let (breaks, next) := countBreaks 0 before.after.column before.after.rest
    if !brackets && hasTabBefore least false before.after.column before.after.rest then none
    else if next.rest.isEmpty || next.atMarker && breaks != 0 || next.rest.head? == some '#' ||
        !brackets && breaks != 0 && next.column < least then
      some before
    else
      match plainRun brackets [] next.column next.rest with
      | none => none
      | some ([], _) => some before
      | some (run, after) =>
        let blanks := before.after.rest.takeWhile isBlank
        let between := if before.text.isEmpty then [] else if breaks == 0 then blanks else folded breaks
        plain? brackets least fuel ⟨before.text ++ between ++ run, after, before.multiLine || breaks != 0⟩

/-! ### Quoted scalars -/

/-- Reads up to the closing quote, a doubled quote standing for one. `collected` is kept in reverse. -/
def singleQuoted? (multiLine : Bool) : (fuel : Nat) → (collected : List Char) → Cursor → Option ScalarText
  | 0, _, _ => none
  | fuel + 1, collected, ⟨column, text⟩ =>
    match text with
    | [] => none
    | '\'' :: '\'' :: rest => singleQuoted? multiLine fuel ('\'' :: collected) ⟨column + 2, rest⟩
    | '\'' :: rest => some ⟨collected.reverse, ⟨column + 1, rest⟩, multiLine⟩
    | c :: rest =>
      if isBlank c || c == '\n' then
        let (breaks, next) := countBreaks 0 column (c :: rest)
        if next.atMarker then none
        else
          let between := if breaks == 0 then (c :: rest).takeWhile isBlank else folded breaks
          singleQuoted? (multiLine || breaks != 0) fuel (between.reverse ++ collected) next
      else singleQuoted? multiLine fuel (c :: collected) ⟨column + 1, rest⟩

def simpleEscape? : Char → Option Char
  | '0' => some '\x00'
  | 'a' => some '\x07'
  | 'b' => some '\x08'
  | 't' | '\t' => some '\t'
  | 'n' => some '\n'
  | 'v' => some '\x0b'
  | 'f' => some '\x0c'
  | 'r' => some '\r'
  | 'e' => some '\x1b'
  | ' ' => some ' '
  | '"' => some '"'
  | '/' => some '/'
  | '\\' => some '\\'
  | 'N' => some '\u0085'
  | '_' => some '\u00a0'
  | 'L' => some '\u2028'
  | 'P' => some '\u2029'
  | _ => none

/-- The number of digits of a character's code after the letter of an escape. -/
def codeLength? : Char → Option Nat
  | 'x' => some 2
  | 'u' => some 4
  | 'U' => some 8
  | _ => none

/-- Reads up to the closing quote. An escaped break joins two lines without a blank. -/
def doubleQuoted? (multiLine : Bool) : (fuel : Nat) → (collected : List Char) → Cursor → Option ScalarText
  | 0, _, _ => none
  | fuel + 1, collected, ⟨column, text⟩ =>
    match text with
    | [] => none
    | '"' :: rest => some ⟨collected.reverse, ⟨column + 1, rest⟩, multiLine⟩
    | '\\' :: '\n' :: rest =>
      let (breaks, next) := countBreaks 0 0 rest
      if next.atMarker then none
      else doubleQuoted? true fuel (List.replicate breaks '\n' ++ collected) next
    | '\\' :: c :: rest =>
      match codeLength? c with
      | some length =>
        match natOfDigits? 16 (rest.take length) with
        | none => none
        | some code =>
          if rest.length < length then none
          else match Digit.charOfCode? code with
            | none => none
            | some c => doubleQuoted? multiLine fuel (c :: collected) ⟨column + 2 + length, rest.drop length⟩
      | none =>
        match simpleEscape? c with
        | none => none
        | some c => doubleQuoted? multiLine fuel (c :: collected) ⟨column + 2, rest⟩
    | c :: rest =>
      if isBlank c || c == '\n' then
        let (breaks, next) := countBreaks 0 column (c :: rest)
        if next.atMarker then none
        else
          let between := if breaks == 0 then (c :: rest).takeWhile isBlank else folded breaks
          doubleQuoted? (multiLine || breaks != 0) fuel (between.reverse ++ collected) next
      else doubleQuoted? multiLine fuel (c :: collected) ⟨column + 1, rest⟩

/-! ### Any scalar -/

/-- A character that no plain scalar starts with. -/
def isIndicator (c : Char) : Bool := ",[]\x7b\x7d#&*!|>'\"%@\x60".toList.contains c

/-- A plain scalar can start here. -/
def startsPlain (brackets : Bool) : List Char → Bool
  | [] => false
  | c :: rest =>
    if isBlank c || c == '\n' || isIndicator c then false
    else if c == '-' then !startsBlank rest
    else if c == '?' || c == ':' then !brackets && !startsBlank rest
    else true

/-- Reads a scalar, and says whether it is plain. -/
def scalar? (brackets : Bool) (least : Nat) (c : Cursor) : Option (Bool × ScalarText) :=
  match c.rest with
  | '"' :: rest => (doubleQuoted? false (rest.length + 1) [] ⟨c.column + 1, rest⟩).map (false, ·)
  | '\'' :: rest => (singleQuoted? false (rest.length + 1) [] ⟨c.column + 1, rest⟩).map (false, ·)
  | rest =>
    if startsPlain brackets rest then
      (plain? brackets least (rest.length + 1) ⟨[], c, false⟩).map (true, ·)
    else none

end Verdict.Yaml
