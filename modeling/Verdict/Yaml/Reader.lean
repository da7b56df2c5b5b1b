import Verdict.Yaml.Scalar

/-!
# Reading YAML texts

Nodes are read from left to right. Inside brackets indentation does not matter. Elsewhere a collection holds the entries that start in its column; an entry that starts further left ends it, and one that starts further right, or on the line of the entry before, is a fault. A mapping cannot start on the line of its own key. Every step takes a character or goes into a collection whose first character was taken, so a few steps for each character are enough.
-/

namespace Verdict.Yaml

/-! ### Brackets -/

mutual

/-- Reads a node inside brackets. -/
def bracketNode? : (fuel : Nat) → Cursor → Option (Yaml × Cursor)
  | 0, _ => none
  | fuel + 1, c =>
    if c.atMarker then none
    else match c.rest with
      | '[' :: rest => bracketItems? fuel [] (Cursor.skipInBrackets ⟨c.column + 1, rest⟩)
      | '\x7b' :: rest => bracketEntries? fuel [] (Cursor.skipInBrackets ⟨c.column + 1, rest⟩)
      | _ =>
        match scalar? true 0 c with
        | some (plain, s) => some (.scalar plain (String.ofList s.text), s.after)
        | none => none

/-- Reads the rest of a sequence in brackets. A pair stands for a mapping with one entry. -/
def bracketItems? : (fuel : Nat) → List Yaml → Cursor → Option (Yaml × Cursor)
  | 0, _, _ => none
  | fuel + 1, done, c =>
    match c.rest with
    | ']' :: rest => some (.sequence done.reverse, ⟨c.column + 1, rest⟩)
    | _ =>
      match bracketNode? fuel c with
      | none => none
      | some (node, after) =>
        match bracketValue? fuel node after.skipInBrackets with
        | none => none
        | some (value?, after) =>
          match itemOf? node value? with
          | none => none
          | some item =>
            match after.rest with
            | ',' :: rest => bracketItems? fuel (item :: done) (Cursor.skipInBrackets ⟨after.column + 1, rest⟩)
            | ']' :: rest => some (.sequence (item :: done).reverse, ⟨after.column + 1, rest⟩)
            | _ => none
where
  itemOf? (node : Yaml) : Option Yaml → Option Yaml
    | none => some node
    | some value =>
      match node with
      | .scalar _ key => some (.mapping [(key, value)])
      | _ => none

/-- Reads the rest of a mapping in brackets. A key without a value has nothing under it. -/
def bracketEntries? : (fuel : Nat) → List (String × Yaml) → Cursor → Option (Yaml × Cursor)
  | 0, _, _ => none
  | fuel + 1, done, c =>
    match c.rest with
    | '\x7d' :: rest => some (.mapping done.reverse, ⟨c.column + 1, rest⟩)
    | _ =>
      match bracketNode? fuel c with
      | some (.scalar plain key, after) =>
        match bracketValue? fuel (.scalar plain key) after.skipInBrackets with
        | none => none
        | some (value?, after) =>
          let entry := (key, value?.getD .nothing)
          match after.rest with
          | ',' :: rest => bracketEntries? fuel (entry :: done) (Cursor.skipInBrackets ⟨after.column + 1, rest⟩)
          | '\x7d' :: rest => some (.mapping (entry :: done).reverse, ⟨after.column + 1, rest⟩)
          | _ => none
      | _ => none

/-- Reads a value if a colon says that there is one, and goes on to the next indicator. -/
def bracketValue? : (fuel : Nat) → (key : Yaml) → Cursor → Option (Option Yaml × Cursor)
  | 0, _, _ => none
  | fuel + 1, _, c =>
    match c.rest with
    | ':' :: rest =>
      let value := Cursor.skipInBrackets ⟨c.column + 1, rest⟩
      match value.rest with
      | ',' :: _ | ']' :: _ | '\x7d' :: _ => some (some .nothing, value)
      | _ => (bracketNode? fuel value).map fun (node, after) => (some node, after.skipInBrackets)
    | _ => some (none, c)

end

/-! ### Blocks -/

/-- A node, the place after it and after everything that is skipped, and whether a line ended in between. -/
structure Block where
  node : Yaml
  after : Cursor
  crossed : Bool

def Cursor.atEnd (c : Cursor) : Bool := c.rest.isEmpty || c.atMarker

/-- A hyphen with a blank after it. -/
def Cursor.atDash (c : Cursor) : Bool :=
  match c.rest with
  | '-' :: rest => startsBlank rest && !c.atMarker
  | _ => false

/-- The place after a colon that makes a key of what stands before it on the line. -/
def afterColon? (c : Cursor) : Option Cursor :=
  let blanks := c.rest.takeWhile isBlank
  match c.rest.dropWhile isBlank with
  | ':' :: rest => if startsBlank rest then some ⟨c.column + blanks.length + 1, rest⟩ else none
  | _ => none

def closed (node : Yaml) (c : Cursor) : Block :=
  let (after, crossed) := c.skipInBlock true
  ⟨node, after, crossed⟩

/-- Reads the next key of a mapping. -/
def blockKey? (least : Nat) (c : Cursor) : Option (String × Cursor) :=
  match scalar? false least c with
  | some (_, s) => if s.multiLine then none else (afterColon? s.after).map (String.ofList s.text, ·)
  | none => none

mutual

/-- Reads a node that starts here, at the column `least` or further right. If `inline`, it starts on the line of its key. -/
def blockNode? : (fuel : Nat) → (least : Nat) → (inline : Bool) → Cursor → Option Block
  | 0, _, _, _ => none
  | fuel + 1, least, inline, c =>
    if c.atDash then if inline then none else blockItems? fuel c.column [] c
    else match c.rest with
      | '[' :: _ | '\x7b' :: _ =>
        match bracketNode? (3 * c.rest.length + 3) c with
        | some (node, after) => if (afterColon? after).isSome then none else some (closed node after)
        | none => none
      | _ =>
        match scalar? false least c with
        | none => none
        | some (plain, s) =>
          match afterColon? s.after with
          | none => some (closed (.scalar plain (String.ofList s.text)) s.after)
          | some after =>
            if inline || s.multiLine then none else blockEntries? fuel c.column [] (String.ofList s.text) after

/-- Reads the items of a sequence from a hyphen on. -/
def blockItems? : (fuel : Nat) → (column : Nat) → List Yaml → Cursor → Option Block
  | 0, _, _, _ => none
  | fuel + 1, column, done, c =>
    let (start, crossed) := Cursor.skipInBlock ⟨c.column + 1, c.rest.drop 1⟩ false
    match if start.atEnd || crossed && start.column ≤ column then some ⟨.nothing, start, crossed⟩
      else blockNode? fuel (column + 1) false start with
    | none => none
    | some item =>
      if item.after.atEnd || item.after.column < column then
        some ⟨.sequence (item.node :: done).reverse, item.after, item.crossed⟩
      else if !item.crossed || column < item.after.column then none
      else if item.after.atDash then blockItems? fuel column (item.node :: done) item.after
      else some ⟨.sequence (item.node :: done).reverse, item.after, item.crossed⟩

/-- Reads the entries of a mapping from the place after a key's colon on. The items of a sequence may stand in the column of the keys. -/
def blockEntries? : (fuel : Nat) → (column : Nat) → List (String × Yaml) → (key : String) → Cursor → Option Block
  | 0, _, _, _, _ => none
  | fuel + 1, column, done, key, c =>
    let (start, crossed) := c.skipInBlock true
    match
      if start.atEnd then some ⟨.nothing, start, crossed⟩
      else if !crossed then blockNode? fuel (column + 1) true start
      else if column < start.column then blockNode? fuel (column + 1) false start
      else if start.column == column && start.atDash then blockItems? fuel column [] start
      else some ⟨.nothing, start, crossed⟩ with
    | none => none
    | some value =>
      let done := (key, value.node) :: done
      if value.after.atEnd || value.after.column < column then
        some ⟨.mapping done.reverse, value.after, value.crossed⟩
      else if !value.crossed || column < value.after.column then none
      else
        match blockKey? (column + 1) value.after with
        | some (key, after) => blockEntries? fuel column done key after
        | none => none

end

/-! ### Documents -/

/-- Reads the documents of a text. The first one may do without a line of hyphens; a line of points ends a document, and before the first one it ends an empty document. -/
def documentsFrom? : (fuel : Nat) → (isFirst : Bool) → Cursor → Option (List Yaml)
  | 0, _, _ => none
  | fuel + 1, isFirst, c =>
    match c.rest with
    | [] => some []
    | first :: _ =>
      if c.atMarker && first == '.' then
        let documents? := documentsFrom? fuel false (Cursor.skipInBlock ⟨3, c.rest.drop 3⟩ true).1
        if isFirst then documents?.map (.nothing :: ·) else documents?
      else if !c.atMarker && !isFirst then none
      else
        let (start, crossed) := if c.atMarker then Cursor.skipInBlock ⟨3, c.rest.drop 3⟩ true else (c, true)
        match
          if start.atEnd then some ⟨.nothing, start, crossed⟩
          else blockNode? (3 * c.rest.length + 3) 0 (!crossed) start with
        | none => none
        | some block =>
          if block.after.atEnd then (documentsFrom? fuel false block.after).map (block.node :: ·) else none

/-- Characters that a text may hold. -/
def isAllowed (c : Char) : Bool :=
  let n := c.toNat
  n == 0x09 || n == 0x0A || n == 0x0D || 0x20 ≤ n && n ≤ 0x7E || n == 0x85 || 0xA0 ≤ n && n ≤ 0xFFFD || 0x10000 ≤ n

/-- Writes every kind of line break in the same way. -/
def unifyBreaks : List Char → List Char
  | '\r' :: '\n' :: rest => '\n' :: unifyBreaks rest
  | '\r' :: rest => '\n' :: unifyBreaks rest
  | '\u0085' :: rest => '\n' :: unifyBreaks rest
  | c :: rest => c :: unifyBreaks rest
  | [] => []

/-- Sequences and mappings may nest this deep. -/
def maxNesting : Nat := 128

/-- The documents of a text. -/
def documents? (text : String) : Option (List Yaml) :=
  let text := unifyBreaks text.toList
  let text := if text.head? == some '\ufeff' then text.drop 1 else text
  if !text.all isAllowed then none
  else
    match documentsFrom? (text.length + 2) true (Cursor.skipInBlock ⟨0, text⟩ false).1 with
    | some documents => if documents.all (·.nesting ≤ maxNesting) then some documents else none
    | none => none

/-- The document of a text that holds one, or none at all. -/
def document? (text : String) : Option Yaml :=
  match documents? text with
  | some [] => some .nothing
  | some [document] => some document
  | _ => none

end Verdict.Yaml
