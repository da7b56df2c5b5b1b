import Verdict.Unicode.CodeSet
import Verdict.Unicode.CategoryTable
import Verdict.Unicode.LetterTable
import Verdict.Unicode.SymbolTable
import Verdict.Unicode.ScriptTable
import Verdict.Unicode.AgeTable
import Verdict.Unicode.BreakTable

/-!
# Character classes by name

The sets of characters that have a name: general categories, scripts and properties, and the values of those properties that have more than two. A name is looked up without regard to case, blanks, hyphens and low lines, and an `is` in front of it is passed over.
-/

namespace Verdict.Unicode

open CodeSet

/-! ### Tables, read -/

def categoryRuns : List (Nat × Nat × String) := runsOfTable categoryTable

/-- The codes whose category is one of those listed. -/
def categories (codes : List String) : CodeSet := ofRuns categoryRuns (codes.contains ·)

def alphabetic : CodeSet := ofTable alphabeticTable.2

def whiteSpace : CodeSet := ofTable whiteSpaceTable.2

def graphemeExtend : CodeSet := ofTable graphemeExtendTable.2

def joinControl : CodeSet := ofTable joinControlTable.2

/-- Decimal digits of all scripts. -/
def decimalDigit : CodeSet := categories ["Nd"]

/-- The characters of words: letters, marks, decimal digits, connectors and joiners. -/
def wordCharacter : CodeSet :=
  ((alphabetic.union (categories ["Mn", "Mc", "Me", "Nd", "Pc"])).union joinControl)

/-- Letters, and numbers of every kind. -/
def alphanumeric : CodeSet := alphabetic.union (categories ["Nd", "Nl", "No"])

/-- Characters without a shape of their own: controls, formats, surrogates, private and unassigned codes, and every separator but the blank. -/
def unprintable : CodeSet :=
  (categories ["Cc", "Cf", "Cs", "Co", "Cn", "Zl", "Zp", "Zs"]).difference (singleton 0x20)

/-! ### Names -/

/-- The names of each category or group of categories, and the categories it holds. -/
def categoryNames : List (List String × List String) := [
  (["C", "Other"], ["Cc", "Cf", "Cs", "Co", "Cn"]),
  (["Cc", "Control", "Cntrl"], ["Cc"]), (["Cf", "Format"], ["Cf"]), (["Cn", "Unassigned"], ["Cn"]),
  (["Co", "Private_Use"], ["Co"]), (["Cs", "Surrogate"], ["Cs"]),
  (["L", "Letter"], ["Lu", "Ll", "Lt", "Lm", "Lo"]), (["LC", "Cased_Letter"], ["Lu", "Ll", "Lt"]),
  (["Ll", "Lowercase_Letter"], ["Ll"]), (["Lm", "Modifier_Letter"], ["Lm"]), (["Lo", "Other_Letter"], ["Lo"]),
  (["Lt", "Titlecase_Letter"], ["Lt"]), (["Lu", "Uppercase_Letter"], ["Lu"]),
  (["M", "Mark", "Combining_Mark"], ["Mn", "Mc", "Me"]), (["Mc", "Spacing_Mark"], ["Mc"]),
  (["Me", "Enclosing_Mark"], ["Me"]), (["Mn", "Nonspacing_Mark"], ["Mn"]),
  (["N", "Number"], ["Nd", "Nl", "No"]), (["Nd", "Decimal_Number", "digit"], ["Nd"]),
  (["Nl", "Letter_Number"], ["Nl"]), (["No", "Other_Number"], ["No"]),
  (["P", "Punctuation", "punct"], ["Pc", "Pd", "Ps", "Pe", "Pi", "Pf", "Po"]),
  (["Pc", "Connector_Punctuation"], ["Pc"]), (["Pd", "Dash_Punctuation"], ["Pd"]),
  (["Pe", "Close_Punctuation"], ["Pe"]), (["Pf", "Final_Punctuation"], ["Pf"]),
  (["Pi", "Initial_Punctuation"], ["Pi"]), (["Po", "Other_Punctuation"], ["Po"]),
  (["Ps", "Open_Punctuation"], ["Ps"]),
  (["S", "Symbol"], ["Sm", "Sc", "Sk", "So"]), (["Sc", "Currency_Symbol"], ["Sc"]),
  (["Sk", "Modifier_Symbol"], ["Sk"]), (["Sm", "Math_Symbol"], ["Sm"]), (["So", "Other_Symbol"], ["So"]),
  (["Z", "Separator"], ["Zs", "Zl", "Zp"]), (["Zl", "Line_Separator"], ["Zl"]),
  (["Zp", "Paragraph_Separator"], ["Zp"]), (["Zs", "Space_Separator"], ["Zs"])]

/-- The form in which names are compared. The lone letter that is left of `isc` is not a name. -/
def looseName (name : List Char) : List Char :=
  let (isDropped, rest) := match name with
    | i :: s :: rest => if (i == 'i' || i == 'I') && (s == 's' || s == 'S') then (true, rest) else (false, name)
    | _ => (false, name)
  let loose := (rest.filter fun c => c != ' ' && c != '_' && c != '-' && c.toNat < 128).map Char.toLower
  if isDropped && loose == ['c'] then ['i', 's', 'c'] else loose

def isNamed (loose : List Char) (name : String) : Bool := looseName name.toList == loose

/-- The set of a general category, or of one of the names that stand for all codes, all assigned codes and all of ASCII. -/
def category? (loose : List Char) : Option CodeSet :=
  if loose == "any".toList then some (range 0 greatest)
  else if loose == "assigned".toList then some (categories ["Cn"]).complement
  else if loose == "ascii".toList then some (range 0 0x7F)
  else (categoryNames.find? fun (names, _) => names.any (isNamed loose)).map fun (_, codes) => categories codes

/-- The names of a property's values, with the label that stands for the value in the property's table first. -/
def valueNames (names : String) : List (List String) :=
  (words names).map fun word => (String.ofList word).splitOn "="

/-- The label of the value with a name. -/
def label? (names : String) (loose : List Char) : Option String :=
  ((valueNames names).find? (·.any (isNamed loose))).bind List.head?

/-- The codes that have the value with a name. -/
def labelled? (names table : String) (loose : List Char) : Option CodeSet :=
  (label? names loose).map fun label => ofRuns (runsOfTable table) (· == label)

def script? : List Char → Option CodeSet := labelled? scriptNames scriptTable

/-- The codes that are used with a script. Those without extensions are used with their own script only. -/
def scriptExtension? (loose : List Char) : Option CodeSet :=
  let runs := runsOfTable scriptExtensionTable
  (label? scriptNames loose).map fun script =>
    ((ofRuns (runsOfTable scriptTable) (· == script)).intersection (ofRuns runs (· == "OWN"))).union
      (ofRuns runs fun label => (label.splitOn "=").contains script)

/-- The codes that were assigned by the version with a name, in it or before it. -/
def age? (loose : List Char) : Option CodeSet :=
  let versions := valueNames ageNames
  (versions.findIdx? (·.any (isNamed loose))).map fun i =>
    ofRuns (runsOfTable ageTable) ((versions.take (i + 1)).filterMap List.head?).contains

def property? (loose : List Char) : Option CodeSet :=
  ((letterTables ++ symbolTables).find? fun (names, _) => names.any (isNamed loose)).map fun (_, table) => ofTable table

/-- The set with a name: a property, else a category, else a script. Two names of properties that hold no set give way to the categories with the same name. -/
def named? (name : List Char) : Option CodeSet :=
  let loose := looseName name
  if loose == "cf".toList || loose == "sc".toList || loose == "lc".toList then category? loose
  else property? loose <|> category? loose <|> script? loose

/-- The set of the codes whose property has a value. -/
def valued? (property value : List Char) : Option CodeSet :=
  let loose := looseName value
  match String.ofList (looseName property) with
  | "gc" | "generalcategory" => category? loose
  | "sc" | "script" => script? loose
  | "scx" | "scriptextensions" => scriptExtension? loose
  | "age" => age? loose
  | "gcb" | "graphemeclusterbreak" => labelled? graphemeBreakNames graphemeBreakTable loose
  | "wb" | "wordbreak" => labelled? wordBreakNames wordBreakTable loose
  | "sb" | "sentencebreak" => labelled? sentenceBreakNames sentenceBreakTable loose
  | _ => none

end Verdict.Unicode
