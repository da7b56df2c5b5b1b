import Verdict.Json.Parser
import Verdict.Literal
import Verdict.Log
import Verdict.Matcher
import Verdict.Report
import Verdict.Yaml.Reader

/-!
# Commands

A command names its files, and its outcome is what it writes and how it ends. The files are given as a function from paths to contents, so a run is a value like any other. A query is read before the documents it is put to, and the first failure ends the run.
-/

namespace Verdict

/-! ### Verbosity -/

namespace Verbosity

/-- What an argument adds to the verbosity, if it is one of its flags. -/
def ofFlag? (argument : String) : Option UInt8 :=
  if argument == "-v" || argument == "--verbose" then some 1
  else if argument == "-vv" then some 2
  else none

/-- The greatest verbosity, as it is counted in a byte. -/
def limit : UInt8 := 255

/-- The sum of two verbosities, as far as the limit goes. -/
def add (verbosity more : UInt8) : UInt8 := if verbosity ≤ limit - more then verbosity + more else limit

/-- Takes the flags off the front of the arguments and adds them to a verbosity. -/
def splitFrom (verbosity : UInt8) : List String → UInt8 × List String
  | [] => (verbosity, [])
  | argument :: rest =>
    match ofFlag? argument with
    | some more => splitFrom (add verbosity more) rest
    | none => (verbosity, argument :: rest)

def split (arguments : List String) : UInt8 × List String := splitFrom 0 arguments

end Verbosity

/-! ### Failures -/

/-- The things that can be done with files. -/
inductive Action where
  | explain
  | filter
  | check
deriving DecidableEq

namespace Action

def ofName? (name : String) : Option Action :=
  if name == "explain" then some explain
  else if name == "filter" then some filter
  else if name == "check" then some check
  else none

/-- The files that an action asks for. -/
def demand : Action → String
  | explain => "explain requires a query file and a document file"
  | filter => "filter requires a query file and a documents file"
  | check => "check requires a query file"

end Action

/-- The languages that files are written in. -/
inductive FileFormat where
  | json
  | yaml
deriving DecidableEq

/-- Why a file cannot be read. -/
inductive FileError where
  | missing
  | denied
  | directory
  | notText
  | other (text : String)
deriving DecidableEq

def FileError.message : FileError → String
  | missing => "No such file or directory (os error 2)"
  | denied => "Permission denied (os error 13)"
  | directory => "Is a directory (os error 21)"
  | notText => "stream did not contain valid UTF-8"
  | other text => text

inductive CommandError where
  | unknownCommand (name : String)
  | wrongFiles (action : Action)
  | notRead (path : String) (cause : FileError)
  | notParsed (format : FileFormat)
  | invalidQuery (path : String) (cause : LiteralError)
  | invalidDocument (path : String) (cause : LiteralError)
  | noDocuments (path found : String)
  | rejected (cause : Rejection)
  | notValid (cause : Rejection)
deriving DecidableEq

def CommandError.message : CommandError → String
  | unknownCommand name => "unknown command \"" ++ name ++ "\""
  | wrongFiles action => action.demand
  | notRead path cause => "failed to read \"" ++ path ++ "\": " ++ cause.message
  | notParsed .json => "JSON parse error: the text is no JSON value"
  | notParsed .yaml => "YAML parse error: the text is no YAML document"
  | invalidQuery path cause => "invalid query \"" ++ path ++ "\": " ++ cause.message
  | invalidDocument path cause => "invalid document \"" ++ path ++ "\": " ++ cause.message
  | noDocuments path found => "\"" ++ path ++ "\" must hold an array of documents, found " ++ found
  | rejected cause => "query rejected: " ++ cause.message
  | notValid cause => "query invalid: " ++ cause.message

/-! ### Files -/

/-- The contents of a file, or why it cannot be read. -/
abbrev Files := String → Except FileError String

namespace FileFormat

/-- What stands behind the last point of a file's name, unless the name starts with that point. -/
def extension? (path : String) : Option String :=
  let reversed := (path.toList.reverse).takeWhile (· != '/')
  match reversed.dropWhile (· != '.') with
  | _ :: _ :: _ => some (String.ofList (reversed.takeWhile (· != '.')).reverse)
  | _ => none

/-- Only the extension tells: files are YAML unless they say that they are JSON. -/
def ofPath (path : String) : FileFormat :=
  if (extension? path).any (·.toLower == "json") then json else yaml

/-- The brackets of a JSON file nest this deep. -/
def maxNesting : Nat := 127

def read? : FileFormat → String → Option Json
  | json, text => Json.parseNested? maxNesting text
  | yaml, text => (Yaml.document? text).bind Yaml.toJson?

end FileFormat

namespace Files

def tree (files : Files) (path : String) : Except CommandError Json := do
  let text ← (files path).mapError (.notRead path)
  let format := FileFormat.ofPath path
  match format.read? text with
  | some json => return json
  | none => throw (.notParsed format)

def query (files : Files) (path : String) : Except CommandError Document := do
  (← files.tree path).toDocument.mapError (.invalidQuery path)

def value (files : Files) (path : String) : Except CommandError Value := do
  (← files.tree path).toValue.mapError (.invalidDocument path)

def values (files : Files) (path : String) : Except CommandError (List Value) := do
  match ← files.value path with
  | .array values => return values
  | other => throw (.noDocuments path other.typeName)

end Files

/-! ### Actions -/

/-- What an action logs, and the text that it comes to. -/
structure ActionResult where
  log : List LogLine
  result : Except CommandError String

namespace ActionResult

def failure (cause : CommandError) : ActionResult := ⟨[], .error cause⟩

/-- The result of a trial. The summary comes after the journal and only if the trial came to something. -/
def ofTrial {α : Type} (trial : Trial α) (cause : Rejection → CommandError) (summary : α → List LogLine)
    (text : α → String) : ActionResult :=
  let journal := trial.journal.map Event.logLine
  match trial.outcome with
  | .ok a => ⟨journal ++ summary a, .ok (text a)⟩
  | .error r => ⟨journal, .error (cause r)⟩

end ActionResult

def summaryLine (text : String) : LogLine := ⟨.debug, "docmatch", text⟩

namespace Action

/-- Explains the verdict of a query on a document. -/
def runExplain (files : Files) (queryPath documentPath : String) : ActionResult :=
  match (do return (← files.query queryPath, ← files.value documentPath)) with
  | .error cause => .failure cause
  | .ok (query, value) =>
    .ofTrial (evaluateFrom query value .root) .rejected
      (fun e => [summaryLine ("explained matched=" ++ toString e.matched ++ " reasons=" ++ toString e.reasons.length)])
      (·.toJson.pretty)

/-- Selects the documents that satisfy a query. -/
def runFilter (files : Files) (queryPath documentsPath : String) : ActionResult :=
  match (do return (← files.query queryPath, ← files.values documentsPath)) with
  | .error cause => .failure cause
  | .ok (query, values) =>
    .ofTrial ((Matcher.ofDocument query).select values) .rejected
      (fun selected => [summaryLine
        ("filtered total=" ++ toString values.length ++ " selected=" ++ toString selected.length)])
      (fun selected => (Json.array (selected.map Value.toJson)).pretty)

/-- Checks a query. -/
def runCheck (files : Files) (queryPath : String) : ActionResult :=
  match files.query queryPath with
  | .error cause => .failure cause
  | .ok query => .ofTrial (Verdict.check query) .notValid (fun _ => []) (fun _ => "Query valid")

def run (action : Action) (files : Files) (paths : List String) : ActionResult :=
  match action, paths with
  | explain, [queryPath, documentPath] => runExplain files queryPath documentPath
  | filter, [queryPath, documentsPath] => runFilter files queryPath documentsPath
  | check, [queryPath] => runCheck files queryPath
  | action, _ => .failure (.wrongFiles action)

end Action

/-! ### Runs -/

namespace Command

def usage : String :=
  "Usage: docmatch [-v|-vv] <command> [options]\n" ++
  "\n" ++
  "Commands:\n" ++
  "  explain <query> <document>     Print the match verdict and its reasons\n" ++
  "  filter <query> <documents>     Print the documents that match\n" ++
  "  check <query>                  Validate a query\n" ++
  "  help                           Show this help\n" ++
  "\n" ++
  "Files ending in .json are read as JSON, anything else as YAML.\n"

/-- The files that a run may read. -/
def paths (arguments : List String) : List String :=
  match (Verbosity.split arguments).2 with
  | [] => []
  | name :: paths => if (Action.ofName? name).isSome then paths else []

/-- What a run writes, and the code that it ends with. -/
structure Outcome where
  exitCode : Nat
  output : String
  errors : String
deriving DecidableEq

def errorLine (cause : CommandError) : String := "error: " ++ cause.message ++ "\n"

/-- Runs a command on files, with a time stamp for the lines of its log. -/
def run (files : Files) (stamp : String) (arguments : List String) : Outcome :=
  let (verbosity, rest) := Verbosity.split arguments
  match rest with
  | [] => ⟨1, "", usage⟩
  | name :: paths =>
    if ["--help", "-h", "help"].contains name then ⟨0, "", usage⟩
    else match Action.ofName? name with
      | none => ⟨1, "", errorLine (.unknownCommand name) ++ usage⟩
      | some action =>
        let done := action.run files paths
        let log := String.join ((LogLine.shown verbosity.toNat done.log).map (LogLine.render stamp))
        match done.result with
        | .ok text => ⟨0, text ++ "\n", log⟩
        | .error cause => ⟨1, "", log ++ errorLine cause⟩

end Command

end Verdict
