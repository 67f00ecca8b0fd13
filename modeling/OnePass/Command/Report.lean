import OnePass.Analysis.Parse
import OnePass.Text.Lines
import OnePass.Text.Utf8
/-!
# Reports

A report says how the analysis of one program went: a status for whoever called the command, what
goes to the output, and what goes to the error output. The flags of a request add to the report and
do not change its status.
-/
namespace OnePass

/-- Why a reader has no bytes for a path. -/
inductive Reader.Refusal where
  | missing
  | isDirectory
  | notDirectory
  | nameTooLong
  | other (reason : String)
  deriving DecidableEq, Repr

def Reader.Refusal.message : Reader.Refusal → String
  | .missing => "No such file or directory"
  | .isDirectory => "Is a directory"
  | .notDirectory => "Not a directory"
  | .nameTooLong => "File name too long"
  | .other reason => reason

/-- A way to get at the bytes of a file. -/
abbrev Reader := String → Except Reader.Refusal (List UInt8)

/-- Why a program could not be read. -/
inductive Unreadable where
  | refused (refusal : Reader.Refusal)
  | notUtf8 (refusal : Text.Utf8.Refusal)
  deriving DecidableEq, Repr

def Unreadable.message : Unreadable → String
  | .refused refusal => refusal.message
  | .notUtf8 refusal => s!"not valid UTF-8 ({refusal.message})"

/-- The text of a file: its bytes decoded, with line feeds for its line ends. -/
def textOfBytes (bytes : List UInt8) : Except Unreadable String :=
  match Text.Utf8.decode bytes with
  | .ok cs => .ok (String.ofList (Text.unifyLineEnds cs))
  | .error refusal => .error (.notUtf8 refusal)

def Lexer.ofFile (read : Reader) (path : String) : Except Unreadable Lexer :=
  match read path with
  | .ok bytes => (textOfBytes bytes).map (Lexer.ofString path)
  | .error refusal => .error (.refused refusal)

/-- What is to be analysed, the program text itself or the path of its file, and what to report. -/
structure Request where
  source : String
  inline : Bool
  trace : Bool
  verbose : Bool
  symbols : Bool
  deriving DecidableEq, Repr

/-- What is wrong with a request on which there is no report. No path holds a NUL. -/
inductive Request.Fault where
  | nulInPath
  deriving DecidableEq, Repr

def Request.Fault.message : Request.Fault → String
  | .nulInPath => "embedded null byte"

structure Report where
  status : Nat
  output : String
  errors : String
  deriving DecidableEq, Repr

namespace Report

def unlines (lines : List String) : String :=
  String.join (lines.map (· ++ "\n"))

def symbolLines (scope : Scope) : List String :=
  scope.snapshot.map fun entry => s!"  {entry.1}: {entry.2.name}"

/-- The report of a program that was accepted. -/
def accepted (request : Request) (filename : String) (journal : Journal) : Report :=
  let symbols := if request.symbols then symbolLines journal.scope else []
  ⟨0, journal.output ++ unlines (s!"{filename}: parsed successfully" :: symbols), ""⟩

/-- The report of a program that was not. -/
def stopped (request : Request) (stop : Stop) (journal : Journal) : Report :=
  let rules := if request.verbose then ["rule trace: " ++ " > ".intercalate stop.ruleTrace] else []
  ⟨1, journal.output, unlines (s!"error: {stop.message}" :: rules)⟩

def ofLexer (request : Request) (lexer : Lexer) : Report :=
  match Analysis.parse (.ofSource (.text lexer) (.start .empty request.trace)) with
  | .ok _ analyser => accepted request lexer.filename analyser.journal
  | .error stop analyser => stopped request stop analyser.journal

def unreadable (source : String) (reason : Unreadable) : Report :=
  ⟨2, "", unlines [s!"error: cannot read {source}: {reason.message}"]⟩

/-- The report on a request. A path with a NUL is not even looked up. -/
def ofRequest (read : Reader) (request : Request) : Except Request.Fault Report :=
  if request.inline then .ok (ofLexer request (.ofString Lexer.inlineName request.source))
  else if '\x00' ∈ request.source.toList then .error .nulInPath
  else match Lexer.ofFile read request.source with
    | .ok lexer => .ok (ofLexer request lexer)
    | .error reason => .ok (unreadable request.source reason)

end Report

end OnePass
