import OnePass.Command.Report
import OnePass.Text.Digit
import OnePass.Text.Quoted
/-!
# The arguments of the command

Arguments are first told apart, all of them, and then taken from left to right. A short flag is one
letter after a dash, and letters may share a dash; a long flag may be cut short as long as it is
still the only one that begins that way. After `--` every argument is a word.
-/
namespace OnePass

inductive Flag where
  | help | inline | trace | verbose | symbols
  deriving DecidableEq, Repr

namespace Flag

/-- How flags are written, in the order in which they are listed. -/
def spellings : List (String × Flag) :=
  [("-h", .help), ("--help", .help), ("-s", .inline), ("--string", .inline), ("-t", .trace),
   ("--trace", .trace), ("-v", .verbose), ("--verbose", .verbose), ("--symbols", .symbols)]

/-- All the spellings of a flag. -/
def display (flag : Flag) : String :=
  "/".intercalate ((spellings.filter (·.2 = flag)).map (·.1))

def ofLetter? (letter : Char) : Option Flag :=
  spellings.lookup (String.ofList ['-', letter])

end Flag

inductive UsageError where
  | missingSource
  | unrecognized (arguments : List String)
  | ambiguous (argument : String) (candidates : List String)
  | ignoredArgument (flag : Flag) (value : String)
  deriving DecidableEq, Repr

def UsageError.message : UsageError → String
  | .missingSource => "the following arguments are required: source"
  | .unrecognized arguments => "unrecognized arguments: " ++ " ".intercalate arguments
  | .ambiguous argument candidates =>
    s!"ambiguous option: {argument} could match " ++ ", ".intercalate candidates
  | .ignoredArgument flag value =>
    s!"argument {flag.display}: ignored explicit argument {Text.quoted value}"

/-- What an argument is. The value of a flag is the text that is written together with it; after a
short flag that text may consist of more letters. -/
inductive Argument where
  | word (text : String)
  | short (flag : Flag) (value : Option (List Char))
  | long (flag : Flag) (value : Option (List Char))
  | unknown (text : String)
  | separator
  deriving DecidableEq, Repr

namespace Argument

def isLong : List Char → Bool
  | '-' :: '-' :: _ => true
  | _ => false

def ofFlag (spelling : List Char) (flag : Flag) (value : Option (List Char)) : Argument :=
  if isLong spelling then .long flag value else .short flag value

/-- The text before the first equals sign and the text after it. -/
def splitValue (cs : List Char) : List Char × Option (List Char) :=
  match cs.dropWhile (· != '=') with
  | [] => (cs, none)
  | _ :: value => (cs.takeWhile (· != '='), some value)

/-- Whether a number may end here: at the end of the text, or before a line feed that ends it. -/
def endsNumber (cs : List Char) : Bool :=
  cs = [] || cs = ['\n']

/-- A minus sign and decimals, or a minus sign, a point and decimals with decimals between them or
not. -/
def isNegativeNumber : List Char → Bool
  | '-' :: cs =>
    match cs.dropWhile Text.isDecimal with
    | '.' :: fraction =>
      fraction.takeWhile Text.isDecimal ≠ [] && endsNumber (fraction.dropWhile Text.isDecimal)
    | rest => cs.takeWhile Text.isDecimal ≠ [] && endsNumber rest
  | _ => false

/-- The flags that the text of an argument may stand for, each with how it is written in full. -/
def candidates (cs : List Char) : List (String × Argument) :=
  if isLong cs then
    let (start, value) := splitValue cs
    (Flag.spellings.filter fun entry => start.isPrefixOf entry.1.toList).map fun entry =>
      (entry.1, .long entry.2 value)
  else
    (Flag.spellings.filter fun entry => entry.1.toList = cs.take 2).map fun entry =>
      (entry.1, .short entry.2 (some (cs.drop 2)))

/-- Tells what an argument is that begins with a dash and has no full spelling of a flag in front.
Numbers, and texts with a space in them, are words. -/
def classifyCut (text : String) : Except UsageError Argument :=
  match candidates text.toList with
  | [(_, argument)] => .ok argument
  | [] =>
    if isNegativeNumber text.toList || text.toList.contains ' ' then .ok (.word text)
    else .ok (.unknown text)
  | several => .error (.ambiguous text (several.map (·.1)))

def classify (text : String) : Except UsageError Argument :=
  match text.toList with
  | '-' :: _ :: _ =>
    let (name, value) := splitValue text.toList
    match Flag.spellings.lookup text, Flag.spellings.lookup (String.ofList name) with
    | some flag, _ => .ok (.ofFlag text.toList flag none)
    | none, some flag => .ok (.ofFlag name flag value)
    | none, none => classifyCut text
  | _ => .ok (.word text)

def classifyAll : List String → Except UsageError (List Argument)
  | [] => .ok []
  | text :: rest =>
    if text = "--" then .ok (.separator :: rest.map .word)
    else do
      let argument ← classify text
      let arguments ← classifyAll rest
      return argument :: arguments

/-- The flags of a short flag and the letters that follow it, all of which must be flags. -/
def cluster (flag : Flag) : (letters : List Char) → Except UsageError (List Flag)
  | [] => .error (.ignoredArgument flag "")
  | letter :: rest =>
    match Flag.ofLetter? letter with
    | none => .error (.ignoredArgument flag (String.ofList (letter :: rest)))
    | some next => if rest = [] then .ok [flag, next] else (flag :: ·) <$> cluster next rest

/-- The flags that an argument sets. A long flag has no value. -/
def flags : Argument → Except UsageError (List Flag)
  | .short flag none => .ok [flag]
  | .short flag (some letters) => cluster flag letters
  | .long flag none => .ok [flag]
  | .long flag (some value) => .error (.ignoredArgument flag (String.ofList value))
  | _ => .ok []

end Argument

/-- What the arguments ask for. -/
inductive Invocation where
  | help
  | analyse (request : Request)
  deriving DecidableEq, Repr

/-- What has been found in the arguments taken so far. -/
structure Settings where
  source : Option String
  flags : List Flag
  extras : List String

namespace Settings

def empty : Settings :=
  ⟨none, [], []⟩

/-- The first word is the source; there is no use for another. -/
def word (settings : Settings) (text : String) : Settings :=
  match settings.source with
  | none => { settings with source := some text }
  | some _ => { settings with extras := settings.extras ++ [text] }

def extra (settings : Settings) (text : String) : Settings :=
  { settings with extras := settings.extras ++ [text] }

def finish (settings : Settings) : Except UsageError Invocation :=
  match settings.source with
  | none => .error .missingSource
  | some source =>
    if settings.extras = [] then
      .ok (.analyse
        { source
          inline := .inline ∈ settings.flags
          trace := .trace ∈ settings.flags
          verbose := .verbose ∈ settings.flags
          symbols := .symbols ∈ settings.flags })
    else .error (.unrecognized settings.extras)

/-- Takes the arguments from left to right. A request for help is met when it is reached, and a
separator beside the source counts for nothing. -/
def take : Settings → List Argument → Except UsageError Invocation
  | settings, [] => settings.finish
  | settings, .separator :: .word text :: rest =>
    if settings.source.isNone then take (settings.word text) rest
    else take ((settings.extra "--").word text) rest
  | settings, .word text :: .separator :: rest =>
    if settings.source.isNone then take (settings.word text) rest
    else take ((settings.word text).extra "--") rest
  | settings, .word text :: rest => take (settings.word text) rest
  | settings, .separator :: rest => take (settings.extra "--") rest
  | settings, .unknown text :: rest => take (settings.extra text) rest
  | settings, argument :: rest =>
    match argument.flags with
    | .error refusal => .error refusal
    | .ok flags =>
      if .help ∈ flags then .ok .help
      else take { settings with flags := settings.flags ++ flags } rest

end Settings

def Invocation.ofArguments (arguments : List String) : Except UsageError Invocation :=
  match Argument.classifyAll arguments with
  | .ok classified => Settings.empty.take classified
  | .error refusal => .error refusal

namespace Report

def usage : String :=
  "usage: minilang [-h] [-s] [-t] [-v] [--symbols] source"

def helpLines : List String :=
  [usage,
   "",
   "Syntax and type check a minilang program.",
   "",
   "positional arguments:",
   "  source         Filename or program text (with -s)",
   "",
   "options:",
   "  -h, --help     show this help message and exit",
   "  -s, --string   Interpret source as literal text",
   "  -t, --trace    Print the parse trace",
   "  -v, --verbose  Show the rule trace on failure",
   "  --symbols      Print declared variables on success"]

def help : Report :=
  ⟨0, unlines helpLines, ""⟩

def misused (refusal : UsageError) : Report :=
  ⟨2, "", unlines [usage, s!"minilang: error: {refusal.message}"]⟩

/-- The report of the command with the given arguments. -/
def ofArguments (read : Reader) (arguments : List String) : Except Request.Fault Report :=
  match Invocation.ofArguments arguments with
  | .ok .help => .ok help
  | .ok (.analyse request) => ofRequest read request
  | .error refusal => .ok (misused refusal)

end Report

end OnePass
