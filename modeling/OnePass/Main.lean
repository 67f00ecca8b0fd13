import OnePass.Command.Arguments
/-!
# The command

Reads the one file that the arguments name, and prints the report. Where there is none it says why
and gives the status of a failed analysis.
-/
namespace OnePass

/-- The system's number of an error, which may be given negated. -/
def errorNumber (code : UInt32) : UInt32 :=
  if code < 0x80000000 then code else 0 - code

def refusalOfNumber (code : UInt32) (details : String) : Reader.Refusal :=
  match errorNumber code with
  | 2 => .missing
  | 20 => .notDirectory
  | 21 => .isDirectory
  | 36 => .nameTooLong
  | _ => .other details

def refusalOfError : IO.Error → Reader.Refusal
  | .noFileOrDirectory _ code details => refusalOfNumber code details
  | .inappropriateType _ code details => refusalOfNumber code details
  | .invalidArgument _ code details => refusalOfNumber code details
  | .permissionDenied _ code details => refusalOfNumber code details
  | failure => .other (toString failure)

def readFile (path : String) : IO (Except Reader.Refusal (List UInt8)) := do
  try
    return .ok (← IO.FS.readBinFile path).toList
  catch failure =>
    return .error (refusalOfError failure)

end OnePass

open OnePass in
def main (arguments : List String) : IO UInt32 := do
  let contents ← match Invocation.ofArguments arguments with
    | .ok (.analyse request) =>
      if request.inline then pure (.error .missing) else readFile request.source
    | _ => pure (.error .missing)
  match Report.ofArguments (fun _ => contents) arguments with
  | .ok report =>
    (← IO.getStdout).putStr report.output
    (← IO.getStderr).putStr report.errors
    return report.status.toUInt32
  | .error fault =>
    (← IO.getStderr).putStr (fault.message ++ "\n")
    return 1
