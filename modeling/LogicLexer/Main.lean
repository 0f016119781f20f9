import LogicLexer.CommandLine

/-!
# The program

The outer layer: it reads files and the standard input, and prints what the library answers.
-/

namespace LogicLexer

/-- The operating system's error number in an error of the file operations, some of which give it
with its sign turned. -/
def ReadFailure.ofNumber (number : UInt32) : ReadFailure :=
  .system (if number < 0x80000000 then number else 0 - number).toNat

/-- Why a file could not be read, from the error of reading it. -/
def ReadFailure.ofIOError : IO.Error → ReadFailure
  | .noFileOrDirectory _ number _ => .ofNumber number
  | .inappropriateType _ number _ => .ofNumber number
  | .permissionDenied _ number _ => .ofNumber number
  | .invalidArgument _ number _ => .ofNumber number
  | .resourceExhausted _ number _ => .ofNumber number
  | .hardwareFault number _ => .ofNumber number
  | .otherError number _ => .ofNumber number
  | e => .other (toString e)

/-- Reads the file at a path. -/
def readSource (path : String) : IO (Except SourceError Source) := do
  if path.toList.contains '\x00' then
    return .error (.unavailable path .nulInPath)
  try
    return Source.ofRead path (.ok (← IO.FS.readBinFile path))
  catch e =>
    return Source.ofRead path (.error (.ofIOError e))

/-- Reads the rest of a line behind the given bytes of it. At the end of the input there is nothing
left to read. -/
partial def restOfLine (input : IO.FS.Stream) (front : List UInt8) : IO (List UInt8) := do
  match (← input.read 1).data.toList with
  | [] => return front.reverse
  | byte :: _ =>
    if byte == CommandLine.lineFeed then
      return (byte :: front).reverse
    restOfLine input (byte :: front)

/-- Shows the menu and answers one line after the other; the result is the exit code. -/
partial def Session.loop (session : Session) (input output : IO.FS.Stream) : IO UInt32 := do
  output.putStr Session.menu
  output.flush
  let line ← restOfLine input []
  if line.isEmpty then
    return 0
  match CommandLine.readLine line with
  | .ended => return 0
  | .failed report =>
    (← IO.getStderr).putStr (CommandLine.failure report)
    return 1
  | .broken report =>
    (← IO.getStderr).putStr (report ++ "\n")
    return 101
  | .line text =>
    let answer := session.handle text
    output.putStr answer.output
    match answer.flow with
    | .exit => return 0
    | .goOn => answer.session.loop input output

end LogicLexer

open LogicLexer in
/-- Runs the program and gives its exit code. -/
def main (arguments : List String) : IO UInt32 := do
  let loaded ← match CommandLine.Options.read arguments with
    | .ok ⟨some path, none, _, _⟩ => readSource path
    | _ => pure (.error (.unavailable "" .notFound))
  match CommandLine.start (fun _ => loaded) arguments with
  | .done outcome =>
    (← IO.getStdout).putStr outcome.output
    (← IO.getStderr).putStr outcome.errors
    return outcome.code.toUInt32
  | .menu session =>
    session.loop (← IO.getStdin) (← IO.getStdout)
