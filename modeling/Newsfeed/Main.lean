import Newsfeed.CommandLine

/-!
# The program

Reads the files that the command line names, runs it and prints the outcome.
-/

namespace Newsfeed.CommandLine

/-- The contents of a file, if it can be read. -/
def contents? (path : String) : IO (Option ByteArray) := do
  try
    return some (← IO.FS.readBinFile path)
  catch _ => return none

end Newsfeed.CommandLine

open Newsfeed.CommandLine in
def main (args : List String) : IO UInt32 := do
  let contents ← (neededFiles args).mapM fun path => return (path, ← contents? path)
  let outcome := run (fun path => (contents.lookup path).join) args
  IO.print outcome.output
  match outcome.error with
  | some line => IO.eprintln line
  | none => if outcome.code = 2 then IO.eprintln "usage: newsfeed (format | page) PATH [options]"
  return outcome.code.toUInt32
