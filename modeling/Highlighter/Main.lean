-- The command line: prints the listing of a file.
import Highlighter.Listing

namespace Highlighter

/-- What went wrong with a file, as far as listings tell it apart. -/
def FileFault.ofError? : IO.Error → Option FileFault
  | .noFileOrDirectory .. => some .notFound
  | .inappropriateType _ code _ => some (if code = 21 then .isDirectory else .notDirectory)
  | .invalidArgument _ code _ =>
    -- The error number 36, negated.
    if code = 0xFFFFFFDC then some .nameTooLong
    else if code = 22 then some .nulInName
    else none
  | _ => none

/-- Reads a file. -/
def readFile (path : String) : IO (Except FileFault String) := do
  try
    match String.fromUTF8? (← IO.FS.readBinFile path) with
    | some text => return .ok text
    | none => return .error .notText
  catch e =>
    match FileFault.ofError? e with
    | some fault => return .error fault
    | none => throw e

end Highlighter

/-- Prints the listing that the arguments ask for. -/
def main (args : List String) : IO UInt32 := do
  let listing ← Highlighter.Listing.make Highlighter.readFile args
  IO.print listing.text
  if let some e := listing.error? then IO.eprintln e.message
  return listing.status
