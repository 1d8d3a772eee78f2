import Figment.Command.Answer
/-!
The program: reads the files that a command line asks for, prints the answer, and ends with its exit
code.
-/

namespace Figment

def readFault : IO.Error → String
  | .noFileOrDirectory _ code reason => s!"{reason} (os error {code})"
  | .permissionDenied _ code reason => s!"{reason} (os error {code})"
  | .inappropriateType _ code reason => s!"{reason} (os error {code})"
  | e => toString e

def readText (path : String) : IO (Except String String) := do
  try
    let bytes ← IO.FS.readBinFile path
    match String.fromUTF8? bytes with
    | some text => return .ok text
    | none => return .error "stream did not contain valid UTF-8"
  catch e => return .error (readFault e)

def freshSeed : IO UInt64 := do
  let bytes ← IO.getRandomBytes 8
  return bytes.toList.foldl (fun n b => n * 256 + b.toUInt64) 0

end Figment

open Figment Command in
def main (args : List String) : IO UInt32 := do
  let request := request args
  let contents ← request.files.mapM fun path => return (path, ← readText path)
  let world : World :=
    { read := fun path => (contents.lookup path).getD (.error "not read")
      seed := ← freshSeed }
  let answer := answer world request
  IO.print answer.output
  IO.eprint answer.errors
  return .ofNat answer.code
