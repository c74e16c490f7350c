import Turnstile.SignTool

/-!
# The command line

The signing tool as a program.  It only fetches what `SignTool` asks for and
prints what comes of it.
-/

namespace Turnstile.SignTool

/-- A failure of the system in the terms of the tool. -/
def ReadError.ofSystem : IO.Error → ReadError
  | .noFileOrDirectory .. => .notFound
  | .inappropriateType _ code _ => if code = 21 then .isDirectory else .notDirectory
  | error => .other (toString error)

/-- All bytes of a stream, behind those in `seen`. -/
partial def readAll (stream : IO.FS.Stream) (seen : ByteArray) : IO ByteArray := do
  let chunk ← stream.read 65536
  if chunk.isEmpty then return seen else readAll stream (seen ++ chunk)

/-- The bytes of a source. -/
def fetch (source : Source) : IO (Except ReadError (List UInt8)) := do
  try
    let bytes ← match source with
      | .standardInput => readAll (← IO.getStdin) ByteArray.empty
      | .file name => IO.FS.readBinFile name
    return .ok bytes.toList
  catch error => return .error (.ofSystem error)

/-- Prints a result and gives its exit code. -/
def emit (result : Result) : IO UInt32 := do
  IO.eprint result.errors
  IO.print result.output
  return UInt32.ofNat result.exitCode

end Turnstile.SignTool

open Turnstile.SignTool in
/-- Signs a request body. -/
def main (arguments : List String) : IO UInt32 := do
  match prepare arguments (← IO.getEnv "HMAC_SECRET") with
  | .error failure => emit (fail failure)
  | .ok (plan, verifier) => emit (finish plan verifier (← fetch plan.source))
