import Turnstile.Event.Inbound
import Turnstile.Signature.Verifier

/-!
# The signing tool

A command that signs a request body with the secret from the environment, for
whoever tries the service by hand.  Arguments, secret and body are checked in
this order, and a body that the service would refuse is signed under a warning.

Main definitions:

- `SignTool.Plan.ofArguments`: what is to be signed, from the arguments.
- `SignTool.run`: exit code and output.
-/

namespace Turnstile.SignTool

/-- Why a body could not be read. -/
inductive ReadError
  /-- There is no such file. -/
  | notFound
  /-- The name is that of a directory. -/
  | isDirectory
  /-- The name leads through a file as if it were a directory. -/
  | notDirectory
  /-- Something else, in the words of the system. -/
  | other (text : String)
deriving DecidableEq, Repr

/-- The sentence for an error. -/
def ReadError.message : ReadError → String
  | .notFound => "No such file or directory (os error 2)"
  | .isDirectory => "Is a directory (os error 21)"
  | .notDirectory => "Not a directory (os error 20)"
  | .other text => text

/-- Where a body comes from. -/
inductive Source
  | standardInput
  | file (name : String)
deriving DecidableEq, Repr

/-- Where the body comes from and the request it is signed for. -/
structure Plan where
  source : Source
  method : String
  path : String
deriving DecidableEq, Repr

/-- What is to be signed: a source, a method and a path, the last two with a
default; further arguments are of no meaning. -/
def Plan.ofArguments : List String → Option Plan
  | [] => none
  | source :: rest =>
      some {
        source := if source = "-" then .standardInput else .file source
        method := rest.getD 0 "POST"
        path := rest.getD 1 "/check-event" }

/-- Why nothing was signed. -/
inductive Failure
  | usage
  | secretNotSet
  | secret (error : SecretError)
  | unreadable (source : Source) (error : ReadError)
deriving DecidableEq, Repr

/-- A sentence, and the cause behind it if there is one. -/
def Failure.sentences : Failure → String × Option String
  | .usage => ("usage: sign_event <body.json|-> [METHOD] [PATH]", none)
  | .secretNotSet => ("HMAC_SECRET not set", some "environment variable not found")
  | .secret error => (error.message, none)
  | .unreadable .standardInput error => ("Failed to read body from stdin", some error.message)
  | .unreadable (.file name) error => ("Failed to read body from " ++ name, some error.message)

/-- The report of a failure. -/
def Failure.report (failure : Failure) : String :=
  match failure.sentences with
  | (sentence, none) => "Error: " ++ sentence ++ "\n"
  | (sentence, some cause) => "Error: " ++ sentence ++ "\n\nCaused by:\n    " ++ cause ++ "\n"

/-- What a run leaves behind. -/
structure Result where
  exitCode : Nat
  output : String
  errors : String
deriving DecidableEq, Repr

/-- The line with the signature. -/
def signatureLine (signature : String) : String :=
  "sha256=" ++ signature ++ "\n"

/-- The warning about a body, when the service would refuse it. -/
def warning (body : List UInt8) : String :=
  match Event.parse body with
  | .ok _ => ""
  | .error error => "warning: body would be rejected by the server: " ++ error.message ++ "\n"

/-- What is to be signed with which secret. -/
def prepare (arguments : List String) (secret : Option String) :
    Except Failure (Plan × Verifier) :=
  match Plan.ofArguments arguments with
  | none => .error .usage
  | some plan =>
      match secret with
      | none => .error .secretNotSet
      | some secret =>
          match Verifier.ofSecret (Text.Utf8.encodeString secret) with
          | .error error => .error (.secret error)
          | .ok verifier => .ok (plan, verifier)

/-- Ends a run that failed. -/
def fail (failure : Failure) : Result where
  exitCode := 1
  output := ""
  errors := failure.report

/-- Signs a body, or fails when it could not be read. -/
def finish (plan : Plan) (verifier : Verifier) (body : Except ReadError (List UInt8)) : Result :=
  match body with
  | .error error => fail (.unreadable plan.source error)
  | .ok body =>
      { exitCode := 0
        output := signatureLine (verifier.sign plan.method plan.path body)
        errors := warning body }

/-- A run of the tool; `read` gives the body from its source. -/
def run (arguments : List String) (secret : Option String)
    (read : Source → Except ReadError (List UInt8)) : Result :=
  match prepare arguments secret with
  | .error failure => fail failure
  | .ok (plan, verifier) => finish plan verifier (read plan.source)

end Turnstile.SignTool
