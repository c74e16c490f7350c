import Turnstile.Text.Hex
import Turnstile.Text.Utf8

/-!
# Routes

Which resource a path names.  The fixed parts of a path match letter by letter,
and the id of a player is one segment, in which escapes of a percent sign and two
hexadecimal digits are decoded.

Main definitions:

- `pathOf`: the path of a request target.
- `Route.ofPath?`: the resource of a path.
- `decodePercent`: a segment without escapes.
-/

namespace Turnstile

/-- The resources of the service. -/
inductive Route
  | checkEvent
  | blockedPlayers
  /-- A player; the id is still escaped. -/
  | player (segment : List Char)
  /-- The block of a player; the id is still escaped. -/
  | unblock (segment : List Char)
  | health
  | metrics
deriving DecidableEq, Repr

/-- A character of a scheme. -/
def isSchemeChar (c : Char) : Bool :=
  c.isAlphanum || c == '+' || c == '-' || c == '.'

/-- What follows the scheme and the host of a request target that has them. -/
def behindHost? (target : List Char) : Option (List Char) :=
  match target.dropWhile isSchemeChar with
  | ':' :: '/' :: '/' :: rest =>
      some (rest.dropWhile fun c => c != '/' && c != '?' && c != '#')
  | _ => none

/-- What comes before a query or a fragment. -/
def beforeQuery (target : List Char) : List Char :=
  target.takeWhile fun c => c != '?' && c != '#'

/-- The path of a request target.  Behind a scheme and a host there is a slash at
least. -/
def pathOf (target : String) : String :=
  match behindHost? target.toList with
  | some rest =>
      let path := beforeQuery rest
      String.ofList (if path.isEmpty then ['/'] else path)
  | none => String.ofList (beforeQuery target.toList)

/-- The text behind a given front part. -/
def after? (front text : List Char) : Option (List Char) :=
  if front.isPrefixOf text then some (text.drop front.length) else none

/-- A segment behind a given front part: not empty, and nothing after it. -/
def segmentAfter? (front text : List Char) : Option (List Char) :=
  (after? front text).filter fun segment => !segment.isEmpty && !segment.contains '/'

namespace Route

/-- The resource that a path names. -/
def ofPath? (path : String) : Option Route :=
  if path = "/check-event" then some .checkEvent
  else if path = "/blocked-players" then some .blockedPlayers
  else if path = "/healthz" then some .health
  else if path = "/metrics" then some .metrics
  else
    match segmentAfter? "/player/".toList path.toList with
    | some segment => some (.player segment)
    | none => (segmentAfter? "/unblock/".toList path.toList).map .unblock

/-- The methods of a resource, as they are listed for whoever tries another. -/
def allow : Route → String
  | .checkEvent => "POST"
  | .unblock _ => "PUT"
  | _ => "GET,HEAD"

/-- Whether a resource has a method. -/
def allows (route : Route) (method : String) : Bool :=
  match route with
  | .checkEvent => method == "POST"
  | .unblock _ => method == "PUT"
  | _ => method == "GET" || method == "HEAD"

end Route

/-! ## Escapes -/

/-- The bytes of a segment with its escapes decoded, onto the reversed bytes `seen`.
A percent sign without two digits behind it stands for itself. -/
def decodePercentOnto (seen : List UInt8) : List UInt8 → List UInt8
  | [] => seen.reverse
  | 0x25 :: a :: b :: rest =>
      match Text.Hex.value? (Char.ofNat a.toNat), Text.Hex.value? (Char.ofNat b.toNat) with
      | some high, some low => decodePercentOnto (UInt8.ofNat (high * 16 + low) :: seen) rest
      | _, _ => decodePercentOnto (0x25 :: seen) (a :: b :: rest)
  | b :: rest => decodePercentOnto (b :: seen) rest

/-- The text of a segment with its escapes decoded, when it is UTF-8. -/
def decodePercent (segment : List Char) : Option String :=
  (Text.Utf8.decode? (decodePercentOnto [] (Text.Utf8.encode segment))).map String.ofList

end Turnstile
