import JustAnotherVoiceChat.Platform

set_option autoImplicit false

namespace JustAnotherVoiceChat

open Binary Interaction

inductive StoiError where
  | invalidArgument
  | outOfRange
deriving DecidableEq

def isSpace (c : UInt8) : Bool := c = 32 || (9 ≤ c && c ≤ 13)

def isDigit (c : UInt8) : Bool := 48 ≤ c && c ≤ 57

def numeral (digits : Bytes) : Nat :=
  digits.foldl (fun value digit => 10 * value + (digit.toNat - 48)) 0

def signed (text : Bytes) : Bool × Bytes :=
  match text with
  | 45 :: rest => (true, rest)
  | 43 :: rest => (false, rest)
  | _ => (false, text)

-- White space is skipped, a sign is allowed, and what follows the digits is ignored.
def stoi (text : CString) : Except StoiError Int :=
  let (negative, rest) := signed (text.text.items.dropWhile isSpace)
  let digits := rest.takeWhile isDigit
  let value : Int := if negative then -(numeral digits : Int) else numeral digits
  if digits = [] then .error .invalidArgument
  else if value < -2 ^ 31 ∨ 2 ^ 31 ≤ value then .error .outOfRange
  else .ok value

def toUInt16 (value : Int) : UInt16 := UInt16.ofNat (value % 2 ^ 16).toNat

inductive Argument where
  | host
  | port
  | uid
deriving DecidableEq

structure Response where
  page : String
deriving DecidableEq

inductive StatusCode where
  | ok
  | accepted
  | imUsed
  | badRequest
deriving DecidableEq

inductive HttpOp where
  | enter
  | leave (thrown : Bool)
  | tryLock
  | unlock
  | isIngame
  | lookup (argument : Argument)
  | connect (host : CString) (port uniqueIdentifier : UInt16)
  | connected
  | createResponse (page : String)
  | queueResponse (statusCode : StatusCode) (response : Response)
  | destroyResponse (response : Response)
deriving DecidableEq

@[reducible] def HttpOp.Reply : HttpOp → Type
  | .tryLock | .isIngame | .connected => Bool
  | .lookup _ => Option CString
  | .createResponse _ => Response
  | .queueResponse _ _ => Int
  | _ => Unit

abbrev Handler := Program HttpOp HttpOp.Reply

def perform (op : HttpOp) : Handler op.Reply := .perform op

def sendResponse (page : String) (statusCode : StatusCode) : Handler Int := do
  let response ← perform (.createResponse page)
  let result ← perform (.queueResponse statusCode response)
  perform (.destroyResponse response)
  return result

def alreadyConnecting : String := "<html><body>Already connecting</body></html>"

def alreadyIngame : String := "<html><body>Already in-game</body></html>"

def missingParameters : String := "<html><body>Missing parameters</body></html>"

def unableToConnect : String := "<html><body>Unable to connect</body></html>"

-- An exception of `std::stoi` is the error of the result.
def handleRequest : Handler (Except StoiError Int) := do
  if !(← perform .tryLock) then
    return .ok (← sendResponse alreadyConnecting .imUsed)
  if ← perform .isIngame then
    perform .unlock
    return .ok (← sendResponse alreadyIngame .accepted)
  let host ← perform (.lookup .host)
  let port ← perform (.lookup .port)
  let uniqueIdentifier ← perform (.lookup .uid)
  match host, port, uniqueIdentifier with
  | some host, some port, some uniqueIdentifier =>
    match stoi port, stoi uniqueIdentifier with
    | .ok portValue, .ok identifierValue =>
      perform (.connect host (toUInt16 portValue) (toUInt16 identifierValue))
      if !(← perform .connected) then
        perform .unlock
        return .ok (← sendResponse unableToConnect .badRequest)
      perform .unlock
      return .ok (← sendResponse "<html><body>OK</body></html>" .ok)
    | .error thrown, _ => return .error thrown
    | .ok _, .error thrown => return .error thrown
  | _, _, _ =>
    perform .unlock
    return .ok (← sendResponse missingParameters .badRequest)

def serve : Handler Unit := do
  perform .enter
  match ← handleRequest with
  | .ok _ => perform (.leave false)
  | .error _ => perform (.leave true)

structure Arguments where
  host : Option CString
  port : Option CString
  uid : Option CString

def Arguments.get (arguments : Arguments) : Argument → Option CString
  | .host => arguments.host
  | .port => arguments.port
  | .uid => arguments.uid

structure HttpEntry (ι : Type) where
  request : ι
  op : HttpOp
  reply : op.Reply

structure HttpWorld (ι : Type) where
  holder : Option ι
  trace : List (HttpEntry ι)

def HttpWorld.record {ι : Type} (w : HttpWorld ι) (request : ι) (op : HttpOp) (reply : op.Reply) :
    HttpWorld ι :=
  { w with trace := ⟨request, op, reply⟩ :: w.trace }

def HttpWorld.initial (ι : Type) : HttpWorld ι := ⟨none, []⟩

-- The steps of a request; whether the client is in-game and whether it can connect is open.
def requestSteps {ι : Type} (arguments : Arguments) (self : ι) :
    Semantics HttpOp HttpOp.Reply (HttpWorld ι)
  | .tryLock, w, locked, w' => locked = w.holder.isNone ∧
      w' = { w with holder := if locked then some self else w.holder }.record self .tryLock locked
  | .unlock, w, _, w' => w' = { w with holder := none }.record self .unlock ()
  | .lookup argument, w, value, w' =>
    value = arguments.get argument ∧ w' = w.record self (.lookup argument) value
  | .createResponse page, w, response, w' =>
    response = ⟨page⟩ ∧ w' = w.record self (.createResponse page) response
  | op, w, reply, w' => w' = w.record self op reply

end JustAnotherVoiceChat
