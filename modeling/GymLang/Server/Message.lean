import GymLang.Session.Basic

/-!
# Messages between editor and server

A message from the editor has an identifier if it wants a response.  Messages from the
server are its responses, the problems it publishes, a greeting, and questions of its own,
which are numbered so that the editor can reply to them in any order.
-/

namespace GymLang

/-- Identifier of a request. -/
inductive RequestId
  | number (n : Int)
  | string (s : String)
  | null
deriving DecidableEq, Repr

/-- The requests whose content may fail to be made out. -/
inductive Addressee
  | start
  | shutdown
  | query
deriving DecidableEq, Repr

/-- What a message from the editor is about. -/
inductive Body
  /-- The first message, with what the client can do. -/
  | start (client : ClientSupport)
  /-- The client has seen the response to the first message. -/
  | started
  | shutdown
  | exit
  | query (q : Query)
  | notice (n : Notice)
  /-- A notice of something the server has no use for, or that cannot be made out. -/
  | unused
  /-- A notice that a request is no longer of interest.  Requests do not wait, so there is
  never one to give up. -/
  | cancel
  /-- A request of a kind that is known but not served. -/
  | unserved
  /-- A request with missing or malformed parameters. -/
  | malformed (addressee : Addressee)
  /-- A method that is not known; an optional one is not even missed. -/
  | unknown (optional : Bool)

/-- A message from the editor. -/
structure Message where
  id : Option RequestId
  body : Body

/-- Why a request is refused. -/
inductive Refusal
  | notInitialized
  | invalidRequest
  | methodNotFound
  | invalidParams
deriving DecidableEq, Repr

/-- Number of a refusal in the protocol. -/
def Refusal.code : Refusal → Int
  | notInitialized => -32002
  | invalidRequest => -32600
  | methodNotFound => -32601
  | invalidParams => -32602

/-- What a request that is not refused is responded with. -/
inductive Result
  /-- What the server offers to the client. -/
  | offer (client : ClientSupport)
  | stopped
  | answer (a : Answer)

/-- What the server asks the editor. -/
inductive Question
  /-- To report changes of the configuration. -/
  | watchConfiguration
  /-- The settings of a document. -/
  | settings (uri : Uri)
deriving DecidableEq, Repr

/-- A message from the server. -/
inductive Outgoing
  | response (id : RequestId) (r : Except Refusal Result)
  | greeting
  | publish (p : Publication)
  | ask (number : Nat) (q : Question)

/-- What the editor replies to a question. -/
inductive Reply
  | value (j : Json)
  | failed

/-- The settings in a reply, which is a list with one entry.  Without it the default
holds. -/
def Reply.settings : Reply → Settings
  | .value (.array (j :: _)) => Settings.ofJson j
  | _ => {}

end GymLang
