import GymLang.Server.Message

/-!
# The server

The server is a machine with two kinds of steps: it receives a message, or a reply to one
of its questions.  Checking a document needs its settings, and if they have to be asked
for, the rest of the work is set aside as a task until the reply comes.  Meanwhile other
messages may be received and replies come in any order; what a task finds when it is taken
up again is the session of that time.

A message is first held against the phase of the conversation.  Before the client has
introduced itself and after it has asked the server to stop, requests are refused and
notices are dropped, and after the end nothing is received at all.
-/

namespace GymLang

/-- Phases of the conversation. -/
inductive Phase
  | waiting
  | running
  | stopped
  | ended
deriving DecidableEq, Repr

/-- Work that is set aside until a question is answered. -/
inductive Task
  /-- Nothing is left to do. -/
  | watch
  /-- To check a document with the settings that were asked for, and then further ones. -/
  | check (uri : Uri) (rest : List Uri)
deriving DecidableEq, Repr

/-- The question a task waits for. -/
def Task.question : Task → Question
  | watch => .watchConfiguration
  | check uri _ => .settings uri

/-- State of the server. -/
structure Server where
  phase : Phase := .waiting
  session : Session := {}
  /-- How many questions have been asked. -/
  asked : Nat := 0
  /-- Tasks that wait, with the numbers of their questions. -/
  tasks : List (Nat × Task) := []

namespace Server

/-- Something that happens to the server. -/
inductive Event
  | message (m : Message)
  | reply (number : Nat) (r : Reply)

/-- Asks what a task needs to know, and sets the task aside. -/
def suspend (s : Server) (task : Task) : Server × List Outgoing :=
  ({ s with asked := s.asked + 1, tasks := (s.asked, task) :: s.tasks },
    [.ask s.asked task.question])

/-- Publishes the problems of a document, if it is open. -/
def publish (s : Server) (uri : Uri) (settings : Settings) : List Outgoing :=
  (s.session.publication? Engine.standard uri settings).toList.map .publish

/-- Checks documents one after the other, as far as their settings are known. -/
def check (s : Server) : List Uri → Server × List Outgoing
  | [] => (s, [])
  | uri :: rest =>
    match s.session.settingsFor uri with
    | .ready settings =>
      let (s', out) := check s rest
      (s', s.publish uri settings ++ out)
    | .fetch => s.suspend (.check uri rest)

/-- Takes in a notice and checks what it touches.  A document that is closed has its
problems withdrawn. -/
def notify (s : Server) (n : Notice) : Server × List Outgoing :=
  let withdrawn : List Outgoing := match n with
    | .closed uri => if s.session.isOpen uri then [.publish ⟨uri, none, []⟩] else []
    | _ => []
  let (s', out) := { s with session := s.session.notify n }.check (s.session.toCheck n)
  (s', out ++ withdrawn)

/-- The response to a message that may have wanted one. -/
def respond (id : Option RequestId) (r : Except Refusal Result) : List Outgoing :=
  id.toList.map fun i => .response i r

/-- Why requests are refused outside of the running phase. -/
def notRunning : Phase → Refusal
  | .stopped => .invalidRequest
  | _ => .notInitialized

/-- Takes in that the client has seen the response to its first message. -/
def start (s : Server) : Server × List Outgoing :=
  if s.session.client.configuration then
    let (s', out) := s.suspend .watch
    (s', .greeting :: out)
  else (s, [.greeting])

/-- Receives a message while the conversation is running.  A notice that wants a response
is refused and not taken in, and a request that wants none is passed over. -/
def receiveRunning (s : Server) (m : Message) : Server × List Outgoing :=
  match m.body with
  | .started => if m.id.isSome then (s, respond m.id (.error .invalidRequest)) else s.start
  | .notice n => if m.id.isSome then (s, respond m.id (.error .invalidRequest)) else s.notify n
  | .unused => (s, respond m.id (.error .invalidRequest))
  | .query q => (s, respond m.id (.ok (.answer (s.session.answer Engine.standard q))))
  | .unserved => (s, respond m.id (.error .methodNotFound))
  | .malformed .shutdown => ({ s with phase := .stopped }, respond m.id (.error .invalidParams))
  | .malformed _ => (s, respond m.id (.error .invalidParams))
  | .shutdown => ({ s with phase := .stopped }, respond m.id (.ok .stopped))
  | _ => (s, [])

/-- Receives the message by which the client introduces itself. -/
def receiveStart (s : Server) (id : Option RequestId) (client? : Option ClientSupport) :
    Server × List Outgoing :=
  if s.phase = .waiting then
    match id, client? with
    | none, _ => (s, [])
    | some i, none => (s, [.response i (.error .invalidParams)])
    | some i, some client =>
      ({ s with phase := .running, session := s.session.withClient client },
        [.response i (.ok (.offer client))])
  else (s, respond id (.error .invalidRequest))

/-- Receives a message.  Methods that are not known are refused in every phase, and so is a
cancellation that wants a response.  What is left undone at the end stays undone. -/
def receive (s : Server) (m : Message) : Server × List Outgoing :=
  if s.phase = .ended then (s, [])
  else match m.body with
    | .exit => ({ s with phase := .ended, tasks := [] }, [])
    | .unknown optional => (s, if optional then [] else respond m.id (.error .methodNotFound))
    | .cancel => (s, respond m.id (.error .invalidRequest))
    | .start client => s.receiveStart m.id (some client)
    | .malformed .start => s.receiveStart m.id none
    | _ =>
      if s.phase = .running then s.receiveRunning m
      else (s, respond m.id (.error (notRunning s.phase)))

/-- Takes up the task that waits for a reply. -/
def resume (s : Server) (number : Nat) (r : Reply) : Server × List Outgoing :=
  match s.tasks.lookup number with
  | none => (s, [])
  | some task =>
    let s := { s with tasks := s.tasks.filter (·.1 != number) }
    match task with
    | .watch => (s, [])
    | .check uri rest =>
      let s := { s with session := s.session.storeSettings uri r.settings }
      let (s', out) := s.check rest
      (s', s.publish uri r.settings ++ out)

/-- One step of the server: its next state, and what it sends. -/
def step (s : Server) : Event → Server × List Outgoing
  | .message m => s.receive m
  | .reply number r => s.resume number r

/-- A run of the server: its last state, and what it sends. -/
def run (s : Server) : List Event → Server × List Outgoing
  | [] => (s, [])
  | e :: rest =>
    let (s', out) := s.step e
    let (last, more) := run s' rest
    (last, out ++ more)

end Server
end GymLang
