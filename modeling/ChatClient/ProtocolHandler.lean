import ChatClient.Library.Calls
import ChatClient.Bytes

/-! What the event loop and the two protocol handlers share: the client state a
handler returns, the effects it has on the outside world, and the interface the
loop calls. A call may be undefined (it reads past the end of a datagram, or the
state machine runs off the end of a function); then it has no outcome. -/

namespace ChatClient

/-- `ProtocolHandler::ClientState`. -/
inductive ClientState where
  | waitingForConfirmation | waitingForReply | readyForInput | over
  deriving DecidableEq, Repr

/-- A state that is none of the other three is READY_FOR_INPUT. -/
theorem ready_of_not {state : ClientState} (goes : state ≠ .over)
    (noReply : state ≠ .waitingForReply) (noConfirm : state ≠ .waitingForConfirmation) :
    state = .readyForInput := by
  cases state
  · exact absurd rfl noConfirm
  · exact absurd rfl noReply
  · rfl
  · exact absurd rfl goes

/-- A `sockaddr_in`: where a datagram goes, or came from. -/
structure SockAddr where
  sinAddr : UInt32
  sinPort : UInt16
  deriving DecidableEq, Repr

/-- What a handler does to the world: a system call on the socket, or one of the
`ClientOutput` functions. -/
inductive Effect where
  | sendto (address : SockAddr) (message : Bytes)
  | send (message : Bytes)
  | messageFromServer (username message : Bytes)
  | internalErrorMessage (message : Bytes)
  | printHelp
  | errorFromServer (username message : Bytes)
  | replySuccess (message : Bytes)
  | replyError (message : Bytes)
  | perror (message : Bytes)
  | serverClosedConnection
  deriving DecidableEq, Repr

/-- The bytes an effect puts on the socket. -/
def Effect.sent : Effect → Option Bytes
  | .sendto _ message => some message
  | .send message => some message
  | _ => none

/-- The reply an effect displays. -/
def Effect.reply : Effect → Option Bytes
  | .replySuccess message => some message
  | .replyError message => some message
  | _ => none

/-- Whether an effect shows the user something that came from the server. -/
def Effect.shows : Effect → Bool
  | .messageFromServer _ _ | .errorFromServer _ _ | .replySuccess _ | .replyError _ => true
  | _ => false

/-- The messages sent by some effects, in order. -/
def sent (effects : List Effect) : List Bytes := effects.filterMap Effect.sent

@[simp] theorem sent_nil : sent [] = [] := rfl

@[simp] theorem sent_append (first second : List Effect) :
    sent (first ++ second) = sent first ++ sent second := by
  simp [sent]

@[simp] theorem sent_sendto (address : SockAddr) (message : Bytes) (effects : List Effect) :
    sent (.sendto address message :: effects) = message :: sent effects := rfl

@[simp] theorem sent_send (message : Bytes) (effects : List Effect) :
    sent (.send message :: effects) = message :: sent effects := rfl

/-- What a call leaves behind: the handler, the effects in order, and the state
returned. `returned` is empty when control runs off the end of the function. -/
structure Outcome (H : Type) where
  handler : H
  effects : List Effect
  returned : Option ClientState
  deriving DecidableEq, Repr

/-- A state other than READY_FOR_INPUT, which a missing one is taken for, was returned. -/
theorem returned_of_state {returned : Option ClientState} {state : ClientState}
    (other : state ≠ .readyForInput) (left : state = returned.getD .readyForInput) :
    returned = some state :=
  (Option.getD_eq_iff.mp left.symm).resolve_right fun missing => other missing.2.symm

/-- Which branch a line goes to in `process_user_input` of either handler, once
`/exit` is ruled out, and that this branch led to the outcome. -/
inductive Dispatched {H : Type} (line : Bytes) (outcome : Outcome H)
    (auth join rename help plain : Option (Outcome H)) : Prop where
  | auth (command : commandOf line = text "/AUTH") (ran : auth = some outcome)
  | join (command : commandOf line = text "/JOIN") (ran : join = some outcome)
  | rename (command : commandOf line = text "/RENAME") (ran : rename = some outcome)
  | help (command : commandOf line = text "/HELP") (ran : help = some outcome)
  | plain (noAuth : commandOf line ≠ text "/AUTH") (noJoin : commandOf line ≠ text "/JOIN")
      (noRename : commandOf line ≠ text "/RENAME") (noHelp : commandOf line ≠ text "/HELP")
      (ran : plain = some outcome)

/-- The branch that ran is the one of the line's command. -/
theorem dispatched_of_eq {H : Type} {line : Bytes} {outcome : Outcome H}
    {auth join rename help plain : Option (Outcome H)}
    (ran : (if commandOf line = text "/AUTH" then auth
      else if commandOf line = text "/JOIN" then join
      else if commandOf line = text "/RENAME" then rename
      else if commandOf line = text "/HELP" then help else plain) = some outcome) :
    Dispatched line outcome auth join rename help plain := by
  split at ran
  · exact .auth ‹_› ran
  split at ran
  · exact .join ‹_› ran
  split at ran
  · exact .rename ‹_› ran
  split at ran
  · exact .help ‹_› ran
  · exact .plain ‹_› ‹_› ‹_› ‹_› ran

/-- The virtual functions of `ProtocolHandler`; `Received` is what the operating
system hands to `process_server_message`. -/
class ProtocolHandler (H : Type) (Received : outParam Type) where
  processServerMessage : H → Received → Option (Outcome H)
  processUserInput : H → Bytes → Option (Outcome H)
  resendLastMessage : H → List Effect

/-- What one receive call delivers, at most 1499 bytes: both handlers receive into
`char[1500]` and ask for one byte less. -/
abbrev RecvBuffer := { bytes : Bytes // bytes.length ≤ 1499 }

end ChatClient
