import MarketWire.Number.Shortest

namespace MarketWire.Stream

inductive StreamError where
  | connectionFailed (reason : String)
  | connectionClosed (code : Nat) (reason : String)
  | unreadable (reason : String)
  | pongTimeout (millis : Nat)
  | protocolBroken (reason : String)
  | notConnected
  | sendFailed (reason : String)
  | channelClosed
  | invalidUrl (reason : String)
  | timedOut
  | io (reason : String)
  | loginFailed (code message : String)
  | loginRequired (channel : String)
  | invalidParameter (reason : String)
  | unsignable (reason : String)
  | exhausted (attempts : Nat) (lastError : String)
  | upgradeRejected (status : String)
  deriving DecidableEq, Repr

def natText (n : Nat) : String := String.ofList (Number.digitsOf n)

namespace StreamError

def message : StreamError → String
  | connectionFailed reason => "Connection failed: " ++ reason
  | connectionClosed code reason =>
      "Connection closed unexpectedly: code " ++ natText code ++ ", reason: " ++ reason
  | unreadable reason => "Failed to parse message: " ++ reason
  | pongTimeout millis => "Pong timeout: no pong received within " ++ natText millis ++ "ms"
  | protocolBroken reason => "WebSocket protocol error: " ++ reason
  | notConnected => "Not connected to WebSocket server"
  | sendFailed reason => "Failed to send message: " ++ reason
  | channelClosed => "Internal channel closed"
  | invalidUrl reason => "Invalid WebSocket URL: " ++ reason
  | timedOut => "Operation timed out"
  | io reason => "IO error: " ++ reason
  | loginFailed code message => "Authentication failed: " ++ message ++ " (code: " ++ code ++ ")"
  | loginRequired channel => "Authentication required for private channel: " ++ channel
  | invalidParameter reason => "Invalid parameter: " ++ reason
  | unsignable reason => "Signing error: " ++ reason
  | exhausted attempts lastError =>
      "Reconnect failed after " ++ natText attempts ++ " attempt(s): " ++ lastError
  | upgradeRejected status => "HTTP error during upgrade: " ++ status

def isAuth : StreamError → Bool
  | loginFailed _ _ => true
  | unsignable _ => true
  | _ => false

def isTransport : StreamError → Bool
  | connectionFailed _ => true
  | connectionClosed _ _ => true
  | pongTimeout _ => true
  | protocolBroken _ => true
  | timedOut => true
  | io _ => true
  | upgradeRejected _ => true
  | sendFailed _ => true
  | _ => false

end StreamError

inductive TransportFault where
  | closed
  | alreadyClosed
  | io (reason : String)
  | violation (reason : String)
  | url (reason : String)
  | rejected (status : Nat)
  | other (reason : String)
  deriving DecidableEq, Repr

namespace TransportFault

def reset : TransportFault := .violation "Connection reset without closing handshake"

def oversized : TransportFault :=
  .violation "Control frame too big (payload must be 125 bytes or less)"

def refused : TransportFault := .io "Connection refused (os error 111)"

def unknownName : TransportFault :=
  .io "failed to lookup address information: Temporary failure in name resolution"

def noHost : TransportFault := .url "No host name in the URL"

def attack : TransportFault := .other "Attack attempt detected"

end TransportFault

def StreamError.ofFault : TransportFault → StreamError
  | .closed => .connectionClosed 1000 "Connection closed normally"
  | .alreadyClosed => .notConnected
  | .io reason => .io reason
  | .violation reason => .protocolBroken reason
  | .url reason => .invalidUrl reason
  | .rejected status => .upgradeRejected (natText status)
  | .other reason => .protocolBroken reason

def invalidSecret (reason : String) : String := "Invalid secret key: " ++ reason

end MarketWire.Stream
