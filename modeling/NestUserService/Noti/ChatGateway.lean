import Mathlib.Data.List.Sort
import NestUserService.Core.Db
import NestUserService.Lib.OrderedMap

/-!
# ChatGateway

The sessions are an object literal, so a name that every object inherits is found in it
although it was never stored. The messages of a session are changed in place. What goes
out over the sockets is kept in the order of the calls.
-/

namespace NestUserService.Noti

open Lib NestUserService.Core

/-- A message; `sender` is the source's `from`. -/
structure ChatMessage where
  sender : String
  message : String
  read : Bool
  deriving DecidableEq

structure ChatSession where
  userId : String
  messages : List ChatMessage
  deriving DecidableEq

/-- A connected client, with the two fields of its handshake query. -/
structure Socket where
  id : String
  userId : String
  role : String
  deriving DecidableEq

/-- A call on the socket server. -/
inductive SocketCall where
  | join (client : Socket) (room : String)
  | emitChat (room : String) (payload : ChatMessage)
  | emitReadUpdate (room userId : String)
  deriving DecidableEq

structure ChatGateway where
  sessions : OrderedMap ChatSession
  calls : List SocketCall

/-- The properties that an object literal inherits. -/
def objectPrototype : List String :=
  ["constructor", "__defineGetter__", "__defineSetter__", "hasOwnProperty", "__lookupGetter__",
    "__lookupSetter__", "isPrototypeOf", "propertyIsEnumerable", "toString", "valueOf",
    "__proto__", "toLocaleString"]

/-- The value of `this.sessions[userId]`. -/
inductive Property where
  | session (s : ChatSession)
  | inherited
  | undefined

def ChatGateway.property (g : ChatGateway) (userId : String) : Property :=
  match g.sessions.get? userId with
  | some s => .session s
  | none => if userId ∈ objectPrototype then .inherited else .undefined

/-- The number that a key stands for, when it is an array index. -/
def arrayIndex? (key : String) : Option Nat :=
  key.toNat?.filter fun n => toString n = key ∧ n < 4294967295

/-- `Object.keys`: the array indices in ascending order, then the other keys in the
order in which they were added. -/
def objectKeys (keys : List String) : List String :=
  (keys.filter fun k => (arrayIndex? k).isSome).insertionSort
      (fun k k' => (arrayIndex? k).getD 0 ≤ (arrayIndex? k').getD 0) ++
    keys.filter fun k => !(arrayIndex? k).isSome

/-- Reading a property of `undefined`. -/
def undefinedProperty (property : String) : Exn :=
  .typeError ("Cannot read properties of undefined (reading '" ++ property ++ "')")

def userRoom (userId : String) : String := "user-" ++ userId

def ChatSession.push (payload : ChatMessage) (s : ChatSession) : ChatSession :=
  { s with messages := s.messages ++ [payload] }

def ChatSession.markAsRead (senderId : String) (s : ChatSession) : ChatSession :=
  { s with
    messages := s.messages.map fun msg =>
      if msg.sender = senderId then { msg with read := true } else msg }

/-- A change of a session that is there. -/
def update (f : ChatSession → ChatSession) (sessions : OrderedMap ChatSession) (userId : String) :
    OrderedMap ChatSession :=
  match sessions.get? userId with
  | some s => sessions.set userId (f s)
  | none => sessions

namespace ChatGateway

def empty : ChatGateway := ⟨.empty, []⟩

def call (g : ChatGateway) (c : SocketCall) : ChatGateway := { g with calls := g.calls ++ [c] }

def handleConnection (g : ChatGateway) (client : Socket) : ChatGateway :=
  if client.role = "admin" then g.call (.join client "admins")
  else
    let g := (g.call (.join client "clients")).call (.join client (userRoom client.userId))
    match g.property client.userId with
    | .undefined => { g with sessions := g.sessions.set client.userId ⟨client.userId, []⟩ }
    | _ => g

/-- One round of the loop over the users. -/
def sendToUser (payload : ChatMessage) (g : ChatGateway) (user : String) : ChatGateway :=
  ChatGateway.call { g with sessions := update (ChatSession.push payload) g.sessions user }
    (.emitChat (userRoom user) payload)

def handleChat (g : ChatGateway) (message : String) (client : Socket) : Except Exn ChatGateway :=
  if client.role = "admin" then
    .ok ((objectKeys g.sessions.keys).foldl (sendToUser ⟨"Admin", message, false⟩) g)
  else
    let payload : ChatMessage := ⟨client.userId, message, false⟩
    match g.property client.userId with
    | .session _ => .ok (ChatGateway.call
        { g with sessions := update (ChatSession.push payload) g.sessions client.userId }
        (.emitChat "admins" payload))
    | .inherited => .error (undefinedProperty "push")
    | .undefined => .error (undefinedProperty "messages")

def markAsRead (g : ChatGateway) (senderId : String) (client : Socket) : Except Exn ChatGateway :=
  match g.property client.userId with
  | .session _ => .ok (ChatGateway.call
      { g with sessions := update (ChatSession.markAsRead senderId) g.sessions client.userId }
      (.emitReadUpdate "admins" client.userId))
  | .inherited => .error (undefinedProperty "forEach")
  | .undefined => .ok g

end ChatGateway

inductive Event where
  | handleConnection (client : Socket)
  | handleChat (message : String) (client : Socket)
  | markAsRead (senderId : String) (client : Socket)
  deriving DecidableEq

def Event.client : Event → Socket
  | .handleConnection client => client
  | .handleChat _ client => client
  | .markAsRead _ client => client

def ChatGateway.handle (g : ChatGateway) : Event → Except Exn ChatGateway
  | .handleConnection client => .ok (g.handleConnection client)
  | .handleChat message client => g.handleChat message client
  | .markAsRead senderId client => g.markAsRead senderId client

/-- A handler that throws has changed nothing. -/
def ChatGateway.step (g : ChatGateway) (e : Event) : ChatGateway :=
  match g.handle e with
  | .ok g' => g'
  | .error _ => g

def ChatGateway.run (h : List Event) : ChatGateway := h.foldl step empty

/-- The histories in which a socket is connected before it sends anything. -/
inductive History : List Event → Prop where
  | start : History []
  | connect {h : List Event} (client : Socket) : History h → History (h ++ [.handleConnection client])
  | chat {h : List Event} (message : String) {client : Socket} :
      History h → .handleConnection client ∈ h → History (h ++ [.handleChat message client])
  | mark {h : List Event} (senderId : String) {client : Socket} :
      History h → .handleConnection client ∈ h → History (h ++ [.markAsRead senderId client])

end NestUserService.Noti
