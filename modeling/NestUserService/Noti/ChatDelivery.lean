import NestUserService.Lib.Rooms
import NestUserService.Noti.InheritedNames

/-!
# Who receives a chat message

The gateway's calls on the socket server, carried out on its rooms. A socket is in a room
of its own id from the beginning, and in no room any more after it has disconnected. What
a socket receives is read off the history of the events.
-/

namespace NestUserService.Noti

open Lib NestUserService.Core

/-- What a socket receives. -/
inductive Delivery where
  | chat (payload : ChatMessage)
  | readUpdate (userId : String)
  deriving DecidableEq

def SocketCall.apply (t : Rooms Socket String Delivery) : SocketCall → Rooms Socket String Delivery
  | join client room => t.join client room
  | emitChat room payload => t.emit room (.chat payload)
  | emitReadUpdate room userId => t.emit room (.readUpdate userId)

inductive ServerEvent where
  | gateway (e : Event)
  | disconnect (client : Socket)
  deriving DecidableEq

structure ChatServer where
  gateway : ChatGateway
  rooms : Rooms Socket String Delivery

namespace ChatServer

def start : ChatServer := ⟨.empty, .empty⟩

/-- A handler runs, and its calls are carried out. -/
def handle (s : ChatServer) (e : Event) : ChatServer :=
  let g := ChatGateway.step { s.gateway with calls := [] } e
  ⟨g, g.calls.foldl SocketCall.apply s.rooms⟩

def step (s : ChatServer) : ServerEvent → ChatServer
  | .gateway (.handleConnection client) =>
    handle { s with rooms := s.rooms.join client client.id } (.handleConnection client)
  | .gateway e => s.handle e
  | .disconnect client => { s with rooms := s.rooms.leaveAll client }

def run (h : List ServerEvent) : ChatServer := h.foldl step start

end ChatServer

def ServerEvent.connection (client : Socket) : ServerEvent := .gateway (.handleConnection client)

/-- The socket has connected and is still there. -/
def Online (h : List ServerEvent) (client : Socket) : Prop :=
  .connection client ∈ h ∧ .disconnect client ∉ h

instance (h : List ServerEvent) (client : Socket) : Decidable (Online h client) :=
  inferInstanceAs (Decidable (_ ∧ _))

/-- The socket server does not give out ids that look like a room. -/
structure ServerId (id : String) : Prop where
  admins : id ≠ "admins"
  clients : id ≠ "clients"
  user : ∀ u, id ≠ userRoom u

/-- Every connection has an id of its own, and only sockets that are online send. -/
inductive ServerHistory : List ServerEvent → Prop where
  | start : ServerHistory []
  | connect {h : List ServerEvent} {client : Socket} (hist : ServerHistory h)
      (hnew : ∀ c, .connection c ∈ h → c.id ≠ client.id) (hid : ServerId client.id) :
      ServerHistory (h ++ [.connection client])
  | chat {h : List ServerEvent} {client : Socket} (message : String) (hist : ServerHistory h)
      (hon : Online h client) : ServerHistory (h ++ [.gateway (.handleChat message client)])
  | mark {h : List ServerEvent} {client : Socket} (senderId : String) (hist : ServerHistory h)
      (hon : Online h client) : ServerHistory (h ++ [.gateway (.markAsRead senderId client)])
  | disconnect {h : List ServerEvent} {client : Socket} (hist : ServerHistory h)
      (hon : Online h client) : ServerHistory (h ++ [.disconnect client])

/-- A client with this user id has been connected. -/
def ServerEvent.connects (u : String) : ServerEvent → Bool
  | .gateway e => e.connects u
  | .disconnect _ => false

/-- What an event sends to a socket that is online: to clients the messages of the admins,
and to admins those of the clients and what they have read. -/
def Event.sends (before : List ServerEvent) (s : Socket) : Event → List Delivery
  | .handleConnection _ => []
  | .handleChat message client =>
    if client.role = "admin" then
      if s.role = "admin" ∨ s.userId ∈ objectPrototype then []
      else [.chat ⟨"Admin", message, false⟩]
    else if s.role = "admin" ∧ client.userId ∉ objectPrototype then
      [.chat ⟨client.userId, message, false⟩]
    else []
  | .markAsRead _ client =>
    if s.role = "admin" ∧ client.userId ∉ objectPrototype ∧
        before.any (ServerEvent.connects client.userId) then
      [.readUpdate client.userId]
    else []

def ServerEvent.sends (before : List ServerEvent) (s : Socket) : ServerEvent → List Delivery
  | .gateway e => if Online before s then e.sends before s else []
  | .disconnect _ => []

/-- What the events after `before` send to the socket. -/
def expected (s : Socket) (before : List ServerEvent) : List ServerEvent → List Delivery
  | [] => []
  | e :: h => e.sends before s ++ expected s (before ++ [e]) h

theorem expected_concat (s : Socket) (before h : List ServerEvent) (e : ServerEvent) :
    expected s before (h ++ [e]) = expected s before h ++ e.sends (before ++ h) s := by
  induction h generalizing before with
  | nil => simp [expected]
  | cons e₀ h ih =>
    simp only [List.cons_append, expected, ih, List.append_assoc, List.nil_append]

theorem userRoom_inj {u v : String} : userRoom u = userRoom v ↔ u = v := by
  unfold userRoom
  rw [String.append_right_inj]

theorem userRoom_ne_admins (u : String) : userRoom u ≠ "admins" := by
  intro h
  have hchars := congrArg (fun s : String => s.toList.head?) h
  simp [userRoom] at hchars

theorem userRoom_ne_clients (u : String) : userRoom u ≠ "clients" := by
  intro h
  have hchars := congrArg (fun s : String => s.toList.head?) h
  simp [userRoom] at hchars

def roomsOf (s : Socket) : List String :=
  if s.role = "admin" then [s.id, "admins"] else [s.id, "clients", userRoom s.userId]

theorem mem_roomsOf_admins {s : Socket} (hid : ServerId s.id) :
    "admins" ∈ roomsOf s ↔ s.role = "admin" := by
  unfold roomsOf
  split_ifs with hrole
  · simp [hrole]
  · simp [hrole, hid.admins.symm, (userRoom_ne_admins s.userId).symm]

theorem mem_roomsOf_user {s : Socket} (hid : ServerId s.id) (u : String) :
    userRoom u ∈ roomsOf s ↔ s.role ≠ "admin" ∧ u = s.userId := by
  unfold roomsOf
  split_ifs with hrole
  · simp [hrole, (hid.user u).symm, userRoom_ne_admins u]
  · simp [hrole, (hid.user u).symm, userRoom_ne_clients u, userRoom_inj]

section Step

variable (s : ChatServer)

theorem isSome_step_iff (g : ChatGateway) (u : String) (e : Event) :
    ((g.step e).sessions.get? u).isSome ↔
      (g.sessions.get? u).isSome ∨ (u ∉ objectPrototype ∧ e.connects u = true) := by
  have hs := sessionStep_step g u e
  generalize (g.step e).sessions.get? u = o' at hs
  cases hs with
  | change f _ hc =>
    rw [Option.isSome_map]
    refine ⟨Or.inl, fun h => h.elim id fun hnew => (hc hnew.2).resolve_left hnew.1⟩
  | create hc hu _ => exact ⟨fun _ => Or.inr ⟨hu, hc⟩, fun _ => rfl⟩

/-- The rooms that the gateway lets a socket join. -/
def joinedRooms (client : Socket) : List String :=
  if client.role = "admin" then ["admins"] else ["clients", userRoom client.userId]

theorem calls_handleConnection (g : ChatGateway) (client : Socket) :
    (g.handleConnection client).calls =
      g.calls ++ (joinedRooms client).map (SocketCall.join client) := by
  unfold ChatGateway.handleConnection joinedRooms
  by_cases hrole : client.role = "admin"
  · rw [if_pos hrole, if_pos hrole]
    rfl
  · rw [if_neg hrole, if_neg hrole]
    dsimp only
    split
    · simp [ChatGateway.call]
    · simp [ChatGateway.call]

theorem mem_foldl_join {t : Rooms Socket String Delivery} {client c : Socket} {r : String}
    (rooms : List String) :
    (r, c) ∈ ((rooms.map (SocketCall.join client)).foldl SocketCall.apply t).members ↔
      (c = client ∧ r ∈ rooms) ∨ (r, c) ∈ t.members := by
  induction rooms generalizing t with
  | nil => simp
  | cons r' rooms ih =>
    rw [List.map_cons, List.foldl_cons, ih, SocketCall.apply, Rooms.mem_join, List.mem_cons]
    tauto

theorem mem_connection {client c : Socket} {r : String} :
    (r, c) ∈ (s.step (.connection client)).rooms.members ↔
      (c = client ∧ r ∈ roomsOf client) ∨ (r, c) ∈ s.rooms.members := by
  show (r, c) ∈ (List.foldl SocketCall.apply (s.rooms.join client client.id)
    (ChatGateway.handleConnection _ client).calls).members ↔ _
  rw [calls_handleConnection, List.nil_append, mem_foldl_join, Rooms.mem_join]
  have hrooms : r ∈ roomsOf client ↔ r = client.id ∨ r ∈ joinedRooms client := by
    unfold roomsOf joinedRooms
    split_ifs <;> simp
  rw [hrooms]
  tauto

theorem inbox_foldl_join {t : Rooms Socket String Delivery} (client c : Socket)
    (rooms : List String) :
    ((rooms.map (SocketCall.join client)).foldl SocketCall.apply t).inbox c = t.inbox c := by
  induction rooms generalizing t with
  | nil => rfl
  | cons r rooms ih =>
    rw [List.map_cons, List.foldl_cons, ih]
    rfl

theorem inbox_connection (client c : Socket) :
    (s.step (.connection client)).rooms.inbox c = s.rooms.inbox c := by
  show (List.foldl SocketCall.apply (s.rooms.join client client.id)
    (ChatGateway.handleConnection _ client).calls).inbox c = _
  rw [calls_handleConnection, List.nil_append, inbox_foldl_join, Rooms.inbox_join]

theorem calls_foldl_sendToUser (payload : ChatMessage) (users : List String) (g : ChatGateway) :
    (users.foldl (ChatGateway.sendToUser payload) g).calls =
      g.calls ++ users.map fun u => .emitChat (userRoom u) payload := by
  induction users generalizing g with
  | nil => simp
  | cons u users ih =>
    rw [List.foldl_cons, ih]
    simp [ChatGateway.sendToUser, ChatGateway.call]

theorem foldl_emitChat (payload : ChatMessage) (users : List String)
    (t : Rooms Socket String Delivery) :
    (users.map fun u => SocketCall.emitChat (userRoom u) payload).foldl SocketCall.apply t =
      (users.map userRoom).foldl (fun t r => t.emit r (.chat payload)) t := by
  rw [List.foldl_map, List.foldl_map]
  rfl

/-- The message of an admin goes to the rooms of all users with a session. -/
theorem rooms_broadcast {client : Socket} (hrole : client.role = "admin") (message : String) :
    (s.step (.gateway (.handleChat message client))).rooms =
      ((objectKeys s.gateway.sessions.keys).map userRoom).foldl
        (fun t r => t.emit r (.chat ⟨"Admin", message, false⟩)) s.rooms := by
  show List.foldl SocketCall.apply s.rooms (ChatGateway.step _ _).calls = _
  simp only [ChatGateway.step, ChatGateway.handle, ChatGateway.handleChat, if_pos hrole]
  rw [calls_foldl_sendToUser, List.nil_append, foldl_emitChat]

/-- The message of a client goes to the admins. -/
theorem rooms_clientChat {client : Socket} (hrole : client.role ≠ "admin") (message : String) :
    (s.step (.gateway (.handleChat message client))).rooms =
      if (s.gateway.sessions.get? client.userId).isSome then
        s.rooms.emit "admins" (.chat ⟨client.userId, message, false⟩)
      else s.rooms := by
  show List.foldl SocketCall.apply s.rooms (ChatGateway.step _ _).calls = _
  simp only [ChatGateway.step, ChatGateway.handle, ChatGateway.handleChat, if_neg hrole,
    ChatGateway.property]
  cases s.gateway.sessions.get? client.userId with
  | some session => rfl
  | none =>
    by_cases hname : client.userId ∈ objectPrototype
    · simp [hname]
    · simp [hname]

theorem rooms_markAsRead (senderId : String) (client : Socket) :
    (s.step (.gateway (.markAsRead senderId client))).rooms =
      if (s.gateway.sessions.get? client.userId).isSome then
        s.rooms.emit "admins" (.readUpdate client.userId)
      else s.rooms := by
  show List.foldl SocketCall.apply s.rooms (ChatGateway.step _ _).calls = _
  simp only [ChatGateway.step, ChatGateway.handle, ChatGateway.markAsRead, ChatGateway.property]
  cases s.gateway.sessions.get? client.userId with
  | some session => rfl
  | none =>
    by_cases hname : client.userId ∈ objectPrototype
    · simp [hname]
    · simp [hname]

theorem gateway_step (e : Event) :
    (s.step (.gateway e)).gateway = ChatGateway.step { s.gateway with calls := [] } e := by
  cases e with
  | handleConnection client => rfl
  | handleChat message client => rfl
  | markAsRead senderId client => rfl

end Step

section Histories

variable {h : List ServerEvent} {client c : Socket}

theorem run_concat_server (h : List ServerEvent) (e : ServerEvent) :
    ChatServer.run (h ++ [e]) = (ChatServer.run h).step e := by
  unfold ChatServer.run
  rw [List.foldl_append]
  rfl

theorem ServerHistory.serverId (hist : ServerHistory h) (hc : .connection c ∈ h) :
    ServerId c.id := by
  induction hist with
  | start => cases hc
  | connect _ _ hid ih =>
    rcases List.mem_append.mp hc with hc | hc
    · exact ih hc
    · cases List.mem_singleton.mp hc
      exact hid
  | chat _ _ _ ih => exact ih (by simpa [ServerEvent.connection] using hc)
  | mark _ _ _ ih => exact ih (by simpa [ServerEvent.connection] using hc)
  | disconnect _ _ ih => exact ih (by simpa [ServerEvent.connection] using hc)

/-- Who has disconnected had connected. -/
theorem ServerHistory.connected (hist : ServerHistory h) (hc : .disconnect c ∈ h) :
    .connection c ∈ h := by
  induction hist with
  | start => cases hc
  | connect _ _ _ ih =>
    exact List.mem_append_left _ (ih (by simpa [ServerEvent.connection] using hc))
  | chat _ _ _ ih => exact List.mem_append_left _ (ih (by simpa using hc))
  | mark _ _ _ ih => exact List.mem_append_left _ (ih (by simpa using hc))
  | disconnect _ hon ih =>
    refine List.mem_append_left _ ?_
    rcases List.mem_append.mp hc with hc | hc
    · exact ih hc
    · cases List.mem_singleton.mp hc
      exact hon.1

theorem online_connection (hist : ServerHistory h)
    (hnew : ∀ c, .connection c ∈ h → c.id ≠ client.id) :
    Online (h ++ [.connection client]) c ↔ c = client ∨ Online h c := by
  have hgone : ServerEvent.disconnect client ∉ h := fun hd => hnew client (hist.connected hd) rfl
  unfold Online
  simp only [List.mem_append, List.mem_singleton, ServerEvent.connection, reduceCtorEq, or_false,
    ServerEvent.gateway.injEq, Event.handleConnection.injEq]
  constructor
  · rintro ⟨hc | rfl, hd⟩
    · exact Or.inr ⟨hc, hd⟩
    · exact Or.inl rfl
  · rintro (rfl | ⟨hc, hd⟩)
    · exact ⟨Or.inr rfl, hgone⟩
    · exact ⟨Or.inl hc, hd⟩

theorem online_message {e : Event} (he : ∀ client, e ≠ .handleConnection client) :
    Online (h ++ [.gateway e]) c ↔ Online h c := by
  have hne : ServerEvent.connection c ≠ .gateway e := fun heq => he c (by
    unfold ServerEvent.connection at heq
    exact (ServerEvent.gateway.inj heq).symm)
  unfold Online
  simp [hne]

theorem online_disconnect :
    Online (h ++ [.disconnect client]) c ↔ Online h c ∧ c ≠ client := by
  unfold Online
  simp only [ServerEvent.connection, List.mem_append, List.mem_singleton, reduceCtorEq, or_false,
    ServerEvent.disconnect.injEq, not_or]
  tauto

/-- What the state of the server says about its history. -/
structure Delivered (h : List ServerEvent) (s : ChatServer) : Prop where
  sessions : ∀ u, (s.gateway.sessions.get? u).isSome ↔
    u ∉ objectPrototype ∧ h.any (ServerEvent.connects u) = true
  rooms : ∀ r c, (r, c) ∈ s.rooms.members ↔ Online h c ∧ r ∈ roomsOf c
  inbox : ∀ c, s.rooms.inbox c = expected c [] h

variable {s : ChatServer}

theorem Delivered.sessions_step (hs : Delivered h s) (e : Event) (u : String) :
    ((s.step (.gateway e)).gateway.sessions.get? u).isSome ↔
      u ∉ objectPrototype ∧
        (h ++ [ServerEvent.gateway e]).any (ServerEvent.connects u) = true := by
  rw [gateway_step, isSome_step_iff, List.any_append, Bool.or_eq_true]
  have hsome := hs.sessions u
  simp only [List.any_cons, List.any_nil, Bool.or_false, ServerEvent.connects]
  tauto

theorem Delivered.connection (hist : ServerHistory h) (hs : Delivered h s)
    (hnew : ∀ c, .connection c ∈ h → c.id ≠ client.id) :
    Delivered (h ++ [.connection client]) (s.step (.connection client)) := by
  refine ⟨hs.sessions_step _, fun r c => ?_, fun c => ?_⟩
  · rw [mem_connection, online_connection hist hnew, hs.rooms]
    constructor
    · rintro (⟨rfl, hr⟩ | ⟨hc, hr⟩)
      · exact ⟨Or.inl rfl, hr⟩
      · exact ⟨Or.inr hc, hr⟩
    · rintro ⟨rfl | hc, hr⟩
      · exact Or.inl ⟨rfl, hr⟩
      · exact Or.inr ⟨hc, hr⟩
  · rw [inbox_connection, hs.inbox, expected_concat]
    simp [ServerEvent.connection, ServerEvent.sends, Event.sends]

theorem Delivered.disconnect (hs : Delivered h s) :
    Delivered (h ++ [.disconnect client]) (s.step (.disconnect client)) := by
  refine ⟨fun u => ?_, fun r c => ?_, fun c => ?_⟩
  · have hsame : (h ++ [ServerEvent.disconnect client]).any (ServerEvent.connects u) =
        h.any (ServerEvent.connects u) := by
      rw [List.any_append]
      exact Bool.or_false _
    rw [hsame]
    exact hs.sessions u
  · show (r, c) ∈ (s.rooms.leaveAll client).members ↔ _
    rw [Rooms.mem_leaveAll, hs.rooms, online_disconnect]
    tauto
  · show (s.rooms.leaveAll client).inbox c = _
    rw [Rooms.inbox_leaveAll, hs.inbox, expected_concat]
    simp [ServerEvent.sends]

/-- An event that is no connection leaves the rooms, and sends what it should. -/
theorem Delivered.message {e : Event} (he : ∀ client, e ≠ .handleConnection client)
    (hs : Delivered h s) (hmembers : (s.step (.gateway e)).rooms.members = s.rooms.members)
    (hinbox : ∀ c, (s.step (.gateway e)).rooms.inbox c =
      s.rooms.inbox c ++ if Online h c then e.sends h c else []) :
    Delivered (h ++ [.gateway e]) (s.step (.gateway e)) := by
  refine ⟨hs.sessions_step e, fun r c => ?_, fun c => ?_⟩
  · rw [hmembers, online_message he]
    exact hs.rooms r c
  · rw [hinbox, hs.inbox, expected_concat]
    rfl

/-- What is sent to the admins reaches the sockets of the admins that are online. -/
theorem Delivered.emit_admins (hist : ServerHistory h) (hs : Delivered h s) (payload : Delivery)
    (c : Socket) : (s.rooms.emit "admins" payload).inbox c =
      s.rooms.inbox c ++ if Online h c ∧ c.role = "admin" then [payload] else [] := by
  have hmem : ("admins", c) ∈ s.rooms.members ↔ Online h c ∧ c.role = "admin" := by
    rw [hs.rooms]
    exact and_congr_right fun hon => mem_roomsOf_admins (hist.serverId hon.1)
  by_cases hc : Online h c ∧ c.role = "admin"
  · rw [Rooms.inbox_emit_of_mem _ (hmem.mpr hc), if_pos hc]
  · rw [Rooms.inbox_emit_of_not_mem _ fun hm => hc (hmem.mp hm), if_neg hc, List.append_nil]

/-- A socket that is online has made its user a session. -/
theorem any_connects (hon : Online h c) (hrole : c.role ≠ "admin") :
    h.any (ServerEvent.connects c.userId) = true :=
  List.any_eq_true.mpr ⟨_, hon.1, by
    simp [ServerEvent.connection, ServerEvent.connects, Event.connects, hrole]⟩

theorem Delivered.mem_user (hist : ServerHistory h) (hs : Delivered h s) (u : String) :
    (userRoom u, c) ∈ s.rooms.members ↔ Online h c ∧ c.role ≠ "admin" ∧ u = c.userId := by
  rw [hs.rooms]
  exact and_congr_right fun hon => mem_roomsOf_user (hist.serverId hon.1) u

/-- The gateway keeps a session for the user of a client that is online. -/
theorem Delivered.mem_sessions (hs : Delivered h s) (hon : Online h c) (hclient : c.role ≠ "admin")
    (hname : c.userId ∉ objectPrototype) : c.userId ∈ s.gateway.sessions.keys := by
  by_contra hno
  have hsome := (hs.sessions c.userId).mpr ⟨hname, any_connects hon hclient⟩
  rw [OrderedMap.get?_eq_none.mpr hno] at hsome
  cases hsome

theorem Delivered.broadcast (hist : ServerHistory h) (hs : Delivered h s)
    (hrole : client.role = "admin") (message : String) :
    Delivered (h ++ [.gateway (.handleChat message client)])
      (s.step (.gateway (.handleChat message client))) := by
  refine hs.message (by simp) ?_ fun c => ?_
  · rw [rooms_broadcast s hrole, Rooms.members_foldl_emit]
  · have hnodup : ((objectKeys s.gateway.sessions.keys).map userRoom).Nodup :=
      (nodup_objectKeys s.gateway.sessions.nodup_keys).map fun _ _ => userRoom_inj.mp
    rw [rooms_broadcast s hrole]
    simp only [Event.sends, if_pos hrole]
    by_cases hc : Online h c ∧ c.role ≠ "admin" ∧ c.userId ∉ objectPrototype
    · obtain ⟨hon, hclient, hname⟩ := hc
      have hsession := hs.mem_sessions hon hclient hname
      rw [Rooms.inbox_foldl_emit_once _ _ hnodup (r := userRoom c.userId), if_pos hon,
        if_neg (by simp [hclient, hname])]
      · exact List.mem_map_of_mem (mem_objectKeys.mpr hsession)
      · intro r hr
        obtain ⟨u, -, rfl⟩ := List.mem_map.mp hr
        rw [hs.mem_user hist, userRoom_inj]
        exact ⟨fun h => h.2.2, fun h => ⟨hon, hclient, h⟩⟩
    · have hsilent : (if Online h c then
          if c.role = "admin" ∨ c.userId ∈ objectPrototype then []
          else [Delivery.chat ⟨"Admin", message, false⟩] else []) = [] := by
        split_ifs with hon hsort
        · rfl
        · rw [not_or] at hsort
          exact absurd ⟨hon, hsort⟩ hc
        · rfl
      rw [hsilent, List.append_nil]
      refine Rooms.inbox_foldl_emit_none _ _ fun r hr hr' => hc ?_
      obtain ⟨u, hu, rfl⟩ := List.mem_map.mp hr
      obtain ⟨hon, hclient, rfl⟩ := (hs.mem_user hist u).mp hr'
      obtain ⟨session, hsession⟩ := OrderedMap.mem_keys.mp (mem_objectKeys.mp hu)
      exact ⟨hon, hclient, ((hs.sessions c.userId).mp (by rw [hsession]; rfl)).1⟩

theorem Delivered.clientChat (hist : ServerHistory h) (hs : Delivered h s)
    (hon : Online h client) (hrole : client.role ≠ "admin") (message : String) :
    Delivered (h ++ [.gateway (.handleChat message client)])
      (s.step (.gateway (.handleChat message client))) := by
  have hsession : (s.gateway.sessions.get? client.userId).isSome ↔
      client.userId ∉ objectPrototype := by
    rw [hs.sessions]
    exact ⟨fun h => h.1, fun h => ⟨h, any_connects hon hrole⟩⟩
  refine hs.message (by simp) ?_ fun c => ?_
  · rw [rooms_clientChat s hrole]
    split_ifs <;> rfl
  · rw [rooms_clientChat s hrole]
    simp only [Event.sends, if_neg hrole]
    by_cases hname : client.userId ∈ objectPrototype
    · rw [if_neg fun h => hsession.mp h hname]
      simp [hname]
    · rw [if_pos (hsession.mpr hname), hs.emit_admins hist]
      simp only [hname, not_false_eq_true, and_true]
      split_ifs <;> tauto

theorem Delivered.mark (hist : ServerHistory h) (hs : Delivered h s) (senderId : String)
    (client : Socket) : Delivered (h ++ [.gateway (.markAsRead senderId client)])
      (s.step (.gateway (.markAsRead senderId client))) := by
  refine hs.message (by simp) ?_ fun c => ?_
  · rw [rooms_markAsRead]
    split_ifs <;> rfl
  · rw [rooms_markAsRead]
    simp only [Event.sends]
    have hsome := hs.sessions client.userId
    by_cases hsession : (s.gateway.sessions.get? client.userId).isSome
    · obtain ⟨hname, hany⟩ := hsome.mp hsession
      rw [if_pos hsession, hs.emit_admins hist]
      simp only [hname, hany, not_false_eq_true, and_true]
      split_ifs <;> tauto
    · rw [if_neg hsession]
      have hno : ¬ (c.role = "admin" ∧ client.userId ∉ objectPrototype ∧
          h.any (ServerEvent.connects client.userId) = true) :=
        fun hall => hsession (hsome.mpr hall.2)
      rw [if_neg hno]
      simp

/-- After every history, a socket has received exactly what the events of its time online
send to it: a client hears the admins and nobody else, and no client but those with an
inherited name misses a message. -/
theorem inbox_eq_expected (hist : ServerHistory h) (c : Socket) :
    (ChatServer.run h).rooms.inbox c = expected c [] h := by
  have hrun : Delivered h (ChatServer.run h) := by
    induction hist with
    | start => exact ⟨fun u => by simp [ChatServer.run, ChatServer.start, ChatGateway.empty,
        OrderedMap.empty, OrderedMap.get?], fun r c => by simp [ChatServer.run, ChatServer.start,
        Online], fun c => rfl⟩
    | connect hist hnew hid ih =>
      rw [run_concat_server]
      exact ih.connection hist hnew
    | @chat h client message hist hon ih =>
      rw [run_concat_server]
      by_cases hrole : client.role = "admin"
      · exact ih.broadcast hist hrole message
      · exact ih.clientChat hist hon hrole message
    | mark senderId hist hon ih =>
      rw [run_concat_server]
      exact ih.mark hist senderId _
    | disconnect hist hon ih =>
      rw [run_concat_server]
      exact ih.disconnect
  exact hrun.inbox c

def conversation : List ServerEvent :=
  [.connection clientSample, .connection adminSample,
    .gateway (.handleChat "question" clientSample), .gateway (.handleChat "answer" adminSample),
    .gateway (.markAsRead "Admin" clientSample)]

theorem serverId_sample {id : String} (h : id.toList.head? = some 's') : ServerId id where
  admins heq := by
    rw [heq] at h
    exact absurd h (by decide)
  clients heq := by
    rw [heq] at h
    exact absurd h (by decide)
  user u heq := by
    rw [heq] at h
    simp [userRoom] at h

theorem serverHistory_conversation : ServerHistory conversation := by
  have hclient : ServerHistory [.connection clientSample] :=
    .connect .start (by simp) (serverId_sample rfl)
  have hboth : ServerHistory [.connection clientSample, .connection adminSample] := by
    refine hclient.connect (fun c hc => ?_) (serverId_sample rfl)
    cases List.mem_singleton.mp hc
    decide
  exact .mark "Admin" (.chat "answer" (.chat "question" hboth (by decide)) (by decide)) (by decide)

theorem inbox_of_conversation :
    (ChatServer.run conversation).rooms.inbox adminSample =
      [.chat ⟨"u1", "question", false⟩, .readUpdate "u1"] ∧
    (ChatServer.run conversation).rooms.inbox clientSample = [.chat ⟨"Admin", "answer", false⟩] :=
  ⟨(inbox_eq_expected serverHistory_conversation adminSample).trans (by decide),
    (inbox_eq_expected serverHistory_conversation clientSample).trans (by decide)⟩

end Histories

end NestUserService.Noti
