import NestUserService.Noti.ChatDelivery

/-!
# Who receives a notification

The gateway of the namespace `notifications` keeps no state of its own: it lets sockets
join the room of their user, and sends to that room or to everybody. Everybody is the room
`none`, and `some` is a room with a name.
-/

namespace NestUserService.Noti.NotificationGateway

open Lib NestUserService.Core

/-- A socket with the user id of its handshake, which may be missing. -/
structure Client where
  id : String
  userId : Option String
  deriving DecidableEq

inductive Event (π : Type) where
  | handleConnection (client : Client)
  | handleDisconnect (client : Client)
  | handleAck (client : Client) (data : π)
  | sendNotificationToUser (userId : String) (payload : π)
  | sendNotificationToAll (payload : π)

variable {π : Type}

abbrev Server (π : Type) := Rooms Client (Option String) π

/-- The server has put the socket into the room of its id; an empty user id is no user id. -/
def handleConnection (t : Server π) (client : Client) : Server π :=
  let t := (t.join client none).join client (some client.id)
  match client.userId with
  | some userId => if userId ≠ "" then t.join client (some (userRoom userId)) else t
  | none => t

def step (t : Server π) : Event π → Server π
  | .handleConnection client => handleConnection t client
  | .handleDisconnect client => t.leaveAll client
  | .handleAck _ _ => t
  | .sendNotificationToUser userId payload => t.emit (some (userRoom userId)) payload
  | .sendNotificationToAll payload => t.emit none payload

def run (h : List (Event π)) : Server π := h.foldl step .empty

/-- The socket is one of the user. -/
def Client.IsOf (c : Client) (u : String) : Prop := c.userId = some u ∧ u ≠ ""

instance (c : Client) (u : String) : Decidable (c.IsOf u) :=
  inferInstanceAs (Decidable (_ ∧ _))

/-- The socket is there after the event. -/
def Event.online (c : Client) (online : Bool) : Event π → Bool
  | handleConnection client => online || client = c
  | handleDisconnect client => online && client ≠ c
  | _ => online

/-- What the event sends to the socket while it is there. -/
def Event.sends (c : Client) : Event π → List π
  | sendNotificationToUser userId payload => if c.IsOf userId then [payload] else []
  | sendNotificationToAll payload => [payload]
  | _ => []

/-- What the events send to the socket between its connections and its disconnections. -/
def expected (c : Client) (online : Bool) : List (Event π) → List π
  | [] => []
  | e :: h => (if online then e.sends c else []) ++ expected c (e.online c online) h

/-- The socket is in the rooms that reach it, or in none. -/
structure InRooms (c : Client) (online : Bool) (t : Server π) : Prop where
  all : (none, c) ∈ t.members ↔ online = true
  user : ∀ u, (some (userRoom u), c) ∈ t.members ↔ online = true ∧ c.IsOf u

variable {c client : Client} {t : Server π} {online : Bool}

theorem mem_handleConnection {r : Option String} :
    (r, c) ∈ (handleConnection t client).members ↔
      (c = client ∧ (r = none ∨ r = some client.id ∨
        ∃ u, client.IsOf u ∧ r = some (userRoom u))) ∨ (r, c) ∈ t.members := by
  have hplain : (r, c) ∈ ((t.join client none).join client (some client.id)).members ↔
      (c = client ∧ (r = none ∨ r = some client.id)) ∨ (r, c) ∈ t.members := by
    rw [Rooms.mem_join, Rooms.mem_join]
    tauto
  unfold handleConnection
  cases huser : client.userId with
  | none =>
    rw [hplain]
    simp [Client.IsOf, huser]
  | some userId =>
    by_cases hempty : userId = ""
    · simp only [hempty, ne_eq, not_true_eq_false, if_false, hplain]
      simp [Client.IsOf, huser, hempty]
    · simp only [ne_eq, hempty, not_false_eq_true, if_true]
      rw [Rooms.mem_join, hplain]
      have hof : (∃ u, client.IsOf u ∧ r = some (userRoom u)) ↔ r = some (userRoom userId) := by
        simp [Client.IsOf, huser, hempty]
      rw [hof]
      tauto

theorem inbox_handleConnection : (handleConnection t client).inbox c = t.inbox c := by
  unfold handleConnection
  cases client.userId with
  | none => rfl
  | some userId =>
    dsimp only
    split_ifs <;> rfl

/-- One event keeps the socket in the rooms that reach it. -/
theorem InRooms.after (hid : ∀ u, c.id ≠ userRoom u) (h : InRooms c online t) (e : Event π) :
    InRooms c (e.online c online) (step t e) := by
  cases e with
  | handleConnection client =>
    refine ⟨?_, fun u => ?_⟩
    · show (none, c) ∈ (handleConnection t client).members ↔ (online || client = c) = true
      rw [mem_handleConnection, h.all, Bool.or_eq_true, decide_eq_true_eq]
      simp only [true_or, and_true]
      rw [or_comm, eq_comm (a := c)]
    · show (some (userRoom u), c) ∈ (handleConnection t client).members ↔
        (online || client = c) = true ∧ c.IsOf u
      rw [mem_handleConnection, h.user]
      by_cases hc : c = client
      · subst hc
        have hroom : (∃ v, c.IsOf v ∧ some (userRoom u) = some (userRoom v)) ↔ c.IsOf u := by
          simp only [Option.some.injEq, userRoom_inj]
          exact ⟨fun ⟨v, hv, huv⟩ => huv ▸ hv, fun hu => ⟨u, hu, rfl⟩⟩
        rw [hroom]
        simp [(hid u).symm]
      · simp [hc, Ne.symm hc]
  | handleDisconnect client =>
    refine ⟨?_, fun u => ?_⟩
    · show (none, c) ∈ (t.leaveAll client).members ↔ (online && client ≠ c) = true
      rw [Rooms.mem_leaveAll, h.all, Bool.and_eq_true, decide_eq_true_eq, ne_comm]
    · show (some (userRoom u), c) ∈ (t.leaveAll client).members ↔
        (online && client ≠ c) = true ∧ c.IsOf u
      rw [Rooms.mem_leaveAll, h.user, Bool.and_eq_true, decide_eq_true_eq, ne_comm]
      tauto
  | handleAck client data => exact h
  | sendNotificationToUser userId payload => exact ⟨h.all, h.user⟩
  | sendNotificationToAll payload => exact ⟨h.all, h.user⟩

/-- A socket in its rooms receives what the event sends to it. -/
theorem InRooms.inbox_step (h : InRooms c online t) (e : Event π) :
    (step t e).inbox c = t.inbox c ++ if online then e.sends c else [] := by
  cases e with
  | handleConnection client =>
    show (handleConnection t client).inbox c = _
    rw [inbox_handleConnection]
    simp [Event.sends]
  | handleDisconnect client =>
    show (t.leaveAll client).inbox c = _
    simp [Event.sends]
  | handleAck client data =>
    show t.inbox c = _
    simp [Event.sends]
  | sendNotificationToUser userId payload =>
    show (t.emit (some (userRoom userId)) payload).inbox c = _
    by_cases hmem : (some (userRoom userId), c) ∈ t.members
    · obtain ⟨hon, hof⟩ := (h.user userId).mp hmem
      rw [Rooms.inbox_emit_of_mem t hmem, if_pos hon, Event.sends, if_pos hof]
    · rw [Rooms.inbox_emit_of_not_mem t hmem]
      have hno := mt (h.user userId).mpr hmem
      cases online with
      | false => simp
      | true =>
        have hof : ¬ c.IsOf userId := fun hof => hno ⟨rfl, hof⟩
        simp [Event.sends, hof]
  | sendNotificationToAll payload =>
    show (t.emit none payload).inbox c = _
    cases honline : online with
    | true => exact Rooms.inbox_emit_of_mem t (h.all.mpr honline) payload
    | false =>
      rw [Rooms.inbox_emit_of_not_mem t (fun hmem => by simp [h.all.mp hmem] at honline)]
      simp

theorem inbox_foldl_step (hid : ∀ u, c.id ≠ userRoom u) (hrooms : InRooms c online t)
    (h : List (Event π)) : (h.foldl step t).inbox c = t.inbox c ++ expected c online h := by
  induction h generalizing t online with
  | nil => exact (List.append_nil _).symm
  | cons e h ih =>
    rw [List.foldl_cons, ih (hrooms.after hid e), hrooms.inbox_step, expected, List.append_assoc]

/-- After every run, a socket has received exactly what was sent to its user or to everybody
between its connections and its disconnections, in order and once each. -/
theorem notified_eq_expected (hid : ∀ u, c.id ≠ userRoom u) (h : List (Event π)) :
    (run h).inbox c = expected c false h := by
  have hstart : InRooms c false (Rooms.empty : Server π) := ⟨by simp, by simp⟩
  exact inbox_foldl_step hid hstart h

def sampleNotifications : List (Event String) :=
  [.handleConnection ⟨"s1", some "123"⟩, .handleConnection ⟨"s2", some ""⟩,
    .sendNotificationToUser "123" "first", .sendNotificationToUser "" "second",
    .handleDisconnect ⟨"s1", some "123"⟩, .sendNotificationToAll "third"]

theorem notified_of_sample :
    (run sampleNotifications).inbox ⟨"s1", some "123"⟩ = ["first"] ∧
      (run sampleNotifications).inbox ⟨"s2", some ""⟩ = ["third"] :=
  ⟨(notified_eq_expected (serverId_sample rfl).user _).trans (by decide),
    (notified_eq_expected (serverId_sample rfl).user _).trans (by decide)⟩

end NestUserService.Noti.NotificationGateway
