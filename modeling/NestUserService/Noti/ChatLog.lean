import Mathlib.Data.List.Induction
import Mathlib.Data.List.TakeWhile
import NestUserService.Lib.MarkedLog
import NestUserService.Noti.ChatGateway

/-!
# The chat log of a user

What one event does to the session of one user, and from it what a session holds after a
whole history: its entries are those that the history adds from the user's first
connection on, each marked when a later event marks it.
-/

namespace NestUserService.Noti

open Lib NestUserService.Core

/-- The event is a connection of a client with this user id. -/
def Event.connects (u : String) : Event → Bool
  | .handleConnection client => client.role != "admin" && client.userId == u
  | _ => false

/-- The entry that a chat message adds to the log of `u`: its sender and its text. -/
def Event.entry (u : String) : Event → Option (String × String)
  | .handleChat message client =>
    if client.role = "admin" then some ("Admin", message)
    else if client.userId = u then some (u, message)
    else none
  | _ => none

/-- A socket of `u` names the sender of an entry. -/
def Event.marks (u : String) : Event → String × String → Bool
  | .markAsRead senderId client, e => client.userId == u && e.1 == senderId
  | _, _ => false

/-- The message is one of `u`'s own. -/
def Event.sentBy (u : String) : Event → Bool
  | .handleChat _ client => client.role != "admin" && client.userId == u
  | _ => false

def toMessage (p : (String × String) × Bool) : ChatMessage := ⟨p.1.1, p.1.2, p.2⟩

/-- The history from the first connection of `u` on. -/
def sinceConnection (u : String) (h : List Event) : List Event :=
  h.dropWhile fun e => !e.connects u

def chatLog (u : String) (h : List Event) : List ChatMessage :=
  (MarkedLog.log (Event.entry u) (Event.marks u) (sinceConnection u h)).map toMessage

/-- The session that the history asks for. -/
def sessionOf (u : String) (h : List Event) : Option ChatSession :=
  if h.any (Event.connects u) then some ⟨u, chatLog u h⟩ else none

/-- An event on the session of `u`. -/
def Event.onSession (u : String) (e : Event) : Option ChatSession → Option ChatSession
  | some s => some { s with
      messages := (s.messages.map fun m =>
          if e.marks u (m.sender, m.message) then { m with read := true } else m) ++
        (e.entry u).toList.map fun p => ⟨p.1, p.2, false⟩ }
  | none => if e.connects u then some ⟨u, []⟩ else none

section Step

variable {u : String} {e : Event}

theorem onSession_quiet (hentry : e.entry u = none) (hmarks : ∀ p, e.marks u p = false)
    (hconn : e.connects u = false) (o : Option ChatSession) : e.onSession u o = o := by
  cases o with
  | none => simp [Event.onSession, hconn]
  | some s => simp [Event.onSession, hentry, hmarks]

theorem get?_update_self (f : ChatSession → ChatSession) (sessions : OrderedMap ChatSession) :
    (update f sessions u).get? u = (sessions.get? u).map f := by
  unfold update
  cases hs : sessions.get? u with
  | none => simp [hs]
  | some s => simp

theorem get?_update_ne (f : ChatSession → ChatSession) (sessions : OrderedMap ChatSession)
    {v : String} (hne : u ≠ v) : (update f sessions v).get? u = sessions.get? u := by
  unfold update
  cases sessions.get? v with
  | none => rfl
  | some s => exact OrderedMap.get?_set_ne sessions _ hne

theorem mem_objectKeys {keys : List String} {k : String} : k ∈ objectKeys keys ↔ k ∈ keys := by
  unfold objectKeys
  rw [List.mem_append, List.mem_insertionSort, List.mem_filter, List.mem_filter]
  cases (arrayIndex? k).isSome <;> simp

theorem nodup_objectKeys {keys : List String} (hn : keys.Nodup) : (objectKeys keys).Nodup := by
  unfold objectKeys
  apply List.Nodup.append
  · exact (List.perm_insertionSort _ _).nodup_iff.mpr (hn.filter _)
  · exact hn.filter _
  · intro k hk hk'
    rw [List.mem_insertionSort, List.mem_filter] at hk
    rw [List.mem_filter, hk.2] at hk'
    exact absurd hk'.2 (by decide)

/-- The loop reaches every listed user once. -/
theorem get?_foldl_sendToUser (payload : ChatMessage) (users : List String) (hn : users.Nodup)
    (g : ChatGateway) :
    ((users.foldl (ChatGateway.sendToUser payload) g).sessions).get? u =
      if u ∈ users then (g.sessions.get? u).map (ChatSession.push payload)
      else g.sessions.get? u := by
  induction users generalizing g with
  | nil => simp
  | cons v users ih =>
    obtain ⟨hv, hn⟩ := List.nodup_cons.mp hn
    rw [List.foldl_cons, ih hn]
    show (if u ∈ users then ((update (ChatSession.push payload) g.sessions v).get? u).map _
      else (update (ChatSession.push payload) g.sessions v).get? u) = _
    by_cases huv : u = v
    · subst huv
      rw [if_neg hv, get?_update_self, if_pos List.mem_cons_self]
    · rw [get?_update_ne _ _ huv]
      simp [huv]

/-- An admin's message is added to every session. -/
theorem get?_broadcast (payload : ChatMessage) (g : ChatGateway) :
    (((objectKeys g.sessions.keys).foldl (ChatGateway.sendToUser payload) g).sessions).get? u =
      (g.sessions.get? u).map (ChatSession.push payload) := by
  rw [get?_foldl_sendToUser payload _ (nodup_objectKeys g.sessions.nodup_keys)]
  by_cases hu : u ∈ g.sessions.keys
  · rw [if_pos (mem_objectKeys.mpr hu)]
  · rw [if_neg fun h => hu (mem_objectKeys.mp h), OrderedMap.get?_eq_none.mpr hu, Option.map_none]

theorem property_of_ownName {g : ChatGateway} (h : u ∉ objectPrototype) :
    g.property u = match g.sessions.get? u with
      | some s => .session s
      | none => .undefined := by
  unfold ChatGateway.property
  cases g.sessions.get? u with
  | none => simp [h]
  | some s => rfl

theorem get?_handleConnection (g : ChatGateway) {client : Socket}
    (h : client.userId ∉ objectPrototype) :
    (g.handleConnection client).sessions.get? u =
      (Event.handleConnection client).onSession u (g.sessions.get? u) := by
  unfold ChatGateway.handleConnection
  by_cases hrole : client.role = "admin"
  · rw [if_pos hrole, onSession_quiet rfl (fun _ => rfl) (by simp [Event.connects, hrole])]
    rfl
  · rw [if_neg hrole]
    dsimp only
    rw [property_of_ownName h]
    simp only [ChatGateway.call]
    cases hs : g.sessions.get? client.userId with
    | some s =>
      show g.sessions.get? u = _
      cases ho : g.sessions.get? u with
      | some s' => simp [Event.onSession, Event.entry, Event.marks]
      | none =>
        have hne : client.userId ≠ u := by
          rintro rfl
          rw [hs] at ho
          cases ho
        simp [Event.onSession, Event.connects, hne]
    | none =>
      show (g.sessions.set client.userId ⟨client.userId, []⟩).get? u = _
      by_cases hu : u = client.userId
      · subst hu
        rw [OrderedMap.get?_set_self, hs]
        simp [Event.onSession, Event.connects, hrole]
      · rw [OrderedMap.get?_set_ne _ _ hu, onSession_quiet rfl (fun _ => rfl)]
        simp [Event.connects, Ne.symm hu]

theorem onSession_chat {message : String} {client : Socket} {sender : String}
    (he : (Event.handleChat message client).entry u = some (sender, message))
    (o : Option ChatSession) :
    (Event.handleChat message client).onSession u o =
      o.map (ChatSession.push ⟨sender, message, false⟩) := by
  cases o with
  | none => rfl
  | some s => simp [Event.onSession, Event.marks, he, ChatSession.push]

theorem get?_handleChat (g : ChatGateway) {message : String} {client : Socket}
    (h : client.userId ∉ objectPrototype) :
    (g.step (.handleChat message client)).sessions.get? u =
      (Event.handleChat message client).onSession u (g.sessions.get? u) := by
  simp only [ChatGateway.step, ChatGateway.handle, ChatGateway.handleChat]
  by_cases hrole : client.role = "admin"
  · have he : (Event.handleChat message client).entry u = some ("Admin", message) := by
      simp [Event.entry, hrole]
    rw [if_pos hrole, onSession_chat he]
    exact get?_broadcast _ g
  · rw [if_neg hrole, property_of_ownName h]
    by_cases hu : u = client.userId
    · subst hu
      have he : (Event.handleChat message client).entry client.userId =
          some (client.userId, message) := by
        simp [Event.entry, hrole]
      rw [onSession_chat he]
      cases hs : g.sessions.get? client.userId with
      | none => exact hs
      | some s =>
        show (update _ g.sessions client.userId).get? client.userId = _
        rw [get?_update_self, hs]
    · rw [onSession_quiet (by simp [Event.entry, hrole, Ne.symm hu]) (fun _ => rfl) rfl]
      cases hs : g.sessions.get? client.userId with
      | none => rfl
      | some s => exact get?_update_ne _ _ hu

theorem get?_markAsRead (g : ChatGateway) {senderId : String} {client : Socket}
    (h : client.userId ∉ objectPrototype) :
    (g.step (.markAsRead senderId client)).sessions.get? u =
      (Event.markAsRead senderId client).onSession u (g.sessions.get? u) := by
  simp only [ChatGateway.step, ChatGateway.handle, ChatGateway.markAsRead]
  rw [property_of_ownName h]
  by_cases hu : u = client.userId
  · subst hu
    cases hs : g.sessions.get? client.userId with
    | none => exact hs
    | some s =>
      show (update _ g.sessions client.userId).get? client.userId = _
      rw [get?_update_self, hs]
      simp [Event.onSession, Event.marks, Event.entry, ChatSession.markAsRead]
  · rw [onSession_quiet rfl (fun _ => by simp [Event.marks, Ne.symm hu]) rfl]
    cases hs : g.sessions.get? client.userId with
    | none => rfl
    | some s => exact get?_update_ne _ _ hu

/-- An event acts on every session separately. -/
theorem get?_step (g : ChatGateway) (h : e.client.userId ∉ objectPrototype) :
    (g.step e).sessions.get? u = e.onSession u (g.sessions.get? u) := by
  cases e with
  | handleConnection client => exact get?_handleConnection g h
  | handleChat message client => exact get?_handleChat g h
  | markAsRead senderId client => exact get?_markAsRead g h

/-- The session of another user changes by an admin's message only. -/
theorem onSession_other (hne : u ≠ e.client.userId) (o : Option ChatSession) :
    e.onSession u o = o ∨ ∃ message, e = .handleChat message e.client ∧ e.client.role = "admin" ∧
      e.onSession u o = o.map (ChatSession.push ⟨"Admin", message, false⟩) := by
  have hu : e.client.userId ≠ u := Ne.symm hne
  cases e with
  | handleConnection client =>
    left
    change client.userId ≠ u at hu
    exact onSession_quiet rfl (fun _ => rfl) (by simp [Event.connects, hu]) o
  | markAsRead senderId client =>
    left
    change client.userId ≠ u at hu
    exact onSession_quiet rfl (fun _ => by simp [Event.marks, hu]) rfl o
  | handleChat message client =>
    change client.userId ≠ u at hu
    by_cases hrole : client.role = "admin"
    · right
      exact ⟨message, rfl, hrole, onSession_chat (by simp [Event.entry, hrole]) o⟩
    · left
      exact onSession_quiet (by simp [Event.entry, hrole, hu]) (fun _ => rfl) rfl o

end Step

theorem sinceConnection_concat {u : String} {h : List Event} (e : Event)
    (hc : h.any (Event.connects u) = true) :
    sinceConnection u (h ++ [e]) = sinceConnection u h ++ [e] := by
  unfold sinceConnection
  induction h with
  | nil => cases hc
  | cons e₀ h ih =>
    by_cases h₀ : e₀.connects u = true
    · simp [h₀]
    · simp only [Bool.not_eq_true] at h₀
      rw [List.any_cons, h₀, Bool.false_or] at hc
      simp [h₀, ih hc]

/-- The abstract log takes one event as the session does. -/
theorem sessionOf_concat (u : String) (h : List Event) (e : Event) :
    sessionOf u (h ++ [e]) = e.onSession u (sessionOf u h) := by
  unfold sessionOf
  rw [List.any_append]
  cases hc : h.any (Event.connects u) with
  | true =>
    simp only [Bool.true_or, if_true, Event.onSession, chatLog]
    rw [sinceConnection_concat e hc, MarkedLog.log_concat]
    simp only [MarkedLog.extend, List.map_append, List.map_map]
    congr 3
    · apply List.map_congr_left
      rintro ⟨⟨sender, message⟩, read⟩ -
      cases hm : e.marks u (sender, message) <;> simp [toMessage, hm]
  | false =>
    cases he : e.connects u with
    | false => simp [Event.onSession, he]
    | true =>
      have hlog : sinceConnection u (h ++ [e]) = [e] := by
        unfold sinceConnection
        rw [List.dropWhile_append_of_pos]
        · simp [he]
        · intro e' he'
          rw [List.any_eq_false] at hc
          simpa using hc e' he'
      have hentry : e.entry u = none := by
        cases e <;> first | rfl | cases he
      simp [Event.onSession, he, chatLog, hlog, MarkedLog.log, hentry]

theorem run_concat (h : List Event) (e : Event) :
    ChatGateway.run (h ++ [e]) = (ChatGateway.run h).step e := by
  unfold ChatGateway.run
  rw [List.foldl_append]
  rfl

/-- After any events a session holds what the history asks for. -/
theorem get?_run (u : String) (h : List Event)
    (hnames : ∀ e ∈ h, e.client.userId ∉ objectPrototype) :
    (ChatGateway.run h).sessions.get? u = sessionOf u h := by
  induction h using List.reverseRecOn with
  | nil => rfl
  | append_singleton h e ih =>
    rw [run_concat, get?_step _ (hnames e (by simp)), sessionOf_concat,
      ih fun e' he' => hnames e' (by simp [he'])]

theorem any_connects_of_mem {u : String} {h : List Event} {client : Socket}
    (hm : .handleConnection client ∈ h) (hrole : client.role ≠ "admin") (hu : client.userId = u) :
    h.any (Event.connects u) = true := by
  apply List.any_eq_true.mpr
  exact ⟨_, hm, by simp [Event.connects, hrole, hu]⟩

/-- The events before the first connection of `u`. -/
def beforeConnection (u : String) (h : List Event) : List Event :=
  h.takeWhile fun e => !e.connects u

theorem sentBy_before_concat {u : String} {h : List Event} (e : Event)
    (ih : ∀ e ∈ beforeConnection u h, e.sentBy u = false)
    (he : e.sentBy u = true → h.any (Event.connects u) = true) :
    ∀ e' ∈ beforeConnection u (h ++ [e]), e'.sentBy u = false := by
  intro e' he'
  unfold beforeConnection at ih he'
  rw [List.takeWhile_append] at he'
  split at he'
  · rename_i hlen
    -- `u` has not connected in `h`, so the new event is not a message of `u` either
    have hall : h.takeWhile (fun e => !e.connects u) = h :=
      (List.takeWhile_prefix _).eq_of_length hlen
    rcases List.mem_append.mp he' with hm | hm
    · rw [← hall] at hm
      exact ih e' hm
    · have hee : e' = e := List.mem_singleton.mp ((List.takeWhile_prefix _).subset hm)
      rw [hee]
      apply Bool.eq_false_iff.mpr
      intro hs
      obtain ⟨c, hcm, hcu⟩ := List.any_eq_true.mp (he hs)
      rw [← hall] at hcm
      have hc := List.mem_takeWhile_imp hcm
      simp [hcu] at hc
  · exact ih e' he'

/-- A user sends nothing before the first connection. -/
theorem sentBy_before {u : String} {h : List Event} (hist : History h) :
    ∀ e ∈ beforeConnection u h, e.sentBy u = false := by
  induction hist with
  | start =>
    intro e he
    cases he
  | connect client _ ih =>
    apply sentBy_before_concat _ ih
    intro hs
    cases hs
  | chat message _ hm ih =>
    apply sentBy_before_concat _ ih
    intro hs
    simp only [Event.sentBy, Bool.and_eq_true, bne_iff_ne, beq_iff_eq] at hs
    exact any_connects_of_mem hm hs.1 hs.2
  | mark senderId _ hm ih =>
    apply sentBy_before_concat _ ih
    intro hs
    cases hs

/-- The session of another user is as before, or an admin's message was added to it. -/
theorem step_other (g : ChatGateway) {e : Event} {u : String} (hne : u ≠ e.client.userId)
    (h : e.client.userId ∉ objectPrototype) :
    (g.step e).sessions.get? u = g.sessions.get? u ∨
      ∃ message, e = .handleChat message e.client ∧ e.client.role = "admin" ∧
        (g.step e).sessions.get? u =
          (g.sessions.get? u).map (ChatSession.push ⟨"Admin", message, false⟩) := by
  rw [get?_step g h]
  exact onSession_other hne _

/-- The session of a user is the log of the history since the first connection, before
which the user sent nothing, and another user's event only adds an admin's message. -/
theorem sessions_eq_history {h : List Event} (hist : History h)
    (hnames : ∀ e ∈ h, e.client.userId ∉ objectPrototype) :
    (∀ u, h.any (Event.connects u) = true →
      (ChatGateway.run h).sessions.get? u = some ⟨u, chatLog u h⟩ ∧
      ∀ e ∈ beforeConnection u h, e.sentBy u = false) ∧
    ∀ pre e post, h = pre ++ e :: post → ∀ u, u ≠ e.client.userId →
      (ChatGateway.run (pre ++ [e])).sessions.get? u = (ChatGateway.run pre).sessions.get? u ∨
      ∃ message, e = .handleChat message e.client ∧ e.client.role = "admin" ∧
        (ChatGateway.run (pre ++ [e])).sessions.get? u =
          ((ChatGateway.run pre).sessions.get? u).map
            (ChatSession.push ⟨"Admin", message, false⟩) := by
  constructor
  · intro u hc
    refine ⟨?_, sentBy_before hist⟩
    rw [get?_run u h hnames, sessionOf, if_pos hc]
  · rintro pre e post rfl u hne
    rw [run_concat]
    exact step_other _ hne (hnames e (by simp))

def clientSample : Socket := ⟨"s1", "u1", "client"⟩

def adminSample : Socket := ⟨"s2", "a1", "admin"⟩

def historySample : List Event :=
  [.handleConnection clientSample, .handleConnection adminSample, .handleChat "hi" clientSample,
    .handleChat "hello" adminSample, .markAsRead "Admin" clientSample]

theorem history_sample : History historySample := by
  have h₁ : History [.handleConnection clientSample] := .connect (h := []) clientSample .start
  have h₂ : History [.handleConnection clientSample, .handleConnection adminSample] :=
    .connect (h := [_]) adminSample h₁
  have hclient : .handleConnection clientSample ∈
      [.handleConnection clientSample, Event.handleConnection adminSample] := by decide
  have hadmin : .handleConnection adminSample ∈
      [.handleConnection clientSample, Event.handleConnection adminSample] := by decide
  have h₃ := History.chat "hi" h₂ hclient
  have h₄ := History.chat "hello" h₃ (List.mem_append_left _ hadmin)
  exact History.mark "Admin" h₄ (List.mem_append_left _ (List.mem_append_left _ hclient))

theorem sessions_eq_history_sample :
    (ChatGateway.run historySample).sessions.get? "u1" =
      some ⟨"u1", [⟨"u1", "hi", false⟩, ⟨"Admin", "hello", true⟩]⟩ :=
  ((sessions_eq_history history_sample (by decide)).1 "u1" (by decide)).1

end NestUserService.Noti
