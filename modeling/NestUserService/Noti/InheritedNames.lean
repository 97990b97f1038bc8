import NestUserService.Noti.ChatLog

/-!
# User ids that every object inherits

The test for a session is the truth of `this.sessions[userId]`, which an inherited property
passes. No session is ever created under such a name, whatever the history, so each message
of such a user and each of its `markAsRead` events throws. Every other event is served.
-/

namespace NestUserService.Noti

open Lib NestUserService.Core

/-- The handler completes, and the message of a user who is no admin is added to the
session that was created for this user. -/
def Event.Served (g : ChatGateway) (e : Event) : Prop :=
  ∃ g', g.handle e = .ok g' ∧
    ∀ message client, e = .handleChat message client → client.role ≠ "admin" →
      ∃ s, g.sessions.get? client.userId = some s ∧ s.userId = client.userId ∧
        g'.sessions.get? client.userId = some (s.push ⟨client.userId, message, false⟩)

/-- The handler does not look up a name that every object inherits. -/
def Event.LooksUpOwnName : Event → Prop
  | .handleConnection _ => True
  | .handleChat _ client => client.role = "admin" ∨ client.userId ∉ objectPrototype
  | .markAsRead _ client => client.userId ∉ objectPrototype

/-- What one event can do to the session stored under `u`. -/
inductive SessionStep (u : String) (e : Event) (o : Option ChatSession) :
    Option ChatSession → Prop where
  | change (f : ChatSession → ChatSession) (hf : ∀ s, (f s).userId = s.userId)
      (hc : e.connects u = true → u ∈ objectPrototype ∨ o.isSome) : SessionStep u e o (o.map f)
  | create (hc : e.connects u = true) (hu : u ∉ objectPrototype) (ho : o = none) :
      SessionStep u e o (some ⟨u, []⟩)

theorem SessionStep.keep {u : String} {e : Event} {o : Option ChatSession}
    (hc : e.connects u = true → u ∈ objectPrototype ∨ o.isSome) : SessionStep u e o o := by
  have h := SessionStep.change id (fun _ => rfl) hc
  rwa [Option.map_id] at h

section Step

variable (g : ChatGateway) (u : String)

/-- Changing one session keeps or changes each. -/
theorem sessionStep_update {e : Event} (he : e.connects u = false)
    (f : ChatSession → ChatSession) (hf : ∀ s, (f s).userId = s.userId) (v : String) :
    SessionStep u e (g.sessions.get? u) ((update f g.sessions v).get? u) := by
  have hc : e.connects u = true → u ∈ objectPrototype ∨ (g.sessions.get? u).isSome := by
    simp [he]
  by_cases huv : u = v
  · subst huv
    rw [get?_update_self]
    exact .change f hf hc
  · rw [get?_update_ne f g.sessions huv]
    exact .keep hc

theorem sessionStep_handleConnection (client : Socket) :
    SessionStep u (.handleConnection client) (g.sessions.get? u)
      ((g.handleConnection client).sessions.get? u) := by
  unfold ChatGateway.handleConnection
  by_cases hrole : client.role = "admin"
  · rw [if_pos hrole]
    exact .keep (by simp [Event.connects, hrole])
  · rw [if_neg hrole]
    dsimp only
    simp only [ChatGateway.property, ChatGateway.call]
    cases hs : g.sessions.get? client.userId with
    | some s =>
      apply SessionStep.keep
      simp only [Event.connects, Bool.and_eq_true, beq_iff_eq]
      rintro ⟨-, rfl⟩
      exact .inr (by rw [hs]; rfl)
    | none =>
      by_cases hname : client.userId ∈ objectPrototype
      · simp only [if_pos hname]
        apply SessionStep.keep
        simp only [Event.connects, Bool.and_eq_true, beq_iff_eq]
        rintro ⟨-, rfl⟩
        exact .inl hname
      · simp only [if_neg hname]
        by_cases hu : u = client.userId
        · subst hu
          rw [OrderedMap.get?_set_self]
          exact .create (by simp [Event.connects, hrole]) hname hs
        · rw [OrderedMap.get?_set_ne _ _ hu]
          exact .keep (by simp [Event.connects, Ne.symm hu])

theorem sessionStep_handleChat (message : String) (client : Socket) :
    SessionStep u (.handleChat message client) (g.sessions.get? u)
      ((g.step (.handleChat message client)).sessions.get? u) := by
  simp only [ChatGateway.step, ChatGateway.handle, ChatGateway.handleChat]
  by_cases hrole : client.role = "admin"
  · rw [if_pos hrole]
    show SessionStep u _ _ (((objectKeys g.sessions.keys).foldl _ g).sessions.get? u)
    rw [get?_broadcast]
    exact .change _ (fun _ => rfl) (by simp [Event.connects])
  · rw [if_neg hrole]
    cases g.property client.userId with
    | session s => exact sessionStep_update g u rfl (ChatSession.push _) (fun _ => rfl) _
    | inherited => exact .keep (by simp [Event.connects])
    | undefined => exact .keep (by simp [Event.connects])

theorem sessionStep_markAsRead (senderId : String) (client : Socket) :
    SessionStep u (.markAsRead senderId client) (g.sessions.get? u)
      ((g.step (.markAsRead senderId client)).sessions.get? u) := by
  simp only [ChatGateway.step, ChatGateway.handle, ChatGateway.markAsRead]
  cases g.property client.userId with
  | session s =>
    exact sessionStep_update g u rfl (ChatSession.markAsRead senderId) (fun _ => rfl) _
  | inherited => exact .keep (by simp [Event.connects])
  | undefined => exact .keep (by simp [Event.connects])

theorem sessionStep_step (e : Event) :
    SessionStep u e (g.sessions.get? u) ((g.step e).sessions.get? u) := by
  cases e with
  | handleConnection client => exact sessionStep_handleConnection g u client
  | handleChat message client => exact sessionStep_handleChat g u message client
  | markAsRead senderId client => exact sessionStep_markAsRead g u senderId client

end Step

/-- Every session belongs to the name it is stored under, and no object inherits it. -/
structure ChatGateway.Proper (g : ChatGateway) : Prop where
  userId : ∀ {u s}, g.sessions.get? u = some s → s.userId = u
  ownName : ∀ {u s}, g.sessions.get? u = some s → u ∉ objectPrototype

theorem proper_step {g : ChatGateway} (hg : g.Proper) (e : Event) : (g.step e).Proper := by
  have hstep : ∀ {u s'}, (g.step e).sessions.get? u = some s' →
      s'.userId = u ∧ u ∉ objectPrototype := by
    intro u s' hs'
    have hs := sessionStep_step g u e
    rw [hs'] at hs
    generalize ho : g.sessions.get? u = o at hs
    generalize ho' : some s' = o' at hs
    cases hs with
    | change f hf _ =>
      obtain ⟨s, rfl, rfl⟩ := Option.map_eq_some_iff.mp ho'.symm
      exact ⟨(hf s).trans (hg.userId ho), hg.ownName ho⟩
    | create _ hu _ =>
      cases ho'
      exact ⟨rfl, hu⟩
  exact ⟨fun h => (hstep h).1, fun h => (hstep h).2⟩

theorem proper_run (h : List Event) : (ChatGateway.run h).Proper := by
  induction h using List.reverseRecOn with
  | nil => exact ⟨fun h => (by cases h), fun h => (by cases h)⟩
  | append_singleton h e ih =>
    rw [run_concat]
    exact proper_step ih e

/-- A session that is there stays, and a connection of its user makes it be there. -/
theorem isSome_step (g : ChatGateway) {u : String} {e : Event} (hu : u ∉ objectPrototype)
    (h : (g.sessions.get? u).isSome ∨ e.connects u = true) :
    ((g.step e).sessions.get? u).isSome := by
  have hs := sessionStep_step g u e
  generalize (g.step e).sessions.get? u = o' at hs
  cases hs with
  | change f _ hc =>
    rw [Option.isSome_map]
    rcases h with h | h
    · exact h
    · exact (hc h).resolve_left hu
  | create _ _ _ => rfl

theorem isSome_run {h : List Event} {u : String} (hu : u ∉ objectPrototype)
    (hc : h.any (Event.connects u) = true) :
    ((ChatGateway.run h).sessions.get? u).isSome := by
  induction h using List.reverseRecOn with
  | nil => cases hc
  | append_singleton h e ih =>
    rw [run_concat]
    apply isSome_step _ hu
    rw [List.any_append, Bool.or_eq_true] at hc
    rcases hc with hc | hc
    · exact .inl (ih hc)
    · right
      simpa using hc

theorem history_prefix {pre post : List Event} (hist : History (pre ++ post)) : History pre := by
  induction post using List.reverseRecOn with
  | nil => rwa [List.append_nil] at hist
  | append_singleton post e ih =>
    apply ih
    rw [← List.append_assoc] at hist
    generalize hh : pre ++ post ++ [e] = h at hist
    cases hist with
    | start => simp at hh
    | connect client hist => rwa [List.append_inj_left' hh rfl]
    | chat message hist _ => rwa [List.append_inj_left' hh rfl]
    | mark senderId hist _ => rwa [List.append_inj_left' hh rfl]

/-- Who sends a message has connected before. -/
theorem connected_of_chat {pre : List Event} {message : String} {client : Socket}
    (hist : History (pre ++ [.handleChat message client])) : .handleConnection client ∈ pre := by
  generalize hh : pre ++ [Event.handleChat message client] = h at hist
  cases hist with
  | start => simp at hh
  | connect _ _ => simp at hh
  | chat _ _ hm =>
    obtain ⟨rfl, hlast⟩ := List.append_inj' hh rfl
    simp only [List.cons.injEq, Event.handleChat.injEq, and_true] at hlast
    rwa [hlast.2]
  | mark _ _ _ => simp at hh

section Served

variable {g : ChatGateway}

theorem served_connection (client : Socket) : (Event.handleConnection client).Served g :=
  ⟨_, rfl, fun _ _ he => by cases he⟩

/-- An inherited property has no messages. -/
theorem property_inherited (hg : g.Proper) {u : String} (hu : u ∈ objectPrototype) :
    g.property u = .inherited := by
  unfold ChatGateway.property
  cases hs : g.sessions.get? u with
  | some s => exact absurd hu (hg.ownName hs)
  | none => exact if_pos hu

theorem served_markAsRead_iff (hg : g.Proper) (senderId : String) (client : Socket) :
    (Event.markAsRead senderId client).Served g ↔ client.userId ∉ objectPrototype := by
  constructor
  · rintro ⟨g', hok, -⟩ hu
    simp only [ChatGateway.handle, ChatGateway.markAsRead, property_inherited hg hu] at hok
    cases hok
  · intro hu
    have hok : ∃ g', g.markAsRead senderId client = .ok g' := by
      unfold ChatGateway.markAsRead
      rw [property_of_ownName hu]
      cases g.sessions.get? client.userId with
      | some s => exact ⟨_, rfl⟩
      | none => exact ⟨_, rfl⟩
    obtain ⟨g', hok⟩ := hok
    exact ⟨g', hok, fun _ _ he => by cases he⟩

theorem served_chat_admin (message : String) {client : Socket} (hrole : client.role = "admin") :
    (Event.handleChat message client).Served g := by
  refine ⟨_, if_pos hrole, ?_⟩
  intro message' client' he hne
  cases he
  exact absurd hrole hne

theorem served_chat_iff (hg : g.Proper) {message : String} {client : Socket}
    (hrole : client.role ≠ "admin")
    (hthere : client.userId ∉ objectPrototype → (g.sessions.get? client.userId).isSome) :
    (Event.handleChat message client).Served g ↔ client.userId ∉ objectPrototype := by
  constructor
  · rintro ⟨g', hok, -⟩ hu
    simp only [ChatGateway.handle, ChatGateway.handleChat, if_neg hrole,
      property_inherited hg hu] at hok
    cases hok
  · intro hu
    obtain ⟨s, hs⟩ := Option.isSome_iff_exists.mp (hthere hu)
    have hok : ∃ g', g.handleChat message client = .ok g' ∧
        g'.sessions.get? client.userId = some (s.push ⟨client.userId, message, false⟩) := by
      unfold ChatGateway.handleChat
      rw [if_neg hrole, property_of_ownName hu, hs]
      refine ⟨_, rfl, ?_⟩
      show (update _ g.sessions client.userId).get? client.userId = _
      rw [get?_update_self, hs, Option.map_some]
    obtain ⟨g', hok, hstored⟩ := hok
    refine ⟨g', hok, ?_⟩
    intro message' client' he _
    cases he
    exact ⟨s, hs, hg.userId hs, hstored⟩

end Served

/-- Whatever came before, an event is served exactly when its handler looks up no name
that every object inherits. -/
theorem served_iff_ownName {h : List Event} (hist : History h) :
    ∀ pre e post, h = pre ++ e :: post →
      (e.Served (ChatGateway.run pre) ↔ e.LooksUpOwnName) := by
  rintro pre e post rfl
  have hg := proper_run pre
  have hpre : History (pre ++ [e]) := by
    rw [List.append_cons] at hist
    exact history_prefix hist
  cases e with
  | handleConnection client => exact iff_of_true (served_connection client) trivial
  | markAsRead senderId client => exact served_markAsRead_iff hg senderId client
  | handleChat message client =>
    by_cases hrole : client.role = "admin"
    · exact iff_of_true (served_chat_admin message hrole) (.inl hrole)
    · have hc := any_connects_of_mem (connected_of_chat hpre) hrole rfl
      rw [served_chat_iff hg hrole fun hu => isSome_run hu hc]
      exact (or_iff_right hrole).symm

theorem served_iff_ownName_sample :
    (Event.handleChat "hi" clientSample).Served
      (ChatGateway.run [.handleConnection clientSample, .handleConnection adminSample]) := by
  have hsplit : historySample = [.handleConnection clientSample, .handleConnection adminSample] ++
      .handleChat "hi" clientSample ::
        [.handleChat "hello" adminSample, .markAsRead "Admin" clientSample] := rfl
  apply (served_iff_ownName history_sample _ _ _ hsplit).mpr
  right
  decide

def constructorSample : Socket := ⟨"s3", "constructor", "client"⟩

/-- The first message of a user named `constructor` throws. -/
theorem constructor_not_served :
    History ([.handleConnection constructorSample] ++ [.handleChat "hi" constructorSample]) ∧
      (ChatGateway.run [.handleConnection constructorSample]).handle
        (.handleChat "hi" constructorSample) = .error (undefinedProperty "push") ∧
      ¬ (Event.handleChat "hi" constructorSample).Served
        (ChatGateway.run [.handleConnection constructorSample]) := by
  have hconn : History [.handleConnection constructorSample] :=
    .connect (h := []) constructorSample .start
  have hthrows : (ChatGateway.run [.handleConnection constructorSample]).handle
      (.handleChat "hi" constructorSample) = .error (undefinedProperty "push") := rfl
  refine ⟨.chat "hi" hconn (List.mem_singleton.mpr rfl), hthrows, ?_⟩
  rintro ⟨g', hok, -⟩
  rw [hthrows] at hok
  cases hok

end NestUserService.Noti
