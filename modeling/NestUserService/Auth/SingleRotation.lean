import NestUserService.Lib.Gate
import NestUserService.Auth.LoginHandlers
import NestUserService.Auth.Steps

/-!
# Rotating a refresh token once

`refreshTokens` checks the row of its token and invalidates it later, with an update
that is not conditional on the check. That update is a gate: the results below are about
the runs in which every call that executes it finds the row still valid.
-/

namespace NestUserService.Auth.SingleRotation

open Lib NestUserService.Core Shared

def tokens (w : World) : List String := w.root.refreshToken.rows.map RefreshToken.token

/-- The row of the token is valid. -/
def Spendable (t : String) (w : World) : Prop :=
  ∃ r ∈ w.root.refreshToken.rows, r.token = t ∧ r.isValid = true

instance (t : String) (w : World) : Decidable (Spendable t w) :=
  inferInstanceAs (Decidable (∃ r ∈ w.root.refreshToken.rows, _))

/-- A row that was created since `w₀`. -/
def Created (w₀ w : World) (r : RefreshToken) : Prop :=
  r ∈ w.root.refreshToken.rows ∧ r.token ∉ tokens w₀

/-- Rows are invalidated, and nothing else. -/
structure Fades (w w' : World) : Prop where
  tokens : tokens w' = tokens w
  valid : ∀ r ∈ w'.root.refreshToken.rows, r.isValid = true → r ∈ w.root.refreshToken.rows

/-- Rows are created and invalidated, and the token does not become valid. -/
structure Rotates (t : String) (w w' : World) : Prop where
  tokens : ∀ x ∈ tokens w, x ∈ tokens w'
  spendable : Spendable t w' → Spendable t w

/-- No row was created since `w₀`. -/
def NoneCreated (w₀ w : World) : Prop := ∀ x ∈ tokens w, x ∈ tokens w₀

/-- At most one row was created since `w₀`. -/
def OneCreated (w₀ w : World) : Prop :=
  ∀ x ∈ tokens w, ∀ y ∈ tokens w, x ∉ tokens w₀ → y ∉ tokens w₀ → x = y

section Rows

variable {t : String} {w₀ w w' w'' : World}

theorem Fades.of_same (h : w'.root.refreshToken = w.root.refreshToken) : Fades w w' := by
  refine ⟨by unfold SingleRotation.tokens; rw [h], fun r hr _ => ?_⟩
  rwa [h] at hr

theorem Fades.refl (w : World) : Fades w w := .of_same rfl

theorem Fades.trans (w w' w'' : World) (h : Fades w w') (h' : Fades w' w'') : Fades w w'' :=
  ⟨h'.tokens.trans h.tokens, fun r hr hv => h.valid r (h'.valid r hr hv) hv⟩

theorem Rotates.trans (w w' w'' : World) (h : Rotates t w w') (h' : Rotates t w' w'') :
    Rotates t w w'' :=
  ⟨fun x hx => h'.tokens x (h.tokens x hx), fun hs => h.spendable (h'.spendable hs)⟩

theorem Fades.rotates (w w' : World) (h : Fades w w') : Rotates t w w' := by
  refine ⟨fun x hx => by rwa [h.tokens], ?_⟩
  rintro ⟨r, hr, ht, hv⟩
  exact ⟨r, h.valid r hr hv, ht, hv⟩

theorem stable_noneCreated : Async.Stable Fades (NoneCreated w₀) := by
  intro w w' h hn
  unfold NoneCreated
  rwa [h.tokens]

theorem stable_oneCreated : Async.Stable Fades (OneCreated w₀) := by
  intro w w' h ho
  unfold OneCreated
  rwa [h.tokens]

theorem stable_token : Async.Stable (Rotates t) fun w => t ∈ tokens w :=
  fun _ _ h ht => h.tokens t ht

theorem NoneCreated.one (h : NoneCreated w₀ w) : OneCreated w₀ w :=
  fun x hx _ _ hn _ => absurd (h x hx) hn

/-- Invalidating rows is all that an update does. -/
theorem fades_updateMany (p : RefreshToken → Bool) (w : World) : Fades w { w with
    root := { w.root with refreshToken := w.root.refreshToken.updateMany p invalidated } } := by
  refine ⟨?_, fun r hr hv => ?_⟩
  · exact Table.map_patchRows (k := RefreshToken.token) (by simp [Keyed.keys]) p invalidated _
  · obtain ⟨r₀, hr₀, rfl⟩ := Table.mem_updateMany.mp hr
    by_cases hp : p r₀ = true
    · rw [if_pos hp] at hv
      cases hv
    · rwa [if_neg hp]

theorem fades_of_sameTokens (w w' : World) (h : SameTokens w w') : Fades w w' := .of_same h.root

/-- A created row has a token of its own. -/
theorem rotates_create {row : RefreshToken} {db : Db} {n : Nat} (ht : t ∈ tokens w)
    (h : w.root.createRefreshToken row = .ok db) :
    Rotates t w { w with root := db, draws := n } := by
  obtain ⟨hv, -, rfl⟩ := Db.createRefreshToken_ok h
  have hmem (x : RefreshToken) : x ∈ (w.root.refreshToken.insert row hv).rows ↔
      x ∈ w.root.refreshToken.rows ∨ x = row := Table.mem_insert hv
  constructor
  · intro x hx
    obtain ⟨r, hr, rfl⟩ := List.mem_map.mp hx
    exact List.mem_map.mpr ⟨r, (hmem r).mpr (Or.inl hr), rfl⟩
  · rintro ⟨r, hr, hrt, hvalid⟩
    rcases (hmem r).mp hr with hold | rfl
    · exact ⟨r, hold, hrt, hvalid⟩
    · obtain ⟨r', hr', ht'⟩ := List.mem_map.mp ht
      exact absurd (ht'.trans hrt.symm) (hv RefreshToken.token (by simp [Keyed.keys]) r' hr')

theorem oneCreated_create {row : RefreshToken} {db : Db} {n : Nat} (hnone : NoneCreated w₀ w)
    (h : w.root.createRefreshToken row = .ok db) :
    OneCreated w₀ { w with root := db, draws := n } := by
  obtain ⟨hv, -, rfl⟩ := Db.createRefreshToken_ok h
  have hnew {x : String} (hx : x ∈ tokens { w with
      root := { w.root with refreshToken := w.root.refreshToken.insert row hv }, draws := n })
      (hn : x ∉ tokens w₀) : x = row.token := by
    obtain ⟨r, hr, rfl⟩ := List.mem_map.mp hx
    rcases (Table.mem_insert hv).mp hr with hold | rfl
    · exact absurd (hnone _ (List.mem_map.mpr ⟨r, hold, rfl⟩)) hn
    · rfl
  exact fun x hx y hy hxn hyn => (hnew hx hxn).trans (hnew hy hyn).symm

end Rows

section Gate

variable (env : Env) (createdAt : String → String) (t : String)

/-- What is left of a call that is about to spend its token. -/
def spending (ip userId : String) : App LoginResponse := do
  Async.await (writeRoot fun db => spendRefreshToken db t)
  rotate env createdAt userId ip

variable {env createdAt t}

/-- Up to the update, a call only reads, or invalidates rows of its user. -/
theorem gated_refreshTokens {V : LoginResponse → World → Prop} (ip : String) (w : World) :
    Async.Gated (Rotates t) Fades
      (fun x w => (∃ userId, x = spending env createdAt t ip userId) ∧ t ∈ tokens w) V
      (refreshTokens env createdAt t ip) w := by
  have hread : Async.Moves (Rotates t) Fades
      (fun rec w => ∀ r : RefreshToken, rec = some r → t ∈ tokens w)
      (Async.await (readRoot fun db => findRefreshToken db t)) w := by
    refine Async.Moves.await (P := fun _ => True) (fun _ _ _ h => h) trivial fun s _ => ?_
    refine ⟨.refl s, fun a s' h r hr => ?_⟩
    cases h
    obtain ⟨hm, hp⟩ := Table.findFirst_mem hr
    exact List.mem_map.mpr ⟨r, hm, by simpa using hp⟩
  refine Async.Gated.bind hread fun rec s hs => ?_
  cases rec with
  | none => exact Async.Gated.throw _ s
  | some rec =>
    refine Async.Gated.ite (fun _ => Async.Gated.throw _ s) fun _ => ?_
    have hclock : Async.Moves (Rotates t) Fades (fun _ w => t ∈ tokens w)
        (Async.await clock : App Nat) s := by
      refine Async.Moves.await stable_token (hs rec rfl) fun s' hs' => ⟨.refl s', fun a s'' h => ?_⟩
      cases h
      exact hs'
    refine Async.Gated.bind hclock fun now s' hs' => ?_
    refine Async.Gated.ite (fun _ => ?_) fun _ => Async.Gated.ite (fun _ => ?_) fun _ => ?_
    · have hend : Async.Guarantees Fades (fun _ => True) (invalidateUserTokens rec.userId) :=
        Async.Guarantees.await (fun w => fades_updateMany _ w) fun _ _ _ _ => trivial
      exact Async.Gated.bind (hend.moves s') fun _ s'' _ => Async.Gated.throw _ s''
    · have htheft : Async.Guarantees Fades (fun _ => True)
          (handleTokenTheft env rec.userId ip none) :=
        guarantees_handleTokenTheft env fades_of_sameTokens (fun w => fades_updateMany _ w) ip none
      exact Async.Gated.bind (htheft.moves s') fun _ s'' _ => Async.Gated.throw _ s''
    · exact Async.Gated.gate fun s'' hr => ⟨⟨rec.userId, rfl⟩, stable_token _ _ hr hs'⟩

/-- The new session is the only row that a rotation creates. -/
theorem moves_rotate {w₀ : World} (userId ip : String) {w : World} (hnone : NoneCreated w₀ w)
    (ht : t ∈ tokens w) :
    Async.Moves Fades (fun s s' => Rotates t s s' ∧ OneCreated w₀ s') (fun _ _ => True)
      (rotate env createdAt userId ip) w := by
  let P (w : World) : Prop := NoneCreated w₀ w ∧ t ∈ tokens w
  have hP : Async.Stable Fades P := fun _ _ h hp =>
    ⟨stable_noneCreated _ _ h hp.1, stable_token _ _ (h.rotates) hp.2⟩
  have hstay {s s' : World} (h : s'.root.refreshToken = s.root.refreshToken) (hp : P s) :
      Rotates t s s' ∧ OneCreated w₀ s' :=
    ⟨(Fades.of_same h).rotates, stable_oneCreated _ _ (.of_same h) hp.1.one⟩
  have hread : Async.Moves Fades (fun s s' => Rotates t s s' ∧ OneCreated w₀ s') (fun _ => P)
      (Async.await (readRoot fun db => db.findUserById userId)) w := by
    refine Async.Moves.await hP ⟨hnone, ht⟩ fun s hs => ⟨hstay rfl hs, fun a s' h => ?_⟩
    cases h
    exact hs
  refine hread.bind fun user s hs => ?_
  cases user with
  | none => exact Async.Moves.await hP hs fun s' hs' => ⟨hstay rfl hs', fun _ _ _ => trivial⟩
  | some user =>
    have hcreate : Async.Moves Fades (fun s s' => Rotates t s s' ∧ OneCreated w₀ s')
        (fun _ => OneCreated w₀) (Async.await (do
          let minted ← mint env (wholeRow createdAt user)
          writeRoot fun db => db.createRefreshToken (minted.row (wholeRow createdAt user).id ip)
          return minted)) s := by
      refine Async.Moves.await hP hs fun s' hs' => ?_
      simp only [mint, sync_bind, clock_apply, uuidv4_apply, sync_pure, writeRoot_apply]
      cases hdb : s'.root.createRefreshToken _ with
      | error e => exact ⟨hstay rfl hs', fun _ _ h => by cases h⟩
      | ok db =>
        have hone := oneCreated_create (n := s'.draws + 1) hs'.1 hdb
        refine ⟨⟨rotates_create hs'.2 hdb, hone⟩, fun a s'' h => ?_⟩
        cases h
        exact hone
    refine hcreate.bind fun minted s' hs' => ?_
    have hset := guarantees_setAll (D := NoDel) env rootLoginClientCacheValue
      (wholeRow createdAt user).id minted.accessToken minted.refreshToken
      (minted.payload (wholeRow createdAt user) ip) none none
    refine Async.Moves.bind ((hset.moves s').keep stable_oneCreated (fun a b ha hstep => ?_) hs')
      fun _ _ _ => Async.Moves.pure trivial
    have hsame : b.root.refreshToken = a.root.refreshToken := by
      cases hstep <;> rfl
    have hone := stable_oneCreated _ _ (.of_same hsame) ha
    exact ⟨⟨(Fades.of_same hsame).rotates, hone⟩, hone⟩

theorem not_spendable_spent (w : World) : ¬ Spendable t { w with root := { w.root with
    refreshToken := w.root.refreshToken.updateMany (fun r => r.token == t) invalidated } } := by
  rintro ⟨r, hr, ht, hv⟩
  obtain ⟨r₀, -, rfl⟩ := Table.mem_updateMany.mp hr
  by_cases hp : (r₀.token == t) = true
  · rw [if_pos hp] at hv
    cases hv
  · rw [if_neg hp] at ht
    exact hp (by simpa using ht)

/-- Spending a valid row makes it invalid. -/
theorem spending_step {ip userId : String} {u : World → World}
    {n : World → App LoginResponse} (h : spending env createdAt t ip userId = .step u n) {w : World}
    (hw : Spendable t w) :
    u w = { w with root := { w.root with
      refreshToken := w.root.refreshToken.updateMany (fun r => r.token == t) invalidated } } ∧
      n w = rotate env createdAt userId ip := by
  obtain ⟨r, hr, ht, -⟩ := hw
  have hspend : writeRoot (fun db => spendRefreshToken db t) w = .ok () { w with root := { w.root with
      refreshToken := w.root.refreshToken.updateMany (fun r => r.token == t) invalidated } } := by
    rw [writeRoot_apply, spendRefreshToken, Table.update_of_mem hr (by simpa using ht)]
  rcases Async.step_of_await_bind h w with ⟨_, s', hx, hu, hn⟩ | ⟨e, s', hx, -, -⟩
  · rw [hspend] at hx
    cases hx
    exact ⟨hu, hn⟩
  · rw [hspend] at hx
    cases hx

end Gate

section Calls

variable {ι : Type} [DecidableEq ι] {env : Env} {createdAt : String → String} {t : String}
  {ip : ι → String} {w : World} {p : Threads World Exn LoginResponse ι}

/-- The update that spends the token, for calls that start in `w`. -/
def gate (env : Env) (createdAt : String → String) (t : String) (ip : ι → String) (w : World) :
    Gate World Exn LoginResponse ι where
  waits := Fades
  moves := Rotates t
  behind := Rotates t
  isOpen := Spendable t
  before := NoneCreated w
  after := OneCreated w
  entry i x w := (∃ userId, x = spending env createdAt t (ip i) userId) ∧ t ∈ tokens w
  early _ _ _ := False
  waits_refl := Fades.refl
  waits_trans := Fades.trans
  moves_trans := Rotates.trans
  moves_of_waits := Fades.rotates
  moves_of_behind _ _ h := h
  closed _ _ h hn hs := hn (h.spendable hs)
  before_stable := stable_noneCreated
  after_stable := stable_oneCreated
  early_stable _ _ _ _ _ h := h
  pass i u n s hentry hopen hbefore := by
    obtain ⟨⟨userId, hspending⟩, ht⟩ := hentry
    obtain ⟨hu, hn⟩ := spending_step hspending.symm hopen
    have hfade := fades_updateMany (fun r => r.token == t) s
    rw [hu, hn]
    have hnone := stable_noneCreated _ _ hfade hbefore
    exact ⟨hfade.rotates, not_spendable_spent s, hnone.one,
      moves_rotate userId (ip i) hnone (stable_token _ _ hfade.rotates ht)⟩

/-- A call that is about to spend the token finds its row still valid. -/
def SpendsValid (env : Env) (createdAt : String → String) (t : String) (ip : ι → String)
    (p : Threads World Exn LoginResponse ι) (i : ι) : Prop :=
  ∀ userId, p.rest i = spending env createdAt t (ip i) userId → Spendable t p.state

/-- In every run in which the token is only spent while its row is valid, one call at most
returns, and one row at most is created. -/
theorem rotated_at_most_once
    (h : Threads.Runs (Elapses fun _ => True) (SpendsValid env createdAt t ip)
      ⟨w, fun i => refreshTokens env createdAt t (ip i)⟩ p) :
    (∀ i j a b, p.rest i = .ret a → p.rest j = .ret b → i = j) ∧
      ∀ r r', Created w p.state r → Created w p.state r' → r = r' := by
  let G := gate env createdAt t ip w
  have henv (s s' : World) (he : Elapses (fun _ => True) s s') : G.waits s s' := by
    obtain ⟨now, rfl, -⟩ := he
    exact .of_same rfl
  have hkept : G.Kept (SpendsValid env createdAt t ip) := by
    intro q i u n hg hi hentry
    obtain ⟨⟨userId, hspending⟩, -⟩ := hentry
    exact Or.inl (hg userId (hi.trans hspending))
  have hrace : G.Race p := Gate.Race.runs henv hkept h
    (.none (fun x hx => hx) fun i => gated_refreshTokens (ip i) w)
  refine ⟨fun i j a b hi hj => hrace.returned_once hi hj id id, fun r r' hr hr' => ?_⟩
  have hone : OneCreated w p.state := by
    cases hrace with
    | none hbefore _ => exact hbefore.one
    | one _ _ hafter _ _ => exact hafter
  exact Table.eq_of_key (k := RefreshToken.token) (by simp [Keyed.keys]) hr.1 hr'.1
    (hone _ (List.mem_map.mpr ⟨r, hr.1, rfl⟩) _ (List.mem_map.mpr ⟨r', hr'.1, rfl⟩) hr.2 hr'.2)

end Calls

/-- A decidable condition under which the next step does not spend the token. -/
def SparesToken (t : String) (w : World) : App LoginResponse → Prop
  | .step u _ => Spendable t (u w)
  | _ => True

instance (t : String) (w : World) : DecidablePred (SparesToken t w)
  | .step _ _ => inferInstanceAs (Decidable (Spendable _ _))
  | .ret _ => inferInstanceAs (Decidable True)
  | .fail _ => inferInstanceAs (Decidable True)

def rotations : Threads World Exn LoginResponse Bool :=
  ⟨rotationWorld "old", fun _ => refreshTokens Env.sample (fun _ => "") "r0" "10.0.0.1"⟩

/-- A call that spends the token only while its row is valid. -/
def Careful (p : Threads World Exn LoginResponse Bool) (i : Bool) : Prop :=
  Spendable "r0" p.state ∨ SparesToken "r0" (rotationWorld "old") (p.rest i)

instance (p : Threads World Exn LoginResponse Bool) (i : Bool) : Decidable (Careful p i) :=
  inferInstanceAs (Decidable (_ ∨ _))

theorem Careful.spendsValid (p : Threads World Exn LoginResponse Bool) (i : Bool)
    (h : Careful p i) :
    SpendsValid Env.sample (fun _ => "") "r0" (fun _ : Bool => "10.0.0.1") p i := by
  intro userId hi
  rcases h with hvalid | hspares
  · exact hvalid
  · rw [hi] at hspares
    exact absurd hspares (not_spendable_spent (rotationWorld "old"))

/-- The second call starts when the first one has returned. -/
def inTurn : Threads World Exn LoginResponse Bool :=
  Threads.schedule Careful (List.replicate 7 false ++ List.replicate 2 true) rotations

theorem rotations_in_turn : (∀ i j a b, inTurn.rest i = .ret a → inTurn.rest j = .ret b → i = j) ∧
    (∀ r r', Created (rotationWorld "old") inTurn.state r →
      Created (rotationWorld "old") inTurn.state r' → r = r') ∧ inTurn.Returned false := by
  have hrun : Threads.Runs (Elapses fun _ => True)
      (SpendsValid Env.sample (fun _ => "") "r0" fun _ : Bool => "10.0.0.1") rotations inTurn :=
    (Threads.schedule_runs _ Careful _ _).mono Careful.spendsValid
  obtain ⟨hreturned, hcreated⟩ := rotated_at_most_once hrun
  exact ⟨hreturned, hcreated, by decide +kernel⟩

/-- Both calls check the row before one of them spends it. -/
def overlapping : Threads World Exn LoginResponse Bool :=
  Threads.schedule (fun _ _ => True)
    ([false, false, true, true] ++ List.replicate 5 false ++ List.replicate 5 true) rotations

theorem rotated_twice :
    Threads.Runs (Elapses fun _ => True) (fun _ _ => True) rotations overlapping ∧
    overlapping.Returned false ∧ overlapping.Returned true ∧
    (overlapping.state.root.refreshToken.rows.filter fun r =>
      r.isValid && !(tokens (rotationWorld "old")).contains r.token).length = 2 :=
  ⟨Threads.schedule_runs _ _ _ _, by decide +kernel, by decide +kernel, by decide +kernel⟩

end NestUserService.Auth.SingleRotation
