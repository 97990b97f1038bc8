import NestUserService.Auth.ValidateSpec

/-!
# The token that is checked and the token that was verified

passport-jwt verifies the second word of the Authorization header, where words are
separated by any white space. The middleware and `validate` cut the same header at
single spaces. The two readings are compared on every header.
-/

namespace NestUserService.Auth.BearerToken

open Lib NestUserService.Core Shared

/-- Neither the middleware nor the first lines of `validate` refuse the request. -/
def ReachesLookup (req : Request) : Prop :=
  truthy req.token = true ∧ ∃ a, req.accessToken = some a ∧ a ≠ ""

/-- `validate` works with `t`, so a blacklisted `t` is refused. -/
def VerifiedTokenChecked (req : Request) (t : String) : Prop :=
  req.accessToken = some t ∧
    ∀ (env : Env) (w : World) (payload : JwtPayload),
      Blacklisted w (req.tenantId.getD "undefined") payload.userId t →
      (validate env req payload).run w = .error accessTokenRevoked w

/-- The characters between the first and the second space of a header. -/
def betweenSpaces (header : String) : List Char :=
  ((header.toList.dropWhile (· != ' ')).drop 1).takeWhile (· != ' ')

theorem space_notMem_bearer : ' ' ∉ "Bearer".toList := by decide

/-- A request that reaches the lookup has a header that starts with `Bearer` and a
space, and a nonempty text up to the next space. -/
theorem bearer_of_reaches {req : Request} {header : String} (hfresh : req.token = none)
    (hh : req.authorization = some header) (hr : ReachesLookup (accessTokenMiddleware req)) :
    ∃ b, header.toList = "Bearer".toList ++ ' ' :: b ∧ b.takeWhile (· != ' ') ≠ [] ∧
      (accessTokenMiddleware req).accessToken = some (String.ofList (b.takeWhile (· != ' '))) := by
  obtain ⟨htok, a, ha, hne⟩ := hr
  have hpre : "Bearer ".toList.isPrefixOf header.toList = true := by
    by_contra hp
    simp only [accessTokenMiddleware, hh, hp, Bool.false_eq_true, if_false, ite_self,
      hfresh, truthy] at htok
  obtain ⟨b, hb⟩ := List.isPrefixOf_iff_prefix.mp hpre
  have hcut : header.toList = "Bearer".toList ++ ' ' :: b := hb.symm
  have hsame : (accessTokenMiddleware req).accessToken = secondWord header := by
    unfold Request.accessToken accessTokenMiddleware
    split
    · rw [hh]; rfl
    · simp only [hh, hpre, if_true]; rfl
  have hword : secondWord header = some (String.ofList (b.takeWhile (· != ' '))) := by
    rw [secondWord, hcut, Text.secondPiece_append b space_notMem_bearer]
    rfl
  refine ⟨b, hcut, ?_, hsame.trans hword⟩
  intro hnil
  rw [hsame, hword, hnil] at ha
  exact hne (Option.some.inj ha).symm

/-- What passport extracts from such a header. -/
theorem extracted_of_bearer {header t : String} {b : List Char}
    (hcut : header.toList = "Bearer".toList ++ ' ' :: b)
    (ht : fromAuthHeaderAsBearerToken header = some t) :
    t.toList = (b.dropWhile Text.isSpace).takeWhile (!Text.isSpace ·) := by
  unfold fromAuthHeaderAsBearerToken at ht
  rw [hcut, Text.twoWords_append (by decide) (Text.not_isSpace_of_any (by decide))] at ht
  split at ht
  · rename_i scheme value heq
    split at heq
    · cases heq
    · cases heq
      split at ht
      · rw [← Option.some.inj ht, String.toList_ofList]
      · cases ht
  · cases ht

theorem betweenSpaces_of_bearer {header : String} {b : List Char}
    (hcut : header.toList = "Bearer".toList ++ ' ' :: b) :
    betweenSpaces header = b.takeWhile (· != ' ') := by
  rw [betweenSpaces, hcut]
  rfl

/-- For a header that passport accepts and a request that reaches the blacklist
lookup, `validate` checks the verified token exactly when no white space other than
the space itself stands between the first and the second space of the header. -/
theorem verified_token_checked_iff (req : Request) (header t : String)
    (hfresh : req.token = none) (hh : req.authorization = some header)
    (ht : fromAuthHeaderAsBearerToken header = some t)
    (hr : ReachesLookup (accessTokenMiddleware req)) :
    VerifiedTokenChecked (accessTokenMiddleware req) t ↔
      ∀ c ∈ betweenSpaces header, Text.isSpace c = false := by
  obtain ⟨b, hcut, hne, hacc⟩ := bearer_of_reaches hfresh hh hr
  have hext := extracted_of_bearer hcut ht
  rw [betweenSpaces_of_bearer hcut]
  constructor
  · rintro ⟨hsame, -⟩ c hc
    rw [hacc] at hsame
    have he := congrArg String.toList (Option.some.inj hsame)
    rw [String.toList_ofList, hext] at he
    rw [he] at hc
    exact Text.isSpace_of_mem_takeWhile hc
  · intro hno
    have hdrop : b.dropWhile Text.isSpace = b := by
      cases b with
      | nil => rfl
      | cons c b =>
        have hc : (c != ' ') = true := by
          by_contra hc
          exact hne (List.takeWhile_cons_of_neg hc)
        have hs := hno c (by rw [List.takeWhile_cons, if_pos hc]; simp)
        exact List.dropWhile_cons_of_neg (by simp [hs])
    have hcutEq : b.takeWhile (!Text.isSpace ·) = b.takeWhile (· != ' ') := by
      apply Text.takeWhile_eq_of_forall
      · intro c hc
        rw [bne_iff_ne]
        rintro rfl
        revert hc
        decide
      · intro c hc
        simp [hno c hc]
    have hsame : (accessTokenMiddleware req).accessToken = some t := by
      rw [hdrop] at hext
      rw [hacc, ← hcutEq, ← hext, String.ofList_toList]
    refine ⟨hsame, fun env w payload hb => run_validate_blacklisted hr.1 hsame ?_ hb⟩
    rintro rfl
    rw [hdrop, hcutEq] at hext
    exact hne hext.symm

def headerRequest (header : String) : Request :=
  { originalUrl := "/users", authorization := some header, xTenantId := some "root"
    xForwardedFor := none, ip := "::1", tenantId := some "root" }

theorem verified_token_checked_two_spaces_later :
    VerifiedTokenChecked (accessTokenMiddleware (headerRequest "Bearer aaa.bbb.ccc  x")) "aaa.bbb.ccc" :=
  (verified_token_checked_iff (headerRequest "Bearer aaa.bbb.ccc  x") "Bearer aaa.bbb.ccc  x"
    "aaa.bbb.ccc" rfl rfl (by decide) ⟨by decide, "aaa.bbb.ccc", by decide, by decide⟩).mpr
    (Text.not_isSpace_of_any (by decide))

/-- With a tab after the token, passport verifies `aaa.bbb.ccc` while `validate` looks
up `aaa.bbb.ccc`, a tab and `x`. -/
theorem tab_after_token_unchecked :
    fromAuthHeaderAsBearerToken "Bearer aaa.bbb.ccc\tx" = some "aaa.bbb.ccc" ∧
    ReachesLookup (accessTokenMiddleware (headerRequest "Bearer aaa.bbb.ccc\tx")) ∧
    ¬ VerifiedTokenChecked (accessTokenMiddleware (headerRequest "Bearer aaa.bbb.ccc\tx"))
      "aaa.bbb.ccc" := by
  refine ⟨by decide, ⟨by decide, "aaa.bbb.ccc\tx", by decide, by decide⟩, ?_⟩
  rintro ⟨h, -⟩
  revert h
  decide

end NestUserService.Auth.BearerToken
