import NestUserService.Shared.Cache

/-!
# The shape of cache keys

A key joins seven pieces with colons. When user id and token have no colon, a key can
be read back from its end, whatever the client code is. When no piece has a colon, no
other pieces give the same key.
-/

namespace NestUserService.Shared

open Lib NestUserService.Core

inductive Kind where
  | access
  | refresh
  | device
  | blacklist
  deriving DecidableEq

def Kind.name : Kind → String
  | .access => "access"
  | .refresh => "refresh"
  | .device => "device"
  | .blacklist => "blacklist"

/-- The common form of the four key builders. -/
def tokenKey (kind : Kind) (c u t : String) : String :=
  getUserTokenPrefix c u ++ (":" ++ kind.name) ++ ":" ++ t

theorem accessKey_eq (c u t : String) : accessKey c u t = tokenKey .access c u t := rfl

theorem refreshKey_eq (c u t : String) : refreshKey c u t = tokenKey .refresh c u t := rfl

theorem deviceKey_eq (c u t : String) : deviceKey c u t = tokenKey .device c u t := rfl

theorem blacklistKey_eq (c u t : String) : blacklistKey c u t = tokenKey .blacklist c u t := rfl

/-- No colon occurs in the text. -/
def NoColon (s : String) : Prop := ':' ∉ s.toList

instance (s : String) : Decidable (NoColon s) :=
  inferInstanceAs (Decidable (':' ∉ s.toList))

theorem noColon_withoutColons (s : String) : NoColon (withoutColons s) := by
  unfold NoColon withoutColons
  rw [String.toList_ofList]
  simp

theorem noColon_name (kind : Kind) : NoColon kind.name := by
  cases kind <;> decide

theorem Kind.name_inj {k k' : Kind} (h : k.name = k'.name) : k = k' := by
  revert h
  cases k <;> cases k' <;> decide

/-- Text after the last colon can be split off. -/
theorem append_colon_inj {a a' b b' : String} (hb : NoColon b) (hb' : NoColon b')
    (h : a ++ ":" ++ b = a' ++ ":" ++ b') : a = a' ∧ b = b' := by
  have hl := congrArg String.toList h
  simp only [String.toList_append, List.append_assoc] at hl
  obtain ⟨ha, hb⟩ := Text.append_sep_inj hb hb' hl
  exact ⟨String.toList_inj.mp ha, String.toList_inj.mp hb⟩

/-- The pieces of a key. -/
theorem tokenKey_pieces (k : Kind) (c u t : String) :
    tokenKey k c u t = "client:" ++ c ++ ":" ++ "user" ++ ":" ++ u ++ ":" ++ "token" ++ ":" ++
      k.name ++ ":" ++ t := by
  unfold tokenKey getUserTokenPrefix getClientPrefix
  rw [show ":user:" = ":" ++ "user" ++ ":" from rfl, show ":token" = ":" ++ "token" from rfl]
  simp only [String.append_assoc]

/-- A key is read back from its end; the client codes may hold colons. -/
theorem tokenKey_inj {k k' : Kind} {c c' u u' t t' : String} (hu : NoColon u) (hu' : NoColon u')
    (ht : NoColon t) (ht' : NoColon t') (h : tokenKey k c u t = tokenKey k' c' u' t') :
    k = k' ∧ c = c' ∧ u = u' ∧ t = t' := by
  rw [tokenKey_pieces, tokenKey_pieces] at h
  have htoken : NoColon "token" := by decide
  have huser : NoColon "user" := by decide
  obtain ⟨hkind, hteq⟩ := append_colon_inj ht ht' h
  obtain ⟨htok, hk⟩ := append_colon_inj (noColon_name k) (noColon_name k') hkind
  obtain ⟨hid, -⟩ := append_colon_inj htoken htoken htok
  obtain ⟨hcode, hueq⟩ := append_colon_inj hu hu' hid
  obtain ⟨hpre, -⟩ := append_colon_inj huser huser hcode
  exact ⟨Kind.name_inj hk, (String.append_right_inj _).mp hpre, hueq, hteq⟩

/-- The number of colons in a key. -/
theorem count_tokenKey (k : Kind) (c u t : String) :
    (tokenKey k c u t).toList.count ':' =
      6 + c.toList.count ':' + u.toList.count ':' + t.toList.count ':' := by
  have hname : k.name.toList.count ':' = 0 := List.count_eq_zero.mpr (noColon_name k)
  have hclient : "client:".toList.count ':' = 1 := by decide
  have huser : "user".toList.count ':' = 0 := by decide
  have htoken : "token".toList.count ':' = 0 := by decide
  have hcolon : ":".toList.count ':' = 1 := by decide
  simp only [tokenKey_pieces, String.toList_append, List.count_append, hname, hclient, huser,
    htoken, hcolon]
  omega

/-- Pieces without colons are determined by their key, whatever the other pieces are. -/
theorem tokenKey_unique {k k' : Kind} {c c' u u' t t' : String} (hc : NoColon c) (hu : NoColon u)
    (ht : NoColon t) (h : tokenKey k c u t = tokenKey k' c' u' t') :
    k = k' ∧ c = c' ∧ u = u' ∧ t = t' := by
  have hcount := congrArg (fun s : String => s.toList.count ':') h
  simp only [count_tokenKey, List.count_eq_zero.mpr hc, List.count_eq_zero.mpr hu,
    List.count_eq_zero.mpr ht] at hcount
  refine tokenKey_inj hu ?_ ht ?_ h
  · exact List.count_eq_zero.mp (by omega)
  · exact List.count_eq_zero.mp (by omega)

/-- Within one namespace, a user id and a token without colons are determined by their key. -/
theorem tokenKey_unique_of_code {k k' : Kind} {c u u' t t' : String} (hu : NoColon u)
    (ht : NoColon t) (h : tokenKey k' c u' t' = tokenKey k c u t) : k' = k ∧ u' = u ∧ t' = t := by
  have hcount := congrArg (fun s : String => s.toList.count ':') h
  simp only [count_tokenKey, List.count_eq_zero.mpr hu, List.count_eq_zero.mpr ht] at hcount
  have hu' : NoColon u' := List.count_eq_zero.mp (by omega)
  have ht' : NoColon t' := List.count_eq_zero.mp (by omega)
  obtain ⟨hk, -, hid, htoken⟩ := tokenKey_inj hu' hu ht' ht h
  exact ⟨hk, hid, htoken⟩

/-- The key starts with the given text. -/
def HasPrefix (pre key : String) : Prop := ∃ r, key = pre ++ r

def accessPattern (clientCode userId : String) : String :=
  getUserAccessTokenPrefix clientCode userId ++ ":"

def refreshPattern (clientCode userId : String) : String :=
  getUserRefreshTokenPrefix clientCode userId ++ ":"

theorem pattern_star (pre : String) : pre ++ ":*" = pre ++ ":" ++ "*" := by
  rw [String.append_assoc]
  rfl

theorem hasPrefix_accessKey (c u t : String) : HasPrefix (accessPattern c u) (accessKey c u t) :=
  ⟨t, rfl⟩

theorem hasPrefix_refreshKey (c u t : String) :
    HasPrefix (refreshPattern c u) (refreshKey c u t) := ⟨t, rfl⟩

theorem plain_userTokenPrefix {c u : String} (hc : Glob.Plain c) (hu : Glob.Plain u) :
    Glob.Plain (getUserTokenPrefix c u) := by
  unfold getUserTokenPrefix getClientPrefix
  simp only [Glob.plain_append]
  exact ⟨⟨⟨⟨by decide, hc⟩, by decide⟩, hu⟩, by decide⟩

theorem plain_accessPattern {c u : String} (hc : Glob.Plain c) (hu : Glob.Plain u) :
    Glob.Plain (accessPattern c u) := by
  unfold accessPattern getUserAccessTokenPrefix
  simp only [Glob.plain_append]
  exact ⟨⟨plain_userTokenPrefix hc hu, by decide⟩, by decide⟩

theorem plain_refreshPattern {c u : String} (hc : Glob.Plain c) (hu : Glob.Plain u) :
    Glob.Plain (refreshPattern c u) := by
  unfold refreshPattern getUserRefreshTokenPrefix
  simp only [Glob.plain_append]
  exact ⟨⟨plain_userTokenPrefix hc hu, by decide⟩, by decide⟩

/-- Two kinds of keys of one user differ in the letter after the common part. -/
theorem kind_ne {p a b r t : String} {x y : Char} {s s' : List Char}
    (ha : a.toList = ':' :: x :: s) (hb : b.toList = ':' :: y :: s') (hxy : x ≠ y) :
    p ++ a ++ ":" ++ r ≠ p ++ b ++ ":" ++ t := by
  intro h
  have hl := congrArg String.toList h
  simp only [String.toList_append, List.append_assoc] at hl
  have hab := List.append_cancel_left hl
  rw [ha, hb] at hab
  exact hxy (List.cons.inj (List.cons.inj hab).2).1

theorem blacklistKey_not_access (c u t : String) :
    ¬ HasPrefix (accessPattern c u) (blacklistKey c u t) := by
  rintro ⟨r, h⟩
  exact kind_ne (x := 'b') (y := 'a') rfl rfl (by decide) h

theorem blacklistKey_not_refresh (c u t : String) :
    ¬ HasPrefix (refreshPattern c u) (blacklistKey c u t) := by
  rintro ⟨r, h⟩
  exact kind_ne (x := 'b') (y := 'r') rfl rfl (by decide) h

theorem accessKey_not_refresh (c u t : String) :
    ¬ HasPrefix (refreshPattern c u) (accessKey c u t) := by
  rintro ⟨r, h⟩
  exact kind_ne (x := 'a') (y := 'r') rfl rfl (by decide) h

theorem noColon_tokenOfKey (key : String) : NoColon (tokenOfKey key) := by
  unfold NoColon tokenOfKey
  rw [String.toList_ofList]
  exact Text.notMem_lastPiece ':' key.toList

/-- The token of a key, when the token has no colon. -/
theorem tokenOfKey_tokenKey (kind : Kind) {c u t : String} (ht : NoColon t) :
    tokenOfKey (tokenKey kind c u t) = t := by
  unfold tokenOfKey tokenKey
  rw [String.toList_append, String.toList_append, List.append_assoc]
  change String.ofList (Text.lastPiece ':' (_ ++ ':' :: t.toList)) = t
  rw [Text.lastPiece_append, Text.lastPiece_of_notMem ht, String.ofList_toList]

theorem tokenOfKey_accessKey {c u t : String} (ht : NoColon t) :
    tokenOfKey (accessKey c u t) = t :=
  tokenOfKey_tokenKey .access ht

theorem tokenOfKey_blacklistKey {c u t : String} (ht : NoColon t) :
    tokenOfKey (blacklistKey c u t) = t :=
  tokenOfKey_tokenKey .blacklist ht

end NestUserService.Shared
