import NestUserService.Tenant.EnvFile
import NestUserService.Tenant.MigrateAll

/-!
# The URLs of a tenant database

The handler and the two scripts put the URL together for themselves, the scripts from
their own `DATABASE_URL` and `config_name`. `register-env-key.js` is passed the server's
`DATABASE_URL`, `generate-schema.js` the URL of the tenant.
-/

namespace NestUserService.Tenant.ScriptUrls

open Lib NestUserService.Core

/-- `process.env.config_name || 'auto'`. -/
def scriptCode (configName : Option String) : String :=
  if truthy configName then configName.getD "" else "auto"

/-- The URL of both scripts: `DATABASE_URL` without its last segment, and the name. -/
def scriptUrl (env : Config) (databaseUrl configName : Option String) : String :=
  dropLastSegment (baseDbUrl databaseUrl) ++ "/" ++ MigrateAll.dbNameOf env (scriptCode configName)

/-- `fullDbUrl` of `register-env-key.js`. -/
def fullDbUrl (env : Config) (databaseUrl configName : Option String) : String :=
  scriptUrl env databaseUrl configName

/-- `fallbackDbUrl` of `generate-schema.js`. -/
def fallbackDbUrl (env : Config) (databaseUrl configName : Option String) : String :=
  scriptUrl env databaseUrl configName

/-- `envKey` of `register-env-key.js`. -/
def registeredKey (env : Config) (configName : Option String) : String :=
  MigrateAll.envKeyOf env (scriptCode configName)

/-- `envKey` of `generate-schema.js`. -/
def generatedKey (env : Config) (configName : Option String) : String :=
  MigrateAll.envKeyOf env (scriptCode configName)

theorem scriptCode_configName (c : String) : scriptCode (some (configName c)) = configName c := by
  have hne : configName c ≠ "" := by
    intro h
    have hlength := congrArg (fun s => s.toList.length) h
    unfold configName at hlength
    simp only [String.toList_append, List.length_append] at hlength
    have hpre : "clientCreate_".toList.length = 13 := rfl
    have hempty : "".toList.length = 0 := rfl
    omega
  simp [scriptCode, truthy, hne]

/-- The script that is run for a client code. -/
theorem scriptUrl_configName (env : Config) (databaseUrl : Option String) (c : String) :
    scriptUrl env databaseUrl (some (configName c)) = scriptDbUrl env databaseUrl c := by
  unfold scriptUrl
  rw [scriptCode_configName]
  rfl

theorem generatedKey_configName (env : Config) (c : String) :
    generatedKey env (some (configName c)) = envKey env c := by
  unfold generatedKey
  rw [scriptCode_configName]
  rfl

/-- `migrate-all.js` computes the fallback in the same way. -/
theorem fallbackDbUrl_eq (env : Config) (lines : List (String × String)) :
    fallbackDbUrl env (MigrateAll.dotenvVariable env lines "DATABASE_URL")
        (MigrateAll.dotenvVariable env lines "config_name") =
      MigrateAll.fallbackDbUrl env lines (MigrateAll.configNameOf env lines) := rfl

/-- The text after the last slash. -/
def lastSegment (url : String) : String := String.ofList (Text.lastPiece '/' url.toList)

theorem toList_slash (a b : String) : (a ++ "/" ++ b).toList = a.toList ++ '/' :: b.toList := by
  rw [String.toList_append, String.toList_append, List.append_assoc]
  rfl

theorem lastSegment_append (a : String) {b : String} (h : '/' ∉ b.toList) :
    lastSegment (a ++ "/" ++ b) = b := by
  unfold lastSegment
  rw [toList_slash, Text.lastPiece_append, Text.lastPiece_of_notMem h, String.ofList_toList]

theorem dropLastSegment_append (a : String) {b : String} (h : '/' ∉ b.toList) :
    dropLastSegment (a ++ "/" ++ b) = a := by
  have hall : ∀ c ∈ b.toList.reverse, (c != '/') = true := by
    intro c hc
    rw [bne_iff_ne]
    rintro rfl
    exact h (List.mem_reverse.mp hc)
  unfold dropLastSegment
  rw [toList_slash, if_pos (by simp), List.reverse_append, List.reverse_cons, List.append_assoc,
    List.dropWhile_append_of_pos hall]
  simp

theorem baseDbUrl_slash (a b : String) : baseDbUrl (some (a ++ "/" ++ b)) = a ++ "/" ++ b := by
  have hne : a ++ "/" ++ b ≠ "" := by
    intro h
    have hlist := congrArg String.toList h
    rw [toList_slash] at hlist
    exact List.append_ne_nil_of_right_ne_nil _ (List.cons_ne_nil _ _) hlist
  simp [baseDbUrl, truthy, hne]

/-- A script replaces the name of a database. -/
theorem scriptUrl_replace (env : Config) (server : String) {d : String} (h : '/' ∉ d.toList)
    (configName : Option String) :
    scriptUrl env (some (server ++ "/" ++ d)) configName =
      server ++ "/" ++ MigrateAll.dbNameOf env (scriptCode configName) := by
  unfold scriptUrl
  rw [baseDbUrl_slash, dropLastSegment_append server h]

def backtick : Char := '\x60'

/-- The statement of `createDatabase`. -/
def createDatabaseQuery (dbName : String) : String :=
  "CREATE DATABASE IF NOT EXISTS `" ++ dbName ++ "`"

/-- The name that MySQL reads in the statement. The host's `createDatabase` takes the name
as it was meant. -/
def createdName (dbName : String) : Option String :=
  (Text.quotedName backtick ((createDatabaseQuery dbName).toList.drop
    "CREATE DATABASE IF NOT EXISTS `".length)).map String.ofList

theorem createdName_iff (dbName : String) :
    createdName dbName = some dbName ↔ backtick ∉ dbName.toList := by
  have htext : (createDatabaseQuery dbName).toList.drop "CREATE DATABASE IF NOT EXISTS `".length =
      dbName.toList ++ [backtick] := by
    unfold createDatabaseQuery
    rw [String.toList_append, String.toList_append, List.append_assoc, ← String.length_toList,
      List.drop_left]
    rfl
  unfold createdName
  rw [htext, ← Text.quotedName_concat_iff, Option.map_eq_some_iff]
  constructor
  · rintro ⟨s, hs, hname⟩
    rw [hs, ← hname, String.toList_ofList]
  · intro h
    exact ⟨dbName.toList, h, String.ofList_toList⟩

/-- The handler, the two scripts and the server mean one database. -/
structure Agreement (env : Config) (command : CreateClientAdminUserCommand) : Prop where
  registered : fullDbUrl env env.databaseUrl (some (configName command.clientCode)) =
    (updateClientDbDto env command).dbUrl
  generated : fallbackDbUrl env (some (tenantDbUrl env command.clientCode))
    (some (configName command.clientCode)) = (updateClientDbDto env command).dbUrl
  key : registeredKey env (some (configName command.clientCode)) =
    generatedKey env (some (configName command.clientCode))
  created : createdName (tenantDbName env command.clientCode) =
    some (lastSegment (updateClientDbDto env command).dbUrl)

variable {env : Config}

/-- The lower-cased code has a slash where the code has one. -/
theorem notMem_tenantDbName (hlaws : EnvFile.CaseLaws env) {c : String} (h : '/' ∉ c.toList) :
    '/' ∉ (tenantDbName env c).toList := by
  have hlower := hlaws.lowerSlash c
  rw [List.count_eq_zero.mpr h] at hlower
  unfold tenantDbName
  rw [String.toList_append, List.mem_append, not_or]
  exact ⟨by decide, List.count_eq_zero.mp hlower⟩

theorem dbNameOf_configName (hlaws : EnvFile.CaseLaws env) (c : String) :
    MigrateAll.dbNameOf env (scriptCode (some (configName c))) = tenantDbName env c := by
  rw [scriptCode_configName]
  exact hlaws.scriptDbName_eq c

/-- The URLs are one text for every code without a slash. -/
theorem urls_agree (hlaws : EnvFile.CaseLaws env) {base d c : String} (hd : '/' ∉ d.toList)
    (hc : '/' ∉ c.toList) (hbase : env.databaseBaseUrl = some base)
    (hurl : env.databaseUrl = some (base ++ "/" ++ d)) :
    fullDbUrl env env.databaseUrl (some (configName c)) = tenantDbUrl env c ∧
      fallbackDbUrl env (some (tenantDbUrl env c)) (some (configName c)) = tenantDbUrl env c := by
  have htenant : tenantDbUrl env c = base ++ "/" ++ tenantDbName env c := by
    unfold tenantDbUrl
    rw [hbase]
    rfl
  unfold fullDbUrl fallbackDbUrl
  rw [htenant, hurl, scriptUrl_replace env base hd,
    scriptUrl_replace env base (notMem_tenantDbName hlaws hc), dbNameOf_configName hlaws]
  exact ⟨rfl, rfl⟩

/-- Handler and scripts agree on the URL and the variable; the server is told to create the
database of that URL exactly when the lower-cased code has no backtick. -/
theorem tenant_url_agreement_iff (hlaws : EnvFile.CaseLaws env)
    (command : CreateClientAdminUserCommand) (hc : '/' ∉ command.clientCode.toList)
    {base d : String} (hd : '/' ∉ d.toList) (hbase : env.databaseBaseUrl = some base)
    (hurl : env.databaseUrl = some (base ++ "/" ++ d)) :
    Agreement env command ↔ backtick ∉ (env.toLowerCase command.clientCode).toList := by
  obtain ⟨hfull, hfallback⟩ := urls_agree hlaws hd hc hbase hurl
  have hlast : lastSegment (updateClientDbDto env command).dbUrl =
      tenantDbName env command.clientCode :=
    lastSegment_append (settingText env.databaseBaseUrl) (notMem_tenantDbName hlaws hc)
  have hname : backtick ∉ (tenantDbName env command.clientCode).toList ↔
      backtick ∉ (env.toLowerCase command.clientCode).toList := by
    have hpre : backtick ∉ "client_".toList := by decide
    unfold tenantDbName
    rw [String.toList_append, List.mem_append, not_or]
    exact and_iff_right hpre
  rw [← hname, ← createdName_iff]
  constructor
  · intro h
    rw [h.created, hlast]
  · intro h
    exact ⟨hfull, hfallback, rfl, by rw [h, hlast]⟩

def sampleCommand (c : String) : CreateClientAdminUserCommand :=
  ⟨"kim", "kim@example.com", "pw", c, "Acme"⟩

theorem tenant_url_agreement_sample : Agreement Config.sample (sampleCommand "CL-1") :=
  (tenant_url_agreement_iff EnvFile.caseLaws_sample (sampleCommand "CL-1") (by decide)
    (d := "users") (by decide) rfl (by decide +kernel)).mpr (by decide +kernel)

/-- Two backticks in the code become one in the name of the database. -/
theorem backticks_collapse : '/' ∉ (sampleCommand "a``b").clientCode.toList ∧
    createdName (tenantDbName Config.sample "a``b") = some "client_a`b" ∧
    ¬ Agreement Config.sample (sampleCommand "a``b") := by
  refine ⟨by decide, by decide +kernel, fun h => ?_⟩
  exact absurd h.created (by decide +kernel)

/-- `scheme://authority`, with or without the name of a database. -/
structure DatabaseUrl where
  scheme : String
  authority : String
  db : Option String
  authority_ne : authority ≠ ""
  authority_slash : '/' ∉ authority.toList
  db_name : ∀ d, db = some d → d ≠ "" ∧ '/' ∉ d.toList

namespace DatabaseUrl

def server (u : DatabaseUrl) : String := u.scheme ++ "://" ++ u.authority

def text (u : DatabaseUrl) : String :=
  match u.db with
  | some d => u.server ++ "/" ++ d
  | none => u.server

/-- What the scripts take when the variable is not set. -/
def builtIn : DatabaseUrl where
  scheme := "mysql"
  authority := "root:test@localhost:3306"
  db := none
  authority_ne := by decide
  authority_slash := by decide
  db_name := by simp

variable (u : DatabaseUrl)

/-- Without a database, the last slash of the URL is one of the two before the authority. -/
theorem server_eq : u.server = u.scheme ++ ":/" ++ "/" ++ u.authority := by
  unfold server
  rw [show "://" = ":/" ++ "/" from rfl, ← String.append_assoc]

theorem baseDbUrl_text : baseDbUrl (some u.text) = u.text := by
  unfold text
  cases u.db with
  | some d => exact baseDbUrl_slash u.server d
  | none =>
    dsimp only
    rw [server_eq, baseDbUrl_slash]

/-- The server is kept exactly where there is a database to strip. -/
theorem dropLastSegment_text : dropLastSegment u.text = u.server ↔ u.db.isSome = true := by
  unfold text
  cases hd : u.db with
  | some d =>
    dsimp only
    rw [dropLastSegment_append u.server (u.db_name d hd).2]
    simp
  | none =>
    dsimp only
    have hdrop : dropLastSegment u.server = u.scheme ++ ":/" := by
      rw [server_eq, dropLastSegment_append _ u.authority_slash]
    rw [hdrop, server_eq]
    constructor
    · intro h
      have hlength := congrArg (fun s => s.toList.length) h
      simp only [String.toList_append, List.length_append] at hlength
      have hslash : "/".toList.length = 1 := rfl
      omega
    · intro h
      cases h

end DatabaseUrl

/-- Both scripts keep scheme and authority. -/
def ServerKept (env : Config) (databaseUrl : Option DatabaseUrl) (configName : Option String) :
    Prop :=
  let expected := (databaseUrl.getD .builtIn).server ++ "/client_" ++
    trimConfigName (env.toLowerCase (scriptCode configName))
  fullDbUrl env (databaseUrl.map DatabaseUrl.text) configName = expected ∧
    fallbackDbUrl env (databaseUrl.map DatabaseUrl.text) configName = expected

theorem baseDbUrl_variable (databaseUrl : Option DatabaseUrl) :
    baseDbUrl (databaseUrl.map DatabaseUrl.text) = (databaseUrl.getD .builtIn).text := by
  cases databaseUrl with
  | some u => exact u.baseDbUrl_text
  | none => rfl

/-- The scripts keep scheme and authority exactly when `DATABASE_URL` names a database. -/
theorem server_kept_iff (env : Config) (databaseUrl : Option DatabaseUrl)
    (configName : Option String) :
    ServerKept env databaseUrl configName ↔ (databaseUrl.getD .builtIn).db.isSome = true := by
  have hurl : scriptUrl env (databaseUrl.map DatabaseUrl.text) configName =
      dropLastSegment (databaseUrl.getD .builtIn).text ++ "/client_" ++
        trimConfigName (env.toLowerCase (scriptCode configName)) := by
    unfold scriptUrl MigrateAll.dbNameOf
    rw [baseDbUrl_variable, show "/client_" = "/" ++ "client_" from rfl]
    simp only [String.append_assoc]
  unfold ServerKept fullDbUrl fallbackDbUrl
  dsimp only
  rw [hurl, and_self, ← DatabaseUrl.dropLastSegment_text]
  constructor
  · intro h
    exact (String.append_left_inj _).mp ((String.append_left_inj _).mp h)
  · intro h
    rw [h]

def hostOnly : DatabaseUrl where
  scheme := "mysql"
  authority := "db:3306"
  db := none
  authority_ne := by decide
  authority_slash := by decide
  db_name := by simp

/-- The authority is taken for a database. -/
theorem authority_stripped :
    fullDbUrl Config.sample (some hostOnly.text) none = "mysql://client_auto" ∧
      ¬ ServerKept Config.sample (some hostOnly) none := by
  refine ⟨by decide +kernel, fun h => ?_⟩
  exact absurd h.1 (by decide +kernel)

end NestUserService.Tenant.ScriptUrls
