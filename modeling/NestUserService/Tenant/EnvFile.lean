import Mathlib.Data.List.Perm.Subperm
import NestUserService.Lib.Dotenv
import NestUserService.Tenant.CalmProvisioning

/-!
# The text of `.env`

`register-env-key.js` tests whether the key of a client code occurs anywhere in the text of
`.env`, and appends a line for it when it does not. Here the file is its text; the host
keeps its lines.
-/

namespace NestUserService.Tenant.EnvFile

open Lib NestUserService.Core

/-- A run of the script: the `DATABASE_URL` of its environment, and the client code in its
`config_name`. -/
structure Registration where
  databaseUrl : Option String
  clientCode : String

/-- `fullDbUrl`. -/
def Registration.fullDbUrl (env : Config) (run : Registration) : String :=
  scriptDbUrl env run.databaseUrl run.clientCode

def Registration.envKey (env : Config) (run : Registration) : String :=
  Tenant.envKey env run.clientCode

def Registration.envLine (env : Config) (run : Registration) : String :=
  run.envKey env ++ "=" ++ run.fullDbUrl env

/-- `content.includes(`${envKey}=`)`. -/
def includesKey (content key : String) : Bool :=
  decide ((key ++ "=").toList <:+: content.toList)

/-- The script; a missing file reads as the empty text. -/
def Registration.execute (env : Config) (run : Registration) (content : String) : String :=
  if includesKey content (run.envKey env) then content
  else content ++ "\n" ++ run.envLine env

def registerAll (env : Config) (runs : List Registration) (content : String) : String :=
  runs.foldl (fun content run => run.execute env content) content

variable {env : Config} {content : String} {runs : List Registration}

/-- What the scripts rely on in the case mappings: they map the fixed part of `config_name`
by itself, and a slash to a slash. -/
structure CaseLaws (env : Config) : Prop where
  lower : ∀ c, env.toLowerCase (configName c) = "clientcreate_" ++ env.toLowerCase c
  upper : ∀ c, env.toUpperCase (configName c) = "CLIENTCREATE_" ++ env.toUpperCase c
  lowerSlash : ∀ c, (env.toLowerCase c).toList.count '/' = c.toList.count '/'
  upperSlash : ∀ c, (env.toUpperCase c).toList.count '/' = c.toList.count '/'

theorem trimConfigName_append (s : String) : trimConfigName ("clientcreate_" ++ s) = s := by
  have hprefix : ("clientcreate_".toList.isPrefixOf ("clientcreate_" ++ s).toList) = true := by
    rw [List.isPrefixOf_iff_prefix, String.toList_append]
    exact List.prefix_append _ _
  unfold trimConfigName
  dsimp only
  rw [if_pos hprefix, String.toList_append, List.drop_left, String.ofList_toList]

theorem trimmedCode_eq {c : String}
    (h : env.toLowerCase (configName c) = "clientcreate_" ++ env.toLowerCase c) :
    trimmedCode env c = env.toLowerCase c := by
  unfold trimmedCode
  rw [h, trimConfigName_append]

/-- The scripts and the handler name the database alike. -/
theorem CaseLaws.scriptDbName_eq (h : CaseLaws env) (c : String) :
    scriptDbName env c = tenantDbName env c := by
  unfold scriptDbName tenantDbName
  rw [trimmedCode_eq (h.lower c)]

/-- The name of a variable without the fixed part. -/
def envSuffix (env : Config) (c : String) : List Char :=
  (env.toUpperCase c).toList.map fun c => if c = '-' then '_' else c

theorem CaseLaws.toList_envKey (h : CaseLaws env) (c : String) :
    (Tenant.envKey env c).toList = "DATABASE_URL_CLIENTCREATE_".toList ++ envSuffix env c := by
  have hpre : ("CLIENTCREATE_".toList.map fun c => if c = '-' then '_' else c) =
      "CLIENTCREATE_".toList := by decide
  have htext : "DATABASE_URL_CLIENTCREATE_".toList =
      "DATABASE_URL_".toList ++ "CLIENTCREATE_".toList := by decide
  unfold Tenant.envKey envSuffix
  rw [h.upper, htext, String.toList_append, String.toList_append, List.map_append, hpre,
    List.append_assoc]
  exact congrArg _ String.toList_ofList

/-- Codes with one variable have as many slashes. -/
theorem CaseLaws.slashes_of_envKey (h : CaseLaws env) {c c' : String}
    (hkey : Tenant.envKey env c = Tenant.envKey env c') :
    (env.toLowerCase c).toList.count '/' = (env.toLowerCase c').toList.count '/' := by
  have hcount (c : String) : (envSuffix env c).count '/' = c.toList.count '/' := by
    rw [← h.upperSlash c]
    unfold envSuffix
    induction (env.toUpperCase c).toList with
    | nil => rfl
    | cons a l ih =>
      rw [List.map_cons, List.count_cons, List.count_cons, ih]
      by_cases ha : a = '-'
      · subst ha
        rfl
      · rw [if_neg ha]
  have hsuffix := congrArg String.toList hkey
  rw [h.toList_envKey, h.toList_envKey] at hsuffix
  rw [h.lowerSlash, h.lowerSlash, ← hcount c, ← hcount c', List.append_cancel_left hsuffix]

/-- A URL of the database of the client code. -/
def PointsTo (env : Config) (c url : String) : Prop :=
  ("/" ++ tenantDbName env c).toList <:+ url.toList

instance (env : Config) (c url : String) : Decidable (PointsTo env c url) :=
  inferInstanceAs (Decidable (_ <:+ _))

/-- `.env` assigns the variable of the client code a URL of its database, and the schema that
is generated for the code uses that URL, unless the environment of the process has one. -/
def Registered (env : Config) (content c : String) : Prop :=
  ∃ url, Dotenv.get content (envKey env c) = some url ∧ PointsTo env c url ∧
    (env.processEnv (envKey env c) = none → ∀ dbUrl,
      resolveDatasource env (Dotenv.parse content)
        (tenantSchema env dbUrl c (Dotenv.parse content)).datasource = some url)

/-- No variable of a client is assigned. -/
def NoClientVariable (content : String) : Prop :=
  ∀ p ∈ Dotenv.parse content, ¬ "DATABASE_URL_CLIENTCREATE_".toList <+: p.1.toList

instance (content : String) : Decidable (NoClientVariable content) :=
  inferInstanceAs (Decidable (∀ p ∈ _, ¬ _ <+: _))

/-- `DATABASE_URL` is one line, up to its last slash. -/
def Registration.OneLine (run : Registration) : Prop :=
  '\n' ∉ (dropLastSegment (baseDbUrl run.databaseUrl)).toList

/-- The lines of the runs can be read, and none of their keys occurs in the file or in an
earlier line. -/
structure Clean (env : Config) (content : String) (runs : List Registration) : Prop where
  key : ∀ run ∈ runs, Dotenv.IsKey (run.envKey env)
  line : ∀ run ∈ runs, '\n' ∉ (run.fullDbUrl env).toList
  url : ∀ run ∈ runs, PointsTo env run.clientCode (Dotenv.readValue (run.fullDbUrl env))
  fresh : ∀ run ∈ runs, includesKey content (run.envKey env) = false
  apart : runs.Pairwise fun run later => includesKey (run.envLine env) (later.envKey env) = false

theorem includesKey_append {a b key : String} (h : '\n' ∉ key.toList) :
    includesKey (a ++ "\n" ++ b) key = (includesKey a key || includesKey b key) := by
  have htext : (a ++ "\n" ++ b).toList = a.toList ++ '\n' :: b.toList := by simp
  have hline : '\n' ∉ (key ++ "=").toList := by
    rw [String.toList_append, List.mem_append, not_or]
    exact ⟨h, by decide⟩
  unfold includesKey
  rw [htext, ← Bool.decide_or]
  exact decide_eq_decide.mpr (Text.infix_append_cons hline)

theorem includesKey_envLine (run : Registration) :
    includesKey (run.envLine env) (run.envKey env) = true := by
  unfold includesKey Registration.envLine
  rw [decide_eq_true_eq, @String.toList_append (run.envKey env ++ "=")]
  exact List.infix_append_left

/-- The text of a file with these lines. -/
def render (lines : List (String × String)) : String :=
  lines.foldl (fun text line => text ++ "\n" ++ (line.1 ++ "=" ++ line.2)) ""

theorem render_append (lines : List (String × String)) (key value : String) :
    render (lines ++ [(key, value)]) = render lines ++ "\n" ++ (key ++ "=" ++ value) := by
  unfold render
  rw [List.foldl_append]
  rfl

/-- The host looks for a key in its lines, and finds it where it is in the text. -/
theorem includesKey_render {key : String} (h : '\n' ∉ key.toList) (lines : List (String × String)) :
    includesKey (render lines) key = envIncludes lines key := by
  induction lines using List.reverseRecOn with
  | nil =>
    change decide _ = false
    rw [decide_eq_false_iff_not]
    intro hin
    have hlength := hin.length_le
    rw [String.toList_append, List.length_append] at hlength
    have hequals : "=".toList.length = 1 := rfl
    have hempty : (render []).toList.length = 0 := rfl
    omega
  | append_singleton lines line ih =>
    rw [render_append, includesKey_append h, ih]
    unfold envIncludes
    rw [List.any_append, List.any_cons, List.any_nil, Bool.or_false]
    rfl

/-- On the text of the lines, the script does what the host's model of it does. -/
theorem execute_render (env : Config) (clientCode : String)
    (h : '\n' ∉ (envKey env clientCode).toList) (lines : List (String × String)) :
    (Registration.mk env.databaseUrl clientCode).execute env (render lines) =
      render (registeredEnv env clientCode lines) := by
  unfold Registration.execute registeredEnv
  change (if includesKey (render lines) (envKey env clientCode) = true then _ else _) = _
  rw [includesKey_render h]
  split
  · rfl
  · rw [render_append]
    rfl

/-- The lines are read back from their text. -/
theorem parse_render {lines : List (String × String)} (h : ∀ line ∈ lines,
    Dotenv.IsKey line.1 ∧ '\n' ∉ line.2.toList ∧ Dotenv.readValue line.2 = line.2) :
    Dotenv.parse (render lines) = lines := by
  induction lines using List.reverseRecOn with
  | nil => rfl
  | append_singleton lines line ih =>
    obtain ⟨hkey, hline, hvalue⟩ := h line (by simp)
    rw [render_append, Dotenv.parse_append, Dotenv.parse_assignment hkey hline, hvalue,
      ih fun l hl => h l (List.mem_append_left _ hl)]

/-- The assignment that a run stands for. -/
def Registration.entry (env : Config) (run : Registration) : String × String :=
  (run.envKey env, Dotenv.readValue (run.fullDbUrl env))

theorem parse_appended {run : Registration} (hkey : Dotenv.IsKey (run.envKey env))
    (hline : '\n' ∉ (run.fullDbUrl env).toList) (content : String) :
    Dotenv.parse (content ++ "\n" ++ run.envLine env) =
      Dotenv.parse content ++ [run.entry env] := by
  unfold Registration.envLine
  rw [Dotenv.parse_append, Dotenv.parse_assignment hkey hline]
  rfl

/-- The runs that append their line. -/
theorem exists_appended (hkey : ∀ run ∈ runs, Dotenv.IsKey (run.envKey env))
    (hline : ∀ run ∈ runs, '\n' ∉ (run.fullDbUrl env).toList) (content : String) :
    ∃ kept, kept.Sublist runs ∧ Dotenv.parse (registerAll env runs content) =
        Dotenv.parse content ++ kept.map (Registration.entry env) ∧
      (kept = runs ↔ (∀ run ∈ runs, includesKey content (run.envKey env) = false) ∧
        runs.Pairwise fun run later => includesKey (run.envLine env) (later.envKey env) = false) := by
  induction runs generalizing content with
  | nil => exact ⟨[], List.Sublist.refl _, by simp [registerAll], by simp⟩
  | cons run runs ih =>
    have hkeys := fun r hr => hkey r (List.mem_cons_of_mem run hr)
    have hlines := fun r hr => hline r (List.mem_cons_of_mem run hr)
    by_cases hincluded : includesKey content (run.envKey env) = true
    · obtain ⟨kept, hsub, hparse, -⟩ := ih hkeys hlines content
      have hrun : run.execute env content = content := if_pos hincluded
      refine ⟨kept, hsub.cons run, ?_, ?_⟩
      · unfold registerAll at hparse ⊢
        rw [List.foldl_cons, hrun, hparse]
      · refine iff_of_false (fun he => ?_) fun h => ?_
        · have hlength := hsub.length_le
          rw [he, List.length_cons] at hlength
          omega
        · rw [h.1 run (List.mem_cons_self ..)] at hincluded
          cases hincluded
    · obtain ⟨kept, hsub, hparse, hall⟩ := ih hkeys hlines (content ++ "\n" ++ run.envLine env)
      have hrun : run.execute env content = content ++ "\n" ++ run.envLine env := if_neg hincluded
      refine ⟨run :: kept, hsub.cons_cons run, ?_, ?_⟩
      · unfold registerAll at hparse ⊢
        rw [List.foldl_cons, hrun, hparse, parse_appended (hkey run (List.mem_cons_self ..))
          (hline run (List.mem_cons_self ..)), List.map_cons, List.append_assoc]
        rfl
      · rw [List.cons.injEq, hall, List.pairwise_cons]
        have hsplit (r : Registration) (hr : r ∈ runs) :
            includesKey (content ++ "\n" ++ run.envLine env) (r.envKey env) = false ↔
              includesKey content (r.envKey env) = false ∧
                includesKey (run.envLine env) (r.envKey env) = false := by
          rw [includesKey_append (hkeys r hr).line, Bool.or_eq_false_iff]
        constructor
        · rintro ⟨-, hfresh, hapart⟩
          refine ⟨fun r hr => ?_, fun r hr => ((hsplit r hr).mp (hfresh r hr)).2, hapart⟩
          rcases List.mem_cons.mp hr with rfl | hr
          · exact Bool.eq_false_iff.mpr hincluded
          · exact ((hsplit r hr).mp (hfresh r hr)).1
        · rintro ⟨hfresh, hnext, hapart⟩
          exact ⟨rfl, fun r hr => (hsplit r hr).mpr
            ⟨hfresh r (List.mem_cons_of_mem _ hr), hnext r hr⟩, hapart⟩

theorem notMem_of_suffix {a : Char} {s t : List Char} (h : s <:+ t) (ht : a ∉ t) : a ∉ s :=
  fun hs => ht (h.subset hs)

/-- A URL points to one database only, among the codes with one variable. -/
theorem CaseLaws.lower_of_pointsTo (h : CaseLaws env) {c c' url : String}
    (hkey : envKey env c = envKey env c') (hurl : PointsTo env c url)
    (hurl' : PointsTo env c' url) : env.toLowerCase c = env.toLowerCase c' := by
  have hcount := h.slashes_of_envKey hkey
  unfold PointsTo tenantDbName at hurl hurl'
  rw [String.toList_append, String.toList_append] at hurl hurl'
  have hcounts : ("client_".toList ++ (env.toLowerCase c).toList).count '/' =
      ("client_".toList ++ (env.toLowerCase c').toList).count '/' := by
    rw [List.count_append, List.count_append, hcount]
  have hname : "client_".toList ++ (env.toLowerCase c).toList =
      "client_".toList ++ (env.toLowerCase c').toList := Text.suffix_sep_inj hurl hurl' hcounts
  exact String.toList_inj.mp (List.append_cancel_left hname)

/-- What the schema of a code uses when `.env` has its variable. -/
theorem resolve_of_get {c url : String} (hget : Dotenv.get content (envKey env c) = some url)
    (hne : url ≠ "") (hnone : env.processEnv (envKey env c) = none) (dbUrl : String) :
    resolveDatasource env (Dotenv.parse content)
      (tenantSchema env dbUrl c (Dotenv.parse content)).datasource = some url := by
  have hvariable (databaseUrl : Option String) :
      processVariable env databaseUrl (Dotenv.parse content) (envKey env c) = some url := by
    unfold processVariable
    rw [if_neg (envKey_ne env c), hnone]
    exact hget
  have htruthy : truthy (some url) = true := by
    unfold truthy
    simpa using hne
  unfold tenantSchema
  dsimp only
  rw [hvariable, if_pos htruthy]
  exact hvariable _

theorem PointsTo.ne_empty {c url : String} (h : PointsTo env c url) : url ≠ "" := by
  rintro rfl
  have hlength := h.length_le
  rw [String.toList_append, List.length_append] at hlength
  have hslash : "/".toList.length = 1 := rfl
  have hempty : "".toList.length = 0 := rfl
  omega

/-- The runs have different variables. -/
theorem Clean.nodup (h : Clean env content runs) : (runs.map (Registration.envKey env)).Nodup := by
  refine List.pairwise_map.mpr (h.apart.imp fun {run later} hapart => ?_)
  intro he
  rw [← he, includesKey_envLine] at hapart
  cases hapart

theorem Clean.oneLine (h : Clean env content runs) : ∀ run ∈ runs, run.OneLine := by
  intro run hrun hmem
  refine h.line run hrun ?_
  unfold Registration.fullDbUrl scriptDbUrl
  rw [String.append_assoc, String.toList_append, List.mem_append]
  exact Or.inl hmem

section Runs

variable (hlaws : CaseLaws env) (hnone : NoClientVariable content)

include hlaws hnone

theorem notMem_parse (c url : String) : (envKey env c, url) ∉ Dotenv.parse content := by
  intro hmem
  refine hnone _ hmem ?_
  rw [hlaws.toList_envKey]
  exact List.prefix_append _ _

theorem registered_of_clean (h : Clean env content runs) :
    ∀ run ∈ runs, Registered env (registerAll env runs content) run.clientCode := by
  obtain ⟨kept, -, hparse, hall⟩ := exists_appended h.key h.line content
  rw [hall.mpr ⟨h.fresh, h.apart⟩] at hparse
  intro run hrun
  have hget : Dotenv.get (registerAll env runs content) (envKey env run.clientCode) =
      some (Dotenv.readValue (run.fullDbUrl env)) := by
    refine Dotenv.get_of_unique ?_ fun url hmem => ?_
    · rw [hparse]
      exact List.mem_append.mpr (Or.inr (List.mem_map.mpr ⟨run, hrun, rfl⟩))
    · rw [hparse] at hmem
      rcases List.mem_append.mp hmem with hmem | hmem
      · exact absurd hmem (notMem_parse hlaws hnone _ _)
      · obtain ⟨other, hother, he⟩ := List.mem_map.mp hmem
        have hsame : other = run :=
          List.inj_on_of_nodup_map h.nodup hother hrun (congrArg Prod.fst he)
        rw [hsame] at he
        exact (congrArg Prod.snd he).symm
  have hpoints := h.url run hrun
  exact ⟨_, hget, hpoints, resolve_of_get hget hpoints.ne_empty⟩

/-- When all variables point to their databases, the lines of the runs are there. -/
theorem clean_of_registered (hdistinct : (runs.map fun run => env.toLowerCase run.clientCode).Nodup)
    (hline : ∀ run ∈ runs, run.OneLine)
    (h : ∀ run ∈ runs, Registered env (registerAll env runs content) run.clientCode) :
    Clean env content runs := by
  have hkey : ∀ run ∈ runs, Dotenv.IsKey (run.envKey env) := by
    intro run hrun
    obtain ⟨url, hget, -⟩ := h run hrun
    exact (Dotenv.isKey_of_mem (Dotenv.mem_of_get hget)).1
  have hurlLine : ∀ run ∈ runs, '\n' ∉ (run.fullDbUrl env).toList := by
    intro run hrun
    obtain ⟨url, hget, hpoints, -⟩ := h run hrun
    have hname := notMem_of_suffix hpoints (Dotenv.isKey_of_mem (Dotenv.mem_of_get hget)).2
    unfold Registration.fullDbUrl scriptDbUrl
    rw [hlaws.scriptDbName_eq, String.append_assoc, String.toList_append, List.mem_append, not_or]
    exact ⟨hline run hrun, hname⟩
  obtain ⟨kept, hsub, hparse, hall⟩ := exists_appended hkey hurlLine content
  have hmine : ∀ run ∈ runs, run ∈ kept ∧
      PointsTo env run.clientCode (Dotenv.readValue (run.fullDbUrl env)) := by
    intro run hrun
    obtain ⟨url, hget, hpoints, -⟩ := h run hrun
    have hmem := Dotenv.mem_of_get hget
    rw [hparse] at hmem
    rcases List.mem_append.mp hmem with hmem | hmem
    · exact absurd hmem (notMem_parse hlaws hnone _ _)
    · obtain ⟨other, hother, he⟩ := List.mem_map.mp hmem
      have hkeys : envKey env other.clientCode = envKey env run.clientCode := congrArg Prod.fst he
      -- the variable of both points to both databases
      obtain ⟨url', hget', hpoints', -⟩ := h other (hsub.subset hother)
      rw [hkeys, hget, Option.some.injEq] at hget'
      rw [← hget'] at hpoints'
      have hsame : other = run := List.inj_on_of_nodup_map hdistinct (hsub.subset hother) hrun
        (hlaws.lower_of_pointsTo hkeys hpoints' hpoints)
      rw [hsame] at he hother
      rw [Registration.entry, Prod.mk.injEq] at he
      rw [he.2]
      exact ⟨hother, hpoints⟩
  have hkept : kept = runs := by
    have hnodup : runs.Nodup := hdistinct.of_map
    have hsubset : runs ⊆ kept := fun run hrun => (hmine run hrun).1
    exact hsub.eq_of_length_le (hnodup.subperm hsubset).length_le
  obtain ⟨hfresh, hapart⟩ := hall.mp hkept
  exact ⟨hkey, hurlLine, fun run hrun => (hmine run hrun).2, hfresh, hapart⟩

end Runs

/-- For every sequence of runs on every file without a variable of a client: `DATABASE_URL` is
one line and every client code has a URL of its own database, exactly when the lines of the
runs can be read, and none of their keys occurs in the file or in an earlier line. -/
theorem env_registered_iff (env : Config) (content : String) (runs : List Registration)
    (hlaws : CaseLaws env) (hnone : NoClientVariable content)
    (hdistinct : (runs.map fun run => env.toLowerCase run.clientCode).Nodup) :
    (∀ run ∈ runs, run.OneLine) ∧
        (∀ run ∈ runs, Registered env (registerAll env runs content) run.clientCode) ↔
      Clean env content runs := by
  constructor
  · rintro ⟨hline, h⟩
    exact clean_of_registered hlaws hnone hdistinct hline h
  · exact fun h => ⟨h.oneLine, registered_of_clean hlaws hnone h⟩

theorem char_map_iff {f : Char → Char} {a : Char}
    (hascii : ∀ n < 128, f (Char.ofNat n) = a ↔ Char.ofNat n = a)
    (hother : ∀ c : Char, 128 ≤ c.toNat → f c = c) (c : Char) : f c = a ↔ c = a := by
  by_cases hc : c.toNat < 128
  · have h := hascii c.toNat hc
    rwa [Char.ofNat_toNat] at h
  · rw [hother c (by omega)]

theorem toLower_iff {a : Char}
    (h : ∀ n < 128, (Char.ofNat n).toLower = a ↔ Char.ofNat n = a) (c : Char) :
    c.toLower = a ↔ c = a := by
  refine char_map_iff h (fun c hc => ?_) c
  unfold Char.toLower
  rw [dif_neg]
  intro h
  have hz : c.toNat ≤ 90 := h.2
  omega

theorem toUpper_iff {a : Char}
    (h : ∀ n < 128, (Char.ofNat n).toUpper = a ↔ Char.ofNat n = a) (c : Char) :
    c.toUpper = a ↔ c = a := by
  refine char_map_iff h (fun c hc => ?_) c
  unfold Char.toUpper
  rw [dif_neg]
  intro h
  have hz : c.toNat ≤ 122 := h.2
  omega

theorem count_map_slash {f : Char → Char} (h : ∀ c, f c = '/' ↔ c = '/') (s : String) :
    (s.map f).toList.count '/' = s.toList.count '/' := by
  rw [String.toList_map]
  induction s.toList with
  | nil => rfl
  | cons c l ih =>
    rw [List.map_cons, List.count_cons, List.count_cons, ih]
    simp only [beq_iff_eq, h]

theorem map_append (f : Char → Char) (a b : String) : (a ++ b).map f = a.map f ++ b.map f := by
  rw [← String.toList_inj, String.toList_append, String.toList_map, String.toList_map,
    String.toList_map, String.toList_append, List.map_append]

theorem caseLaws_sample : CaseLaws Config.sample := by
  have hlower : "clientCreate_".map Char.toLower = "clientcreate_" := by decide +kernel
  have hupper : "clientCreate_".map Char.toUpper = "CLIENTCREATE_" := by decide +kernel
  refine ⟨fun c => ?_, fun c => ?_, count_map_slash (toLower_iff (by decide +kernel)),
    count_map_slash (toUpper_iff (by decide +kernel))⟩
  · exact (map_append Char.toLower "clientCreate_" c).trans (congrArg (· ++ _) hlower)
  · exact (map_append Char.toUpper "clientCreate_" c).trans (congrArg (· ++ _) hupper)

/-- A file with another variable and a comment. -/
def sampleFile : String := "PORT=3000\n# tenants"

def sampleRun (c : String) : Registration := ⟨some "mysql://db/users", c⟩

theorem envKey_a : (sampleRun "a").envKey Config.sample = "DATABASE_URL_CLIENTCREATE_A" := by
  decide +kernel

theorem envKey_b : (sampleRun "b").envKey Config.sample = "DATABASE_URL_CLIENTCREATE_B" := by
  decide +kernel

theorem fullDbUrl_a : (sampleRun "a").fullDbUrl Config.sample = "mysql://db/client_a" := by
  decide +kernel

theorem fullDbUrl_b : (sampleRun "b").fullDbUrl Config.sample = "mysql://db/client_b" := by
  decide +kernel

theorem clean_sample : Clean Config.sample sampleFile [sampleRun "a", sampleRun "b"] where
  key := by
    rw [List.forall_mem_cons, List.forall_mem_singleton, envKey_a, envKey_b]
    decide
  line := by
    rw [List.forall_mem_cons, List.forall_mem_singleton, fullDbUrl_a, fullDbUrl_b]
    decide
  url := by
    rw [List.forall_mem_cons, List.forall_mem_singleton, fullDbUrl_a, fullDbUrl_b]
    decide +kernel
  fresh := by
    rw [List.forall_mem_cons, List.forall_mem_singleton, envKey_a, envKey_b]
    decide +kernel
  apart := by
    rw [List.pairwise_pair, envKey_b]
    unfold Registration.envLine
    rw [envKey_a, fullDbUrl_a]
    decide +kernel

theorem env_registered_two_clients :
    Registered Config.sample (registerAll Config.sample [sampleRun "a", sampleRun "b"] sampleFile)
        "a" ∧
      Registered Config.sample (registerAll Config.sample [sampleRun "a", sampleRun "b"] sampleFile)
        "b" := by
  obtain ⟨-, h⟩ := (env_registered_iff Config.sample sampleFile [sampleRun "a", sampleRun "b"]
    caseLaws_sample (by decide +kernel) (by decide +kernel)).mpr clean_sample
  exact ⟨h (sampleRun "a") (by simp), h (sampleRun "b") (by simp)⟩

/-- The two codes have one variable, so it cannot point to both databases. -/
theorem env_key_collision : NoClientVariable sampleFile ∧
    (["cl-1", "cl_1"].map Config.sample.toLowerCase).Nodup ∧
    ¬ ∀ run ∈ [sampleRun "cl-1", sampleRun "cl_1"], Registered Config.sample
      (registerAll Config.sample [sampleRun "cl-1", sampleRun "cl_1"] sampleFile)
        run.clientCode := by
  refine ⟨by decide +kernel, by decide +kernel, fun h => ?_⟩
  have hsuffix : envSuffix Config.sample "cl-1" = envSuffix Config.sample "cl_1" := by
    decide +kernel
  have hkey : envKey Config.sample "cl-1" = envKey Config.sample "cl_1" := by
    rw [← String.toList_inj, caseLaws_sample.toList_envKey, caseLaws_sample.toList_envKey, hsuffix]
  obtain ⟨url, hget, hpoints, -⟩ := h (sampleRun "cl-1") (List.mem_cons_self ..)
  obtain ⟨url', hget', hpoints', -⟩ := h (sampleRun "cl_1")
    (List.mem_cons_of_mem _ (List.mem_cons_self ..))
  unfold sampleRun at hget hget' hpoints hpoints'
  rw [hkey, hget', Option.some.injEq] at hget
  rw [hget] at hpoints'
  have hlower := caseLaws_sample.lower_of_pointsTo hkey hpoints hpoints'
  exact absurd hlower (by decide +kernel)

end NestUserService.Tenant.EnvFile
