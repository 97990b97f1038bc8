import NestUserService.Lib.Lines
import NestUserService.Lib.Replace
import NestUserService.Tenant.ScriptUrls

/-!
# The text of the generated schema

`generate-schema.js` joins six fragments, takes the generator block out and puts a new
datasource block in place of the old one, each by a regular expression. The text of the URL
is part of a replacement string, in which a dollar sign may mean something else.
-/

namespace NestUserService.Tenant.SchemaText

open Lib Lib.Lines Lib.Replace NestUserService.Core ScriptUrls

/-- The text of a file with these lines, the last of which is not ended. -/
def content (file : List String) : List Char := joinLines (file.map String.toList)

def baseComments : List String :=
  ["// This is your Prisma schema file,",
    "// learn more about it in the docs: https://pris.ly/d/prisma-schema",
    "",
    "// Looking for ways to speed up your queries, or scale easily with your serverless or edge functions?",
    "// Try Prisma Accelerate: https://pris.ly/cli/accelerate-init",
    ""]

def baseGenerator : List String :=
  ["generator client \x7b",
    "  provider = \"prisma-client-js\"",
    "\x7d"]

def baseDatasource : List String :=
  ["datasource db \x7b",
    "  provider = \"mysql\"",
    "  url      = env(\"DATABASE_URL\")",
    "\x7d"]

def baseSchema : List String := baseComments ++ baseGenerator ++ [""] ++ baseDatasource

def clientSchema : List String :=
  ["model Client \x7b",
    "  id          String @id @default(uuid())",
    "  name        String?",
    "  clientCode  String  @unique",
    "  isPaid      Boolean @default(false) ",
    "  dbUrl       String?",
    "  dbName      String?",
    "  isDbCreated Boolean @default(false)",
    "  users       User[]  @relation(\"Clients\")",
    "\x7d"]

def userSchema : List String :=
  ["enum Role \x7b",
    "  SuperAdmin",
    "  ClientAdmin",
    "  ClientUser",
    "\x7d",
    "",
    "model User \x7b",
    "  id                    String @id",
    "  name                  String @db.VarChar(30)",
    "  email                 String @unique @db.VarChar(60)",
    "  password              String? @db.VarChar(60)",
    "  signupVerifyToken     String @db.VarChar(60)",
    "  verified              Boolean @default(false)",
    "  createdAt             DateTime @default(now())",
    "  role                  Role",
    "  refreshTokens         RefreshToken[]",
    "  trustedDevices        TrustedDevice[]",
    "  twoFactorSecret       String?",
    "  isTwoFactorEnabled    Boolean @default(false)",
    "  clientId              String?     // FK",
    "  resetPasswordToken    String?",
    "  resetPasswordExpires  DateTime?",
    "  client                Client?  @relation(fields: [clientId], references: [id], name: \"Clients\")",
    "\x7d"]

def refreshtokenSchema : List String :=
  ["model RefreshToken \x7b",
    "  id        String   @id @default(uuid())",
    "  token     String   @unique",
    "  userId    String",
    "  user      User     @relation(fields: [userId], references: [id], onDelete: Cascade)",
    "  isValid   Boolean  @default(true)",
    "  ip        String?  // 탈취 감지용 IP 저장",
    "  createdAt DateTime @default(now())",
    "  expiresAt DateTime",
    "\x7d"]

def trustedDevices : List String :=
  ["model TrustedDevice \x7b",
    "  id          String   @id @default(uuid())",
    "  userId      String",
    "  user        User     @relation(fields: [userId], references: [id], onDelete: Cascade)",
    "  deviceToken String   @unique",
    "  deviceName  String?",
    "  ipAddress   String?",
    "  userAgent   String?",
    "  createdAt   DateTime @default(now())",
    "  expiresAt   DateTime",
    "",
    "  @@index([userId])",
    "\x7d"]

def ipDenylist : List String :=
  ["model IpDenylist \x7b",
    "  ip     String @id",
    "  reason String",
    "  createdAt DateTime @default(now())",
    "\x7d"]

/-- The files that the search under `src` finds for the required names. -/
def prismaFiles : List (String × List String) :=
  [("baseSchema.prisma", baseSchema), ("clientSchema.prisma", clientSchema),
    ("userSchema.prisma", userSchema), ("refreshtokenSchema.prisma", refreshtokenSchema),
    ("trustedDevices.prisma", trustedDevices), ("ipDenylist.prisma", ipDenylist)]

/-- The file whose path ends with the name. -/
def prismaFile (fileName : String) : Option (List String) := prismaFiles.lookup fileName

/-- `fileMap.tenant`. -/
def requiredFiles : List String :=
  ["baseSchema.prisma", "clientSchema.prisma", "userSchema.prisma", "refreshtokenSchema.prisma",
    "trustedDevices.prisma", "ipDenylist.prisma"]

def title (fileName : String) : List Char := ("// 🔹 " ++ fileName).toList

/-- One round of the loop over the required files; `none` when the file is missing. -/
def collect (files : String → Option (List String)) (fileName : String) : Option (List Char) :=
  (files fileName).map fun file => title fileName ++ '\n' :: content file

/-- The length of a match of `{[^}]*}` at the start. -/
def bracesLength (s : List Char) : Option Nat :=
  if s.head? = some '\x7b' ∧ '\x7d' ∈ s then some ((s.takeWhile (· ≠ '\x7d')).length + 1) else none

/-- `/generator client\s*{[^}]*}/`. -/
def generatorLength (s : List Char) : Option Nat :=
  let keyword := "generator client".toList
  if keyword.isPrefixOf s then
    let rest := s.drop keyword.length
    let spaces := rest.takeWhile Text.isSpace
    (bracesLength (rest.drop spaces.length)).map fun n => keyword.length + spaces.length + n
  else none

/-- `/datasource db {[^}]*}/`. -/
def datasourceLength (s : List Char) : Option Nat :=
  let keyword := "datasource db ".toList
  if keyword.isPrefixOf s then
    (bracesLength (s.drop keyword.length)).map fun n => keyword.length + n
  else none

/-- The datasource and the output that the script computes from its environment. -/
def schemaFor (env : Config) (processEnv : String → Option String) : Schema where
  datasource :=
    if truthy (processEnv (generatedKey env (processEnv "config_name"))) then
      .env (generatedKey env (processEnv "config_name"))
    else .url (fallbackDbUrl env (processEnv "DATABASE_URL") (processEnv "config_name"))
  output := MigrateAll.dbNameOf env (scriptCode (processEnv "config_name"))

/-- The value of `url` in `dbBlock`. -/
def urlText : Datasource → String
  | .env key => "env(\"" ++ key ++ "\")"
  | .url literal => "\"" ++ literal ++ "\""

def dbBlock (datasource : Datasource) : String := "url      = " ++ urlText datasource

/-- The replacement for the datasource block. -/
def datasourceBlock (datasource : Datasource) : String :=
  "\ndatasource db \x7b\n  provider = \"mysql\"\n  " ++ dbBlock datasource ++ "\n\x7d\n"

def generatorBlock (output : String) : String :=
  "\ngenerator client \x7b\n  provider = \"prisma-client-js\"\n  output   = \"./generated/" ++
    output ++ "\"\n\x7d\n"

/-- From the joined fragments on. -/
def finish (schema : Schema) (finalSchema : List Char) : List Char :=
  let finalSchema := replaceAll generatorLength [] finalSchema
  let finalSchema :=
    replaceAll datasourceLength (datasourceBlock schema.datasource).toList finalSchema
  finalSchema ++ '\n' :: '\n' :: (generatorBlock schema.output).toList

/-- `generate-schema.js --type=tenant`; `none` when it exits because a file is missing. -/
def generateSchema (env : Config) (processEnv : String → Option String)
    (files : String → Option (List String)) : Option (List Char) := do
  let collectedSchemas ← requiredFiles.mapM (collect files)
  return finish (schemaFor env processEnv) (List.intercalate ['\n', '\n'] collectedSchemas)

/-- The schema that the other modules take the script to write. -/
theorem schemaFor_eq (env : Config) (lines : List (String × String)) :
    schemaFor env (MigrateAll.dotenvVariable env lines) =
      MigrateAll.schemaOf env lines (MigrateAll.configNameOf env lines) := rfl

def generatorWord : List Char := "generator".toList

def datasourceWord : List Char := "datasource".toList

/-- A line without either keyword. -/
structure Quiet (l : List Char) : Prop where
  oneLine : '\n' ∉ l
  noGenerator : ¬ generatorWord <:+: l
  noDatasource : ¬ datasourceWord <:+: l

instance (l : List Char) : Decidable (Quiet l) :=
  decidable_of_iff ('\n' ∉ l ∧ ¬ generatorWord <:+: l ∧ ¬ datasourceWord <:+: l)
    ⟨fun h => ⟨h.1, h.2.1, h.2.2⟩, fun h => ⟨h.oneLine, h.noGenerator, h.noDatasource⟩⟩

/-- The characters are those of the literal; they need not be decoded. -/
theorem quiet_literal {s : String} {l : List Char} (hs : s = String.ofList l) (hl : Quiet l) :
    Quiet s.toList := by
  rwa [hs, String.toList_ofList]

theorem quiet_baseComments : ∀ s ∈ baseComments, Quiet s.toList := by
  simp only [baseComments, List.forall_mem_cons, List.not_mem_nil, false_imp_iff, implies_true,
    and_true]
  and_intros <;> exact quiet_literal rfl (by decide +kernel)

/-- The fragments behind the base schema, with their titles. -/
def otherFiles : List (String × List String) :=
  [("clientSchema.prisma", clientSchema), ("userSchema.prisma", userSchema),
    ("refreshtokenSchema.prisma", refreshtokenSchema), ("trustedDevices.prisma", trustedDevices),
    ("ipDenylist.prisma", ipDenylist)]

theorem quiet_otherFiles : ∀ f ∈ otherFiles, ∀ s ∈ f.2, Quiet s.toList := by
  simp only [otherFiles, clientSchema, userSchema, refreshtokenSchema, trustedDevices, ipDenylist,
    List.forall_mem_cons, List.not_mem_nil, false_imp_iff, implies_true, and_true]
  and_intros <;> exact quiet_literal rfl (by decide +kernel)

theorem quiet_title : ∀ name ∈ requiredFiles, Quiet (title name) := by
  decide +kernel

theorem bracesLength_block {body : List Char} (h : '\x7d' ∉ body) (rest : List Char) :
    bracesLength ('\x7b' :: (body ++ '\x7d' :: rest)) = some (body.length + 2) := by
  unfold bracesLength
  rw [if_pos ⟨rfl, by simp⟩, List.takeWhile_cons_of_pos (by decide),
    List.takeWhile_append_of_pos (Text.decide_ne_of_notMem h)]
  simp

theorem generatorLength_none (s : List Char) (h : ¬ "generator client".toList <+: s) :
    generatorLength s = none := by
  unfold generatorLength
  exact if_neg fun hp => h (List.isPrefixOf_iff_prefix.mp hp)

theorem datasourceLength_none (s : List Char) (h : ¬ "datasource db ".toList <+: s) :
    datasourceLength s = none := by
  unfold datasourceLength
  exact if_neg fun hp => h (List.isPrefixOf_iff_prefix.mp hp)

/-- A generator block is matched to its end. -/
theorem generatorLength_block {spaces body : List Char} (hs : ∀ c ∈ spaces, Text.isSpace c = true)
    (h : '\x7d' ∉ body) (rest : List Char) :
    generatorLength ("generator client".toList ++ (spaces ++ '\x7b' :: (body ++ '\x7d' :: rest))) =
      some ("generator client".toList.length + spaces.length + (body.length + 2)) := by
  have hopen : ¬ Text.isSpace '\x7b' = true := by decide
  unfold generatorLength
  dsimp only
  rw [if_pos (List.isPrefixOf_iff_prefix.mpr (List.prefix_append _ _)), List.drop_left,
    List.takeWhile_append_of_pos hs, List.takeWhile_cons_of_neg hopen, List.append_nil,
    List.drop_left, bracesLength_block h, Option.map_some]

theorem datasourceLength_block {body : List Char} (h : '\x7d' ∉ body) (rest : List Char) :
    datasourceLength ("datasource db ".toList ++ '\x7b' :: (body ++ '\x7d' :: rest)) =
      some ("datasource db ".toList.length + (body.length + 2)) := by
  unfold datasourceLength
  dsimp only
  rw [if_pos (List.isPrefixOf_iff_prefix.mpr (List.prefix_append _ _)), List.drop_left,
    bracesLength_block h, Option.map_some]

/-- The block of the base schema, as the expression cuts it. -/
theorem content_baseGenerator : ∃ body, '\x7d' ∉ body ∧ content baseGenerator =
    "generator client".toList ++ ([' '] ++ '\x7b' :: (body ++ ['\x7d'])) :=
  ⟨"\n  provider = \"prisma-client-js\"\n".toList, by decide +kernel, by decide +kernel⟩

theorem content_baseDatasource : ∃ body, '\x7d' ∉ body ∧ content baseDatasource =
    "datasource db ".toList ++ '\x7b' :: (body ++ ['\x7d']) :=
  ⟨"\n  provider = \"mysql\"\n  url      = env(\"DATABASE_URL\")\n".toList, by decide +kernel,
    by decide +kernel⟩

theorem generatorLength_base (rest : List Char) :
    generatorLength (content baseGenerator ++ rest) = some (content baseGenerator).length := by
  obtain ⟨body, hbody, hcontent⟩ := content_baseGenerator
  have hspace : ∀ c ∈ [' '], Text.isSpace c = true := by
    rw [List.forall_mem_singleton]
    decide
  have hmatch := generatorLength_block hspace hbody rest
  rw [hcontent]
  simp only [List.append_assoc, List.cons_append, List.nil_append] at hmatch ⊢
  rw [hmatch]
  simp only [List.length_append, List.length_cons, List.length_nil]
  congr 1
  omega

theorem datasourceLength_base (rest : List Char) :
    datasourceLength (content baseDatasource ++ rest) = some (content baseDatasource).length := by
  obtain ⟨body, hbody, hcontent⟩ := content_baseDatasource
  have hmatch := datasourceLength_block hbody rest
  rw [hcontent]
  simp only [List.append_assoc, List.cons_append, List.nil_append] at hmatch ⊢
  rw [hmatch]
  simp only [List.length_append, List.length_cons, List.length_nil]

def blockStart : List (List Char) :=
  [[], [], [], "datasource db \x7b".toList, "  provider = \"mysql\"".toList]

def blockEnd : List (List Char) := [['\x7d'], [], []]

def generatorStart : List (List Char) :=
  [[], [], "generator client \x7b".toList, "  provider = \"prisma-client-js\"".toList]

def generatorEnd : List (List Char) := [['\x7d'], []]

/-- The lines of the output around the text of the URL: `pre` and `post` are the lines of
the fragments before and behind the two blocks. -/
def outLines (pre post : List (List Char)) (url output : List Char) : List (List Char) :=
  pre ++ (blockStart ++ ("  url      = ".toList ++ url) :: (blockEnd ++ (post ++ (generatorStart ++
    ("  output   = \"./generated/".toList ++ (output ++ ['\x22'])) :: generatorEnd))))

/-- What a computed URL begins and ends with. -/
theorem urlText_ends (datasource : Datasource) : ∃ c r,
    (urlText datasource).toList = c :: r ∧ (c = 'e' ∨ c = '\x22') ∧
      (urlText datasource).toList.getLast? ≠ some '$' := by
  cases datasource with
  | env key =>
    have htext : (urlText (.env key)).toList =
        'e' :: ("nv(\"".toList ++ key.toList ++ ['\x22', ')']) := by
      simp [urlText]
    refine ⟨_, _, htext, .inl rfl, ?_⟩
    rw [htext, ← List.cons_append, List.getLast?_append]
    simp
  | url literal =>
    have htext : (urlText (.url literal)).toList = '\x22' :: (literal.toList ++ ['\x22']) := by
      simp [urlText]
    refine ⟨_, _, htext, .inr rfl, ?_⟩
    rw [htext, ← List.cons_append, List.getLast?_append]
    simp

/-- The replacement up to the URL. -/
def blockHead : List Char :=
  "\ndatasource db \x7b\n  provider = \"mysql\"\n  ".toList ++ "url      = ".toList

theorem notMem_blockHead : '$' ∉ blockHead := by decide +kernel

theorem datasourceBlock_toList (datasource : Datasource) : (datasourceBlock datasource).toList =
    blockHead ++ ((urlText datasource).toList ++ "\n\x7d\n".toList) := by
  unfold datasourceBlock dbBlock blockHead
  simp only [String.toList_append, List.append_assoc]

/-- Only the URL in the replacement can hold a pair with a meaning. -/
theorem expand_datasourceBlock (found before after : List Char) (datasource : Datasource) :
    expand found before after (datasourceBlock datasource).toList =
      blockHead ++ (expand found before after (urlText datasource).toList ++ "\n\x7d\n".toList) := by
  obtain ⟨_, _, _, _, hlast⟩ := urlText_ends datasource
  have hhead : blockHead.getLast? ≠ some '$' := fun h => notMem_blockHead (List.mem_of_getLast? h)
  have htail : Plain "\n\x7d\n".toList := plain_of_notMem (by decide)
  rw [datasourceBlock_toList, expand_append hhead, expand_of_plain (plain_of_notMem notMem_blockHead),
    expand_append hlast, expand_of_plain htail]

section Finish

variable {pre post : List (List Char)}

/-- The lines of the joined fragments. -/
def inLines (pre post : List (List Char)) : List (List Char) :=
  pre ++ (baseGenerator.map String.toList ++ ([] :: (baseDatasource.map String.toList ++
    ([] :: post))))

theorem baseGenerator_ne_nil : baseGenerator ≠ [] := List.cons_ne_nil _ _

theorem baseDatasource_ne_nil : baseDatasource ≠ [] := List.cons_ne_nil _ _

theorem quiet_nil : Quiet [] := by decide

theorem Quiet.no_generator {l : List Char} (h : Quiet l) : ¬ "generator client".toList <:+: l := by
  intro hin
  have hword : generatorWord <:+: "generator client".toList := by decide
  exact h.noGenerator (hword.trans hin)

theorem Quiet.no_datasource {l : List Char} (h : Quiet l) : ¬ "datasource db ".toList <:+: l := by
  intro hin
  have hword : datasourceWord <:+: "datasource db ".toList := by decide
  exact h.noDatasource (hword.trans hin)

/-- The generator block is taken out. -/
theorem replace_generator (hpre : ∀ l ∈ pre, Quiet l) (hpost : ∀ l ∈ post, Quiet l)
    (hne : pre ≠ []) (hne' : post ≠ []) :
    replaceAll generatorLength [] (joinLines (inLines pre post)) =
      joinLines (pre ++ [[], []]) ++ '\n' ::
        (content baseDatasource ++ '\n' :: '\n' :: joinLines post) := by
  have hdatasource : ∀ l ∈ baseDatasource.map String.toList,
      ¬ "generator client".toList <:+: l := by decide +kernel
  have htext : joinLines (inLines pre post) = (joinLines pre ++ ['\n']) ++
      (content baseGenerator ++ joinLines ([] :: [] :: (baseDatasource.map String.toList ++
        ([] :: post)))) := by
    simp [inLines, content, joinLines_append, joinLines_cons, hne, baseGenerator_ne_nil,
      baseDatasource_ne_nil]
  have hout : joinLines (pre ++ [[], []]) ++ '\n' ::
      (content baseDatasource ++ '\n' :: '\n' :: joinLines post) = (joinLines pre ++ ['\n']) ++
        joinLines ([] :: [] :: (baseDatasource.map String.toList ++ ([] :: post))) := by
    simp [content, joinLines_append, joinLines_cons, hne, hne', baseDatasource_ne_nil]
  have hnil : expand (content baseGenerator) (joinLines pre ++ ['\n'])
      (joinLines ([] :: [] :: (baseDatasource.map String.toList ++ ([] :: post)))) [] = [] := rfl
  rw [htext, hout, replaceAll_once, hnil]
  · rfl
  · obtain ⟨body, -, hcontent⟩ := content_baseGenerator
    rw [hcontent]
    exact List.append_ne_nil_of_right_ne_nil _ (List.cons_ne_nil _ _)
  · exact noMatch_lines generatorLength_none (by decide) (by decide)
      (fun l hl => (hpre l hl).no_generator) _
  · exact generatorLength_base _
  · apply noMatch_end generatorLength_none (by decide) (by decide)
    intro l hl
    simp only [List.mem_cons, List.mem_append] at hl
    rcases hl with rfl | rfl | hl | rfl | hl
    · exact quiet_nil.no_generator
    · exact quiet_nil.no_generator
    · exact hdatasource l hl
    · exact quiet_nil.no_generator
    · exact (hpost l hl).no_generator

/-- What is put in the place of the URL between the lines of the fragments. -/
def writtenUrl (pre post : List (List Char)) (datasource : Datasource) : List Char :=
  expand (content baseDatasource) (joinLines (pre ++ [[], []]) ++ ['\n'])
    ('\n' :: '\n' :: joinLines post) (urlText datasource).toList

/-- The new datasource block is put in the place of the old one. -/
theorem replace_datasource (hpre : ∀ l ∈ pre, Quiet l) (hpost : ∀ l ∈ post, Quiet l)
    (hne' : post ≠ []) (datasource : Datasource) :
    replaceAll datasourceLength (datasourceBlock datasource).toList
        (joinLines (pre ++ [[], []]) ++ '\n' ::
          (content baseDatasource ++ '\n' :: '\n' :: joinLines post)) =
      joinLines (pre ++ [[], []]) ++ '\n' ::
        (blockHead ++ (writtenUrl pre post datasource ++ ("\n\x7d\n".toList ++
          '\n' :: '\n' :: joinLines post))) := by
  have hafter : '\n' :: '\n' :: joinLines post = joinLines ([] :: [] :: post) := by
    simp [joinLines_cons, hne']
  have htext : joinLines (pre ++ [[], []]) ++ '\n' ::
      (content baseDatasource ++ '\n' :: '\n' :: joinLines post) =
        (joinLines (pre ++ [[], []]) ++ ['\n']) ++
          (content baseDatasource ++ '\n' :: '\n' :: joinLines post) := by simp
  rw [htext, replaceAll_once, expand_datasourceBlock]
  · simp [writtenUrl]
  · obtain ⟨body, -, hcontent⟩ := content_baseDatasource
    rw [hcontent]
    exact List.append_ne_nil_of_right_ne_nil _ (List.cons_ne_nil _ _)
  · apply noMatch_lines datasourceLength_none (by decide) (by decide)
    intro l hl
    simp only [List.mem_append, List.mem_cons, List.not_mem_nil, or_false, or_self] at hl
    rcases hl with hl | rfl
    · exact (hpre l hl).no_datasource
    · exact quiet_nil.no_datasource
  · exact datasourceLength_base _
  · rw [hafter]
    apply noMatch_end datasourceLength_none (by decide) (by decide)
    intro l hl
    simp only [List.mem_cons] at hl
    rcases hl with rfl | rfl | hl
    · exact quiet_nil.no_datasource
    · exact quiet_nil.no_datasource
    · exact (hpost l hl).no_datasource

theorem blockHead_eq : blockHead = '\n' :: ("datasource db \x7b".toList ++ '\n' ::
    ("  provider = \"mysql\"".toList ++ '\n' :: "  url      = ".toList)) := by
  decide +kernel

theorem generatorBlock_toList (output : String) : (generatorBlock output).toList =
    '\n' :: ("generator client \x7b".toList ++ '\n' :: ("  provider = \"prisma-client-js\"".toList ++
      '\n' :: ("  output   = \"./generated/".toList ++ (output.toList ++ ['\x22']) ++
        '\n' :: ("\x7d".toList ++ ['\n'])))) := by
  have hhead :
      "\ngenerator client \x7b\n  provider = \"prisma-client-js\"\n  output   = \"./generated/".toList =
        '\n' :: ("generator client \x7b".toList ++ '\n' :: ("  provider = \"prisma-client-js\"".toList ++
          '\n' :: "  output   = \"./generated/".toList)) := by decide +kernel
  have htail : "\"\n\x7d\n".toList = '\x22' :: '\n' :: ("\x7d".toList ++ ['\n']) := by decide
  unfold generatorBlock
  rw [String.toList_append, String.toList_append, hhead, htail]
  simp only [List.append_assoc, List.cons_append, List.nil_append]

/-- The output, line by line but for the URL and the path. -/
theorem finish_eq (hpre : ∀ l ∈ pre, Quiet l) (hpost : ∀ l ∈ post, Quiet l) (hne : pre ≠ [])
    (hne' : post ≠ []) (schema : Schema) :
    finish schema (joinLines (inLines pre post)) =
      joinLines (outLines pre post (writtenUrl pre post schema.datasource)
        schema.output.toList) := by
  unfold finish
  dsimp only
  rw [replace_generator hpre hpost hne hne', replace_datasource hpre hpost hne',
    blockHead_eq, generatorBlock_toList]
  generalize writtenUrl pre post schema.datasource = url
  simp [outLines, blockStart, blockEnd, generatorStart, generatorEnd, joinLines_append,
    joinLines_cons, hne, hne']

end Finish

/-- The lines before the generator block. -/
def preLines : List (List Char) := title "baseSchema.prisma" :: baseComments.map String.toList

/-- The lines of a fragment with its title. -/
def titled (f : String × List String) : List (List Char) := title f.1 :: f.2.map String.toList

/-- The lines behind the datasource block. -/
def postLines : List (List Char) := List.intercalate [[]] (otherFiles.map titled)

theorem quiet_preLines : ∀ l ∈ preLines, Quiet l := by
  intro l hl
  rcases List.mem_cons.mp hl with rfl | hl
  · exact quiet_title _ (by decide)
  · obtain ⟨s, hs, rfl⟩ := List.mem_map.mp hl
    exact quiet_baseComments s hs

theorem quiet_postLines : ∀ l ∈ postLines, Quiet l := by
  intro l hl
  rcases mem_of_mem_intercalate hl with hl | ⟨t, ht, hl⟩
  · rw [List.mem_singleton.mp hl]
    exact quiet_nil
  · obtain ⟨f, hf, rfl⟩ := List.mem_map.mp ht
    have hname : ∀ f ∈ otherFiles, f.1 ∈ requiredFiles := by decide
    rcases List.mem_cons.mp hl with rfl | hl
    · exact quiet_title _ (hname f hf)
    · obtain ⟨s, hs, rfl⟩ := List.mem_map.mp hl
      exact quiet_otherFiles f hf s hs

theorem postLines_ne_nil : postLines ≠ [] := intercalate_ne_nil (List.cons_ne_nil _ _)

/-- Every required file is found. -/
theorem collect_prismaFiles : requiredFiles.mapM (collect prismaFile) =
    some ((prismaFiles.map titled).map joinLines) := by
  have hcollect : ∀ name file, prismaFile name = some file → file ≠ [] →
      collect prismaFile name = some (joinLines (titled (name, file))) := by
    intro name file hfile hne
    unfold collect titled content
    rw [hfile, joinLines_cons (by simpa using hne)]
    rfl
  unfold requiredFiles
  rw [List.mapM_cons, hcollect _ baseSchema rfl (by decide)]
  rw [List.mapM_cons, hcollect _ clientSchema rfl (by decide)]
  rw [List.mapM_cons, hcollect _ userSchema rfl (by decide)]
  rw [List.mapM_cons, hcollect _ refreshtokenSchema rfl (by decide)]
  rw [List.mapM_cons, hcollect _ trustedDevices rfl (by decide)]
  rw [List.mapM_cons, hcollect _ ipDenylist rfl (by decide)]
  rfl

theorem intercalate_prismaFiles :
    List.intercalate ['\n', '\n'] ((prismaFiles.map titled).map joinLines) =
      joinLines (inLines preLines postLines) := by
  have hbase : titled ("baseSchema.prisma", baseSchema) = preLines ++
      (baseGenerator.map String.toList ++ ([] :: baseDatasource.map String.toList)) := by
    simp [titled, preLines, baseSchema]
  have hcons : List.intercalate [[]] (prismaFiles.map titled) =
      titled ("baseSchema.prisma", baseSchema) ++ [[]] ++ postLines := rfl
  rw [intercalate_blank, hcons, hbase]
  · simp [inLines]
  · intro t ht
    obtain ⟨f, -, rfl⟩ := List.mem_map.mp ht
    exact List.cons_ne_nil _ _

/-- What the script writes for the repository's fragments. -/
theorem generateSchema_eq (env : Config) (processEnv : String → Option String) :
    generateSchema env processEnv prismaFile =
      some (joinLines (outLines preLines postLines
        (writtenUrl preLines postLines (schemaFor env processEnv).datasource)
        (schemaFor env processEnv).output.toList)) := by
  unfold generateSchema
  rw [collect_prismaFiles]
  show some (finish _ _) = _
  rw [intercalate_prismaFiles, finish_eq quiet_preLines quiet_postLines (List.cons_ne_nil _ _)
    postLines_ne_nil]

/-- The line begins a block of this kind. -/
def isHeader (keyword l : List Char) : Bool :=
  (keyword ++ [' ']).isPrefixOf (l.dropWhile Text.isSpace)

/-- The number of blocks of this kind. -/
def blocks (keyword text : List Char) : Nat := (lines text).countP (isHeader keyword)

/-- The value in the line `url = ...`. -/
def fieldValue (l : List Char) : List Char :=
  ((((l.dropWhile Text.isSpace).drop 3).dropWhile Text.isSpace).drop 1).dropWhile Text.isSpace

/-- The value of `url` in the first datasource block. -/
def urlOf (text : List Char) : Option (List Char) :=
  let block := ((lines text).dropWhile fun l => !isHeader datasourceWord l).takeWhile (· ≠ ['\x7d'])
  (block.find? fun l => "url".toList.isPrefixOf (l.dropWhile Text.isSpace)).map fieldValue

/-- The texts of the fragments outside the generator and the datasource block. -/
def outside : List (List Char) :=
  [content baseComments ++ ['\n'], ['\n', '\n']] ++ otherFiles.map fun f => content f.2

/-- One datasource and one generator, the URL as it was computed, and the fragments in order. -/
structure Verbatim (url text : List Char) : Prop where
  datasource : blocks datasourceWord text = 1
  generator : blocks generatorWord text = 1
  url : urlOf text = some url
  preserved : InOrder outside text

section Output

variable {url output : List Char}

theorem Quiet.not_header {l keyword : List Char} (h : ¬ keyword <:+: l) :
    isHeader keyword l = false := by
  rw [Bool.eq_false_iff]
  intro hp
  apply h
  have hpre := List.isPrefixOf_iff_prefix.mp hp
  exact ((List.prefix_append keyword [' ']).trans hpre).isInfix.trans
    (List.dropWhile_suffix _).isInfix

theorem dropWhile_preLines (rest : List (List Char)) :
    (preLines ++ rest).dropWhile (fun l => !isHeader datasourceWord l) =
      rest.dropWhile fun l => !isHeader datasourceWord l := by
  apply List.dropWhile_append_of_pos
  intro l hl
  rw [Quiet.not_header (quiet_preLines l hl).noDatasource]
  rfl

theorem oneLine_blockStart : ∀ l ∈ blockStart, '\n' ∉ l := by decide +kernel

theorem oneLine_blockEnd : ∀ l ∈ blockEnd, '\n' ∉ l := by decide

theorem oneLine_generatorStart : ∀ l ∈ generatorStart, '\n' ∉ l := by decide +kernel

theorem oneLine_generatorEnd : ∀ l ∈ generatorEnd, '\n' ∉ l := by decide

theorem urlField : "  url      = ".toList =
    [' ', ' ', 'u', 'r', 'l', ' ', ' ', ' ', ' ', ' ', ' ', '=', ' '] := by decide

theorem fieldValue_urlField {c : Char} (hc : c = 'e' ∨ c = '\x22') (r : List Char) :
    fieldValue ("  url      = ".toList ++ c :: r) = c :: r := by
  rw [urlField]
  rcases hc with rfl | rfl <;> rfl

theorem takeWhile_line {c : Char} (hc : c ≠ '\n') (r : List Char) :
    (c :: r).takeWhile (· ≠ '\n') = c :: r.takeWhile (· ≠ '\n') :=
  List.takeWhile_cons_of_pos (decide_eq_true hc)

/-- The lines of the output up to the first one of what was put in the place of the URL. -/
theorem lines_upTo_url {c : Char} {r : List Char} (hc : c ≠ '\n') : ∃ tail,
    lines (joinLines (outLines preLines postLines (c :: r) output)) = preLines ++ (blockStart ++
      ("  url      = ".toList ++ c :: r.takeWhile (· ≠ '\n')) :: tail) := by
  have hfirst : ("  url      = ".toList ++ c :: r).takeWhile (· ≠ '\n') =
      "  url      = ".toList ++ c :: r.takeWhile (· ≠ '\n') := by
    rw [List.takeWhile_append_of_pos (Text.decide_ne_of_notMem (by decide)), takeWhile_line hc]
  obtain ⟨rest, hrest⟩ := lines_eq_cons ("  url      = ".toList ++ c :: r)
  rw [hfirst] at hrest
  rw [lines_joinLines (by simp [outLines, blockStart]), outLines, List.flatMap_append,
    flatMap_lines fun l hl => (quiet_preLines l hl).oneLine, List.flatMap_append,
    flatMap_lines oneLine_blockStart, List.flatMap_cons, hrest, List.cons_append]
  exact ⟨_, rfl⟩

/-- The block begins with its header. -/
theorem dropWhile_blockStart (rest : List (List Char)) :
    (blockStart ++ rest).dropWhile (fun l => !isHeader datasourceWord l) =
      "datasource db \x7b".toList :: "  provider = \"mysql\"".toList :: rest := by
  have hblank : isHeader datasourceWord [] = false := by decide
  have hheader : isHeader datasourceWord "datasource db \x7b".toList = true := by decide +kernel
  simp only [blockStart, List.cons_append, List.nil_append, List.dropWhile_cons, hblank, hheader,
    Bool.not_false, Bool.not_true, if_true, Bool.false_eq_true, if_false]

/-- The reader finds the first line of what was put in the place of the URL. -/
theorem urlOf_output {c : Char} {r : List Char} (hc : c = 'e' ∨ c = '\x22') :
    urlOf (joinLines (outLines preLines postLines (c :: r) output)) =
      some ((c :: r).takeWhile (· ≠ '\n')) := by
  have hbreak : c ≠ '\n' := by rcases hc with rfl | rfl <;> decide
  obtain ⟨tail, hlines⟩ := @lines_upTo_url output c r hbreak
  have hopen : decide ("datasource db \x7b".toList ≠ ['\x7d']) = true := by decide +kernel
  have hprovider : decide ("  provider = \"mysql\"".toList ≠ ['\x7d']) = true := by decide +kernel
  have hurl : decide ("  url      = ".toList ++ c :: r.takeWhile (· ≠ '\n') ≠ ['\x7d']) = true := by
    rw [urlField]
    simp
  have hfield : "url".toList.isPrefixOf (("  url      = ".toList ++
      c :: r.takeWhile (· ≠ '\n')).dropWhile Text.isSpace) = true := by
    rw [urlField]
    rfl
  have hopen' : "url".toList.isPrefixOf ("datasource db \x7b".toList.dropWhile Text.isSpace) =
      false := by decide +kernel
  have hprovider' : "url".toList.isPrefixOf
      ("  provider = \"mysql\"".toList.dropWhile Text.isSpace) = false := by decide +kernel
  unfold urlOf
  rw [takeWhile_line hbreak, hlines, dropWhile_preLines, dropWhile_blockStart]
  simp only [List.takeWhile_cons, hopen, hprovider, hurl, if_true, List.find?_cons, hopen',
    hprovider', hfield, Option.map_some, fieldValue_urlField hc]

/-- Without line breaks in what is put in, the lines are as they were written. -/
theorem lines_output (hurl : '\n' ∉ url) (hout : '\n' ∉ output) :
    lines (joinLines (outLines preLines postLines url output)) =
      outLines preLines postLines url output := by
  rw [lines_joinLines (by simp [outLines, blockStart]), flatMap_lines]
  intro l hl
  simp only [outLines, List.mem_append, List.mem_cons] at hl
  rcases hl with hl | hl | rfl | hl | hl | hl | rfl | hl
  · exact (quiet_preLines l hl).oneLine
  · exact oneLine_blockStart l hl
  · rw [List.mem_append, not_or]
    exact ⟨by decide, hurl⟩
  · exact oneLine_blockEnd l hl
  · exact (quiet_postLines l hl).oneLine
  · exact oneLine_generatorStart l hl
  · rw [List.mem_append, List.mem_append, not_or, not_or]
    exact ⟨by decide, hout, by decide⟩
  · exact oneLine_generatorEnd l hl

/-- The line of the URL begins no block, and neither does the line of the path. -/
theorem isHeader_indented {keyword r : List Char} {c : Char} (hspace : Text.isSpace c = false)
    (hc : keyword.head? ≠ some c) (hne : keyword ≠ []) :
    isHeader keyword (' ' :: ' ' :: c :: r) = false := by
  have hdrop : (' ' :: ' ' :: c :: r).dropWhile Text.isSpace = c :: r := by
    have hblank : Text.isSpace ' ' = true := by decide
    rw [List.dropWhile_cons_of_pos hblank, List.dropWhile_cons_of_pos hblank,
      List.dropWhile_cons_of_neg (by simp [hspace])]
  unfold isHeader
  rw [hdrop]
  cases keyword with
  | nil => exact absurd rfl hne
  | cons d keyword =>
    have hd : d ≠ c := fun hd => hc (congrArg some hd)
    simp [List.isPrefixOf, hd]

theorem countP_quiet {ls : List (List Char)} {keyword : List Char}
    (h : ∀ l ∈ ls, ¬ keyword <:+: l) : ls.countP (isHeader keyword) = 0 := by
  rw [List.countP_eq_zero]
  intro l hl
  simp [Quiet.not_header (h l hl)]

/-- The only headers are the two that the script writes. -/
theorem blocks_output (hurl : '\n' ∉ url) (hout : '\n' ∉ output) {keyword : List Char}
    (hpre : ∀ l ∈ preLines, ¬ keyword <:+: l) (hpost : ∀ l ∈ postLines, ¬ keyword <:+: l)
    (hne : keyword ≠ []) (hu : keyword.head? ≠ some 'u') (ho : keyword.head? ≠ some 'o')
    (hfixed : (blockStart ++ (blockEnd ++ (generatorStart ++ generatorEnd))).countP
      (isHeader keyword) = 1) :
    blocks keyword (joinLines (outLines preLines postLines url output)) = 1 := by
  have hurlLine : isHeader keyword ("  url      = ".toList ++ url) = false := by
    rw [urlField]
    exact isHeader_indented (by decide) hu hne
  have hpathLine : isHeader keyword ("  output   = \"./generated/".toList ++ (output ++ ['\x22'])) =
      false := by
    have hpath : "  output   = \"./generated/".toList = ' ' :: ' ' :: 'o' ::
        "utput   = \"./generated/".toList := by decide +kernel
    rw [hpath]
    exact isHeader_indented (by decide) ho hne
  unfold blocks
  rw [lines_output hurl hout]
  simp only [List.countP_append] at hfixed
  simp only [outLines, List.countP_append, List.countP_cons, countP_quiet hpre, countP_quiet hpost,
    hurlLine, hpathLine, Bool.false_eq_true, if_false]
  omega

theorem joinLines_titled {f : String × List String} (h : f.2 ≠ []) :
    joinLines (titled f) = (title f.1 ++ ['\n']) ++ content f.2 := by
  unfold titled content
  rw [joinLines_cons (by simpa using h), List.append_assoc, List.singleton_append]

/-- Fragments under their titles, with blank lines between them. -/
theorem inOrder_titled (files : List (String × List String)) (h : ∀ f ∈ files, f.2 ≠ []) :
    InOrder (files.map fun f => content f.2)
      (joinLines (List.intercalate [[]] (files.map titled))) := by
  induction files with
  | nil => exact .nil _
  | cons f files ih =>
    have hf := joinLines_titled (h f List.mem_cons_self)
    have hrest := ih fun f' hf' => h f' (List.mem_cons_of_mem _ hf')
    cases files with
    | nil =>
      have hone := InOrder.cons (title f.1 ++ ['\n']) (content f.2) (InOrder.nil [])
      rw [List.append_nil, ← hf] at hone
      rw [List.map_singleton, List.map_singleton, List.intercalate_singleton]
      exact hone
    | cons f₂ files =>
      have htext : joinLines (List.intercalate [[]] ((f :: f₂ :: files).map titled)) =
          (title f.1 ++ ['\n']) ++ (content f.2 ++ (['\n', '\n'] ++
            joinLines (List.intercalate [[]] ((f₂ :: files).map titled)))) := by
        have hne : List.intercalate [[]] ((f₂ :: files).map titled) ≠ [] :=
          intercalate_ne_nil (List.cons_ne_nil _ _)
        have hcut : List.intercalate [[]] ((f :: f₂ :: files).map titled) =
            titled f ++ ([] :: List.intercalate [[]] ((f₂ :: files).map titled)) := by
          simp [List.intercalate_cons_cons]
        have htitled : titled f ≠ [] := List.cons_ne_nil _ _
        rw [hcut, joinLines_append htitled (List.cons_ne_nil _ _), hf, joinLines_cons hne]
        simp
      rw [htext, List.map_cons]
      exact .cons _ _ (hrest.gap _)

/-- What the script inserts stands between the fragments, never inside one. -/
theorem inOrder_output :
    InOrder outside (joinLines (outLines preLines postLines url output)) := by
  have hfiles : ∀ f ∈ otherFiles, f.2 ≠ [] := by decide
  have hpost := inOrder_titled otherFiles hfiles
  have htext : joinLines (outLines preLines postLines url output) =
      (title "baseSchema.prisma" ++ ['\n']) ++ ((content baseComments ++ ['\n']) ++
        ([] ++ (['\n', '\n'] ++ (('\n' :: ("datasource db \x7b".toList ++ '\n' ::
          ("  provider = \"mysql\"".toList ++ '\n' :: ("  url      = ".toList ++ url ++ '\n' ::
            ['\x7d', '\n', '\n', '\n'])))) ++ (joinLines postLines ++ ('\n' :: joinLines
              (generatorStart ++ ("  output   = \"./generated/".toList ++ (output ++ ['\x22'])) ::
                generatorEnd))))))) := by
    have hcomments : baseComments ≠ [] := List.cons_ne_nil _ _
    simp [outLines, preLines, content, blockStart, blockEnd, generatorStart, joinLines_append,
      joinLines_cons, postLines_ne_nil, hcomments]
  rw [htext]
  exact .cons _ _ (.cons _ _ ((hpost.append _).gap _))

end Output

end NestUserService.Tenant.SchemaText
