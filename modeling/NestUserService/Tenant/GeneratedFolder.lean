import NestUserService.Lib.Path
import NestUserService.Tenant.EnvFile

/-!
# The directory of a generated client

Three places derive a directory from a client code: the generator block of the schema, what
the client manager imports, and the test for a migration that has been made. The sources under
`src` are compiled to `dist`.
-/

namespace NestUserService.Tenant.GeneratedFolder

open Lib NestUserService.Core

variable {env : Config} {root : List String} {c : String}

/-- `outputDir`. -/
def outputDir (env : Config) (c : String) : String := "./generated/client_" ++ trimmedCode env c

/-- The output of the generator, next to `prisma/schema.tenant.prisma`. -/
def generatorOutput (env : Config) (root : List String) (c : String) : List String :=
  Path.resolve (root ++ ["prisma"]) (outputDir env c)

/-- `generatedPath`. -/
def generatedPath (c : String) : String := "../../prisma/generated/client_" ++ c

/-- What the client manager imports. -/
def importedFolder (root : List String) (c : String) : List String :=
  Path.resolve (root ++ ["dist", "tenant"]) (generatedPath c)

/-- `folderPath`. -/
def folderPath (env : Config) (root : List String) (c : String) : List String :=
  Path.resolve (root ++ ["dist", "client-admins", "application", "command"])
    ("../../../prisma/generated/client_" ++ env.toLowerCase c)

structure OneDirectory (env : Config) (root : List String) (c : String) : Prop where
  imported : generatorOutput env root c = importedFolder root c
  tested : importedFolder root c = folderPath env root c

instance (env : Config) (root : List String) (c : String) : Decidable (OneDirectory env root c) :=
  decidable_of_iff (generatorOutput env root c = importedFolder root c ∧
    importedFolder root c = folderPath env root c) ⟨fun h => ⟨h.1, h.2⟩, fun h => ⟨h.1, h.2⟩⟩

/-- Where Prisma writes the clients. -/
def generatedDir (root : List String) : List String := root ++ ["prisma", "generated"]

/-- The same path in the compiled sources. -/
def distGeneratedDir (root : List String) : List String := root ++ ["dist", "prisma", "generated"]

/-- A path to a folder `client_…` is the way to its directory, and then the name. -/
theorem resolve_client {dir dir' : List String} {text up : String}
    (htext : text = up ++ "/" ++ "client_") (hup : Path.resolve dir up = dir') (x : String) :
    Path.resolve dir (text ++ x) = Path.resolve dir' (clientFolder x) := by
  unfold clientFolder
  rw [htext, String.append_assoc, Path.resolve_append, hup]

theorem generatorOutput_eq (hlower : env.toLowerCase (configName c) =
    "clientcreate_" ++ env.toLowerCase c) (root : List String) :
    generatorOutput env root c =
      Path.resolve (generatedDir root) (clientFolder (env.toLowerCase c)) := by
  have hsegments : Path.segments "./generated" = [".", "generated"] := by decide
  have hup : Path.resolve (root ++ ["prisma"]) "./generated" = generatedDir root := by
    unfold Path.resolve
    rw [hsegments]
    simp [Path.step, Path.Idle, generatedDir]
  unfold generatorOutput outputDir
  rw [EnvFile.trimmedCode_eq hlower]
  exact resolve_client (by decide) hup _

theorem importedFolder_eq (root : List String) (c : String) :
    importedFolder root c = Path.resolve (generatedDir root) (clientFolder c) := by
  have hsegments : Path.segments "../../prisma/generated" = ["..", "..", "prisma", "generated"] := by
    decide
  have hup : Path.resolve (root ++ ["dist", "tenant"]) "../../prisma/generated" =
      generatedDir root := by
    unfold Path.resolve
    rw [hsegments]
    simp [Path.step, Path.Idle, generatedDir]
  exact resolve_client (by decide) hup c

/-- The path of the test climbs to `dist` only. -/
theorem folderPath_eq (env : Config) (root : List String) (c : String) :
    folderPath env root c =
      Path.resolve (distGeneratedDir root) (clientFolder (env.toLowerCase c)) := by
  have hsegments : Path.segments "../../../prisma/generated" =
      ["..", "..", "..", "prisma", "generated"] := by decide
  have hup : Path.resolve (root ++ ["dist", "client-admins", "application", "command"])
      "../../../prisma/generated" = distGeneratedDir root := by
    unfold Path.resolve
    rw [hsegments]
    simp [Path.step, Path.Idle, distGeneratedDir]
  exact resolve_client (by decide) hup _

theorem clientFolder_special (x : String) : ¬ Path.Idle (clientFolder x) ∧ clientFolder x ≠ ".." := by
  have hlength : "client_".toList.length ≤ (clientFolder x).toList.length := by
    unfold clientFolder
    rw [String.toList_append, List.length_append]
    omega
  have hseven : "client_".toList.length = 7 := by decide
  refine ⟨?_, ?_⟩
  · rintro (h | h)
    · rw [h] at hlength
      exact absurd hlength (by decide)
    · rw [h] at hlength
      exact absurd hlength (by decide)
  · intro h
    rw [h] at hlength
    exact absurd hlength (by decide)

/-- A code without a slash names an entry of the directory. -/
theorem resolve_name {x : String} (h : '/' ∉ x.toList) (dir : List String) :
    Path.resolve dir (clientFolder x) = dir ++ [clientFolder x] := by
  have hname : '/' ∉ (clientFolder x).toList := by
    unfold clientFolder
    rw [String.toList_append, List.mem_append, not_or]
    exact ⟨by decide, h⟩
  obtain ⟨hidle, hparent⟩ := clientFolder_special x
  unfold Path.resolve Path.step
  rw [Path.segments_of_notMem hname, List.foldl_cons, List.foldl_nil, if_neg hidle, if_neg hparent]

theorem not_oneDirectory_of_name (h : '/' ∉ c.toList) (h' : '/' ∉ (env.toLowerCase c).toList)
    (root : List String) : ¬ OneDirectory env root c := by
  intro hone
  have htested := hone.tested
  rw [importedFolder_eq, folderPath_eq, resolve_name h, resolve_name h'] at htested
  have hlength := congrArg List.length htested
  simp [generatedDir, distGeneratedDir] at hlength

/-- What is used of the case mapping: it maps the fixed parts of the names and the segments of
a path by themselves, and makes no segment special. -/
structure PathLaws (env : Config) : Prop where
  config : ∀ c, env.toLowerCase (configName c) = "clientcreate_" ++ env.toLowerCase c
  folder : ∀ c, env.toLowerCase (clientFolder c) = clientFolder (env.toLowerCase c)
  segments : ∀ s, Path.segments (env.toLowerCase s) = (Path.segments s).map env.toLowerCase
  special : Path.KeepsSpecial env.toLowerCase

/-- The three directories are one exactly when the code climbs from `dist/prisma/generated` to
the root of the file system, and the names that it goes down from there are in lower case. -/
theorem one_directory_iff (env : Config) (root : List String) (c : String)
    (hlaws : PathLaws env) : OneDirectory env root c ↔
      (distGeneratedDir root).length ≤ (Path.relative (clientFolder c)).climb ∧
        ∀ name ∈ (Path.relative (clientFolder c)).names, env.toLowerCase name = name := by
  have hlower : Path.relative (clientFolder (env.toLowerCase c)) =
      (Path.relative (clientFolder c)).map env.toLowerCase := by
    refine Path.relative_map hlaws.special ?_
    rw [← hlaws.folder, hlaws.segments]
  have hgenerator := generatorOutput_eq (hlaws.config c) root
  have himported := importedFolder_eq root c
  have htested := folderPath_eq env root c
  rw [Path.resolve_eq, hlower] at hgenerator htested
  rw [Path.resolve_eq] at himported
  have hdeeper : (generatedDir root).length < (distGeneratedDir root).length := by
    simp [generatedDir, distGeneratedDir]
  have hlength : (Path.relative (clientFolder c)).names.length =
      ((Path.relative (clientFolder c)).map env.toLowerCase).names.length :=
    List.length_map .. |>.symm
  have htwo : importedFolder root c = folderPath env root c ↔
      (distGeneratedDir root).length ≤ (Path.relative (clientFolder c)).climb ∧
        (Path.relative (clientFolder c)).names =
          ((Path.relative (clientFolder c)).map env.toLowerCase).names := by
    rw [himported, htested]
    exact Path.Relative.follow_eq_iff hdeeper rfl hlength
  have hnames : (Path.relative (clientFolder c)).names =
      ((Path.relative (clientFolder c)).map env.toLowerCase).names ↔
        ∀ name ∈ (Path.relative (clientFolder c)).names, env.toLowerCase name = name := by
    conv =>
      lhs
      lhs
      rw [← List.map_id (Path.relative (clientFolder c)).names]
    rw [eq_comm]
    exact List.map_inj_left
  constructor
  · intro h
    obtain ⟨hroot, hsame⟩ := htwo.mp h.tested
    exact ⟨hroot, hnames.mp hsame⟩
  · rintro ⟨hroot, hsame⟩
    have hequal := hnames.mpr hsame
    refine ⟨?_, htwo.mpr ⟨hroot, hequal⟩⟩
    rw [hgenerator, himported]
    unfold Path.Relative.follow
    rw [← hequal]
    rfl

theorem splitOn_map_slash {f : Char → Char} (h : ∀ c, f c = '/' ↔ c = '/') (s : List Char) :
    (s.map f).splitOn '/' = (s.splitOn '/').map (List.map f) := by
  induction s with
  | nil => rfl
  | cons c s ih =>
    rw [List.map_cons, List.splitOn_cons_eq_if_modifyHead, List.splitOn_cons_eq_if_modifyHead, ih]
    by_cases hc : c = '/'
    · rw [if_pos (beq_iff_eq.mpr ((h c).mpr hc)), if_pos (beq_iff_eq.mpr hc)]
      rfl
    · rw [if_neg fun he => hc ((h c).mp (beq_iff_eq.mp he)), if_neg fun he => hc (beq_iff_eq.mp he)]
      cases s.splitOn '/' with
      | nil => rfl
      | cons p ps => rfl

theorem map_eq_iff {f : Char → Char} {t : List Char} (h : ∀ a ∈ t, ∀ c, f c = a ↔ c = a)
    (s : List Char) : s.map f = t ↔ s = t := by
  induction s generalizing t with
  | nil => rfl
  | cons c s ih =>
    cases t with
    | nil => exact iff_of_false (List.cons_ne_nil _ _) (List.cons_ne_nil _ _)
    | cons a t =>
      rw [List.map_cons, List.cons.injEq, List.cons.injEq, h a (List.mem_cons_self ..) c,
        ih fun b hb => h b (List.mem_cons_of_mem _ hb)]

theorem toLower_eq_iff {t : String} (h : ∀ a ∈ t.toList, a = '.') (s : String) :
    s.toLower = t ↔ s = t := by
  unfold String.toLower
  rw [← String.toList_inj, String.toList_map, ← String.toList_inj]
  refine map_eq_iff (fun a ha => ?_) _
  rw [h a ha]
  exact EnvFile.toLower_iff (by decide +kernel)

theorem pathLaws_sample : PathLaws Config.sample where
  config := EnvFile.caseLaws_sample.lower
  folder := by
    have hfolder : "client_".map Char.toLower = "client_" := by decide +kernel
    intro c
    exact (EnvFile.map_append Char.toLower "client_" c).trans (congrArg (· ++ _) hfolder)
  segments := by
    intro s
    change Path.segments (s.map Char.toLower) = (Path.segments s).map String.toLower
    unfold Path.segments
    rw [String.toList_map, splitOn_map_slash (EnvFile.toLower_iff (by decide +kernel)), List.map_map,
      List.map_map]
    refine List.map_congr_left fun p _ => ?_
    unfold String.toLower
    rw [Function.comp_apply, Function.comp_apply, ← String.toList_inj, String.toList_map,
      String.toList_ofList, String.toList_ofList]
  special := by
    refine ⟨fun s => or_congr ?_ ?_, ?_⟩
    · exact toLower_eq_iff (by simp) s
    · exact toLower_eq_iff (by simp) s
    · exact toLower_eq_iff (by simp)

/-- A code that climbs to the root of the file system. -/
theorem oneDirectory_at_root : OneDirectory Config.sample ["app"] "x/../../../../../tmp" :=
  (one_directory_iff Config.sample ["app"] "x/../../../../../tmp" pathLaws_sample).mpr
    (by decide +kernel)

theorem three_directories : ¬ OneDirectory Config.sample ["app"] "CL-1" :=
  not_oneDirectory_of_name (by decide) (by decide +kernel) _

end NestUserService.Tenant.GeneratedFolder
