import SchemaAtlas.Compilation.Files
import SchemaAtlas.Proofs.Attempt
import SchemaAtlas.Proofs.Diagram.Groups
import SchemaAtlas.Proofs.Document.Writable
import SchemaAtlas.Proofs.Site.Links

/-! # Artifact files and their paths

The files of a compilation fall into areas: single files, and one directory each for diagrams,
scripts and the site. Within an area names differ because they were numbered, or because they belong
to different dialects; areas differ by their first name. So no file replaces another, and none leaves
the output directory. What is written is exactly the list of artifacts, each with its own content.
-/

namespace SchemaAtlas.Compilation

open Schema Document FileName FilePath

section Scripts

/-- The file name of a dialect's script. -/
def scriptName (dialect : Dialect) : String := dialect.name ++ dialect.extension

theorem mem_all (dialect : Dialect) : dialect ∈ Dialect.all := by
  cases dialect <;> decide

theorem scriptName_injective : Function.Injective scriptName := by
  intro first second same
  have different : (Dialect.all.map scriptName).Nodup := by decide
  exact List.inj_on_of_nodup_map different (mem_all first) (mem_all second) same

theorem isName_scriptName (dialect : Dialect) : IsName (scriptName dialect) := by
  have each : ∀ dialect ∈ Dialect.all, IsName (scriptName dialect) := by decide
  exact each dialect (mem_all dialect)

/-- No dialect has two scripts, however often it is asked for. -/
theorem nodup_renderAll? {graph : Graph} {requested : List String}
    {scripts : List (Dialect × String)}
    (success : Dialect.renderAll? graph requested = .ok scripts) : (scripts.map (·.1)).Nodup := by
  obtain ⟨dialects, _, success⟩ := Attempt.bind_eq_ok_iff.mp success
  cases success
  rw [List.map_map, Function.comp_def, List.map_id', Keyed.distinct_eq]
  exact Keyed.nodup_eraseDups dialects

end Scripts

section Artifacts

/-- Artifacts whose names are paths of ordinary names and, within each kind, all different. -/
structure Apart (made : Artifacts) : Prop where
  diagrams : (made.diagrams.map (·.1)).Nodup
  scripts : (made.scripts.map (·.1)).Nodup
  site : (made.site.map (·.1)).Nodup
  confined_diagrams : ∀ path ∈ made.diagrams.map (·.1), Confined path
  confined_site : ∀ path ∈ made.site.map (·.1), Confined path

/-- Nothing that a value stops is made, and what is made is what it would be otherwise. -/
theorem eq_of_limited {α : Type} {shown : List Value} {made result : α}
    (success : limited (showing shown made) = .ok result) : made = result :=
  (showing_eq_ok_iff.mp (Attempt.mapError_eq_ok_iff.mp success)).2

/-- The pages of a site are made when a site is asked for, and otherwise there are none. -/
theorem site_cases {docs : Bool} {graph : Graph} {lineage : Lineage.Graph} {stamp : Moment}
    {pages : List (String × String)} (success : site docs graph lineage stamp = .ok pages) :
    pages = Site.ofGraph graph lineage stamp ∨ pages = [] := by
  cases docs with
  | true => exact .inl (eq_of_limited success).symm
  | false => exact .inr (Except.ok.inj success).symm

theorem apart_of_artifacts {settings : Settings} {request : Request} {stamp : Moment}
    {graph : Graph} {lineage : Lineage.Graph} {made : Artifacts}
    (success : artifacts settings request stamp graph lineage = .ok made) : Apart made := by
  obtain ⟨matrix, _, success⟩ := Attempt.bind_eq_ok_iff.mp success
  obtain ⟨diagrams, drawn, success⟩ := Attempt.bind_eq_ok_iff.mp success
  obtain ⟨scripts, rendered, success⟩ := Attempt.bind_eq_ok_iff.mp success
  obtain ⟨summary, _, success⟩ := Attempt.bind_eq_ok_iff.mp success
  obtain ⟨pages, paged, success⟩ := Attempt.bind_eq_ok_iff.mp success
  cases success
  obtain rfl := eq_of_limited drawn
  constructor
  case diagrams => exact Diagram.nodup_ofGraph _ _
  case scripts => exact nodup_renderAll? (Attempt.mapError_eq_ok_iff.mp rendered)
  case confined_diagrams => exact fun path member => (Diagram.isName_of_mem_ofGraph member).confined
  case site =>
    rcases site_cases paged with rfl | rfl
    · rw [Site.map_fst_ofGraph]
      exact Site.nodup_paths graph
    · exact List.nodup_nil
  case confined_site =>
    rcases site_cases paged with rfl | rfl
    · rw [Site.map_fst_ofGraph]
      exact fun path member => Site.confined_of_mem_paths member
    · exact fun path member => absurd member List.not_mem_nil

variable {made : Artifacts}

theorem Apart.scriptNames (apart : Apart made) :
    (made.scripts.map fun script => scriptName script.1).Nodup := by
  have names := apart.scripts.map scriptName_injective
  rwa [List.map_map] at names

theorem confined_scriptNames (made : Artifacts) :
    ∀ path ∈ made.scripts.map (fun script => scriptName script.1), Confined path := by
  intro path member
  obtain ⟨script, _, rfl⟩ := List.mem_map.mp member
  exact (isName_scriptName script.1).confined

/-- The areas that the files of artifacts and their report fall into. -/
def areas (apart : Apart made) : List Area :=
  [.file "mapping_matrix.csv" (by decide), .file "lineage.json" (by decide),
    .directory "erd" (by decide) (made.diagrams.map (·.1)) apart.confined_diagrams apart.diagrams,
    .directory "ddl" (by decide) (made.scripts.map fun script => scriptName script.1)
      (confined_scriptNames made) apart.scriptNames] ++
  made.documentation.elim [] (fun _ => [.file "documentation.json" (by decide)]) ++
  [.directory "docs" (by decide) (made.site.map (·.1)) apart.confined_site apart.site,
    .file "report.json" (by decide)]

theorem nodup_tops (apart : Apart made) : ((areas apart).map Area.top).Nodup := by
  unfold areas
  cases made.documentation with
  | none =>
    show ["mapping_matrix.csv", "lineage.json", "erd", "ddl", "docs", "report.json"].Nodup
    decide
  | some entries =>
    show ["mapping_matrix.csv", "lineage.json", "erd", "ddl", "documentation.json", "docs",
      "report.json"].Nodup
    decide

end Artifacts

section Writing

theorem eq_of_writeFile {entry : String × Except WriteFault String} {file : File}
    (success : writeFile entry.1 entry.2 = .ok file) : entry = (file.path, .ok file.content) := by
  obtain ⟨content, same, success⟩ := Attempt.bind_eq_ok_iff.mp success
  split at success
  · cases success
    exact Prod.ext rfl same
  · cases success

/-- When writing succeeds, every file holds a content that exists. -/
theorem files_of_write {settings : Settings} {writable : Bool} {result : Result} {files : List File}
    (written : result.write settings writable = .ok files) :
    result.files settings = files.map fun file => (file.path, .ok file.content) := by
  unfold Result.write at written
  split at written
  · have pairs := (Attempt.mapM_eq_ok_iff.mp written).imp fun _ _ success => eq_of_writeFile success
    exact List.forall₂_eq_eq_eq ▸ List.forall₂_map_right_iff.mpr pairs
  · cases written

/-- The paths of a compilation's files are those of the areas. -/
theorem map_fst_files {settings : Settings} {result : Result} {compiled : Compiled}
    (apart : Apart compiled.artifacts) (same : result.compiled = some compiled) :
    (result.files settings).map (·.1) = (areas apart).flatMap Area.paths := by
  unfold Result.files Compiled.files areas
  rw [same]
  dsimp only [Option.elim_some]
  cases compiled.artifacts.documentation <;>
    simp [Area.file, Area.directory, scriptName, Function.comp_def, String.append_assoc]

end Writing

/-- What is written of a compilation: files whose paths are all different and confined, one for each
artifact with that artifact's content, and the report. -/
structure Delivered (settings : Settings) (result : Result) (files : List File) : Prop where
  nodup : (files.map (·.path)).Nodup
  confined : ∀ file ∈ files, Confined file.path
  complete : ∃ graph lineage made, result.compiled = some ⟨graph, lineage, made⟩ ∧
    files.map (fun file => (file.path, Except.ok file.content)) =
      [("mapping_matrix.csv", .ok made.mappingCsv), ("lineage.json", valueContent lineage.record)] ++
      made.diagrams.map (fun (name, text) => ("erd/" ++ name, .ok text)) ++
      made.scripts.map (fun (dialect, text) =>
        ("ddl/" ++ dialect.name ++ dialect.extension, .ok text)) ++
      made.documentation.toList.map (fun entries =>
        ("documentation.json", valueContent entries)) ++
      made.site.map (fun (path, html) => ("docs/" ++ path, .ok html)) ++
      [("report.json", valueContent (result.record settings))]

/-- Whatever a document calls its databases, schemas and tables, no written file replaces another or
leaves the output directory, and every artifact has exactly one file. -/
theorem delivered_of_write {settings : Settings} {request : Request} {stamp : Moment}
    {document : Value} {result : Result}
    (compiled : ofDocument settings request stamp document = .ok result)
    {writable : Bool} {files : List File} (written : result.write settings writable = .ok files) :
    Delivered settings result files := by
  obtain ⟨graph, _, compiled⟩ := Attempt.bind_eq_ok_iff.mp compiled
  obtain ⟨report, _, compiled⟩ := Attempt.bind_eq_ok_iff.mp compiled
  obtain ⟨lineage, _, compiled⟩ := Attempt.bind_eq_ok_iff.mp compiled
  obtain ⟨made, success, compiled⟩ := Attempt.bind_eq_ok_iff.mp compiled
  have same : result.compiled = some ⟨graph, lineage, made⟩ :=
    congrArg Result.compiled (Except.ok.inj compiled).symm
  have apart := apart_of_artifacts success
  have contents := files_of_write written
  have paths : files.map (·.path) = (areas apart).flatMap Area.paths := by
    have listed : (result.files settings).map (·.1) = _ := map_fst_files apart same
    rwa [contents, List.map_map] at listed
  constructor
  case nodup =>
    rw [paths]
    exact Area.nodup_flatMap (nodup_tops apart)
  case confined =>
    intro file member
    have listed : file.path ∈ (areas apart).flatMap Area.paths :=
      paths ▸ List.mem_map_of_mem member
    obtain ⟨area, _, inside⟩ := List.mem_flatMap.mp listed
    exact Area.confined inside
  case complete =>
    refine ⟨graph, lineage, made, same, ?_⟩
    rw [← contents, Result.files, same]
    dsimp only [Option.elim_some, Compiled.files]
    cases made.documentation <;> rfl

/-- Two databases whose names lead upward and give one diagram name, two tables that give one page
name, and a table called like the index of the pages. -/
def collidingDocument : Entries :=
  let record (entries : List (String × Value)) : Value := .dict (Entries.named entries)
  let table (name : String) : Value :=
    record [("name", .text name), ("columns", .list [record [("name", .text "id")]])]
  Entries.named [("targets", .list [
    record [("db", .text "../x"), ("schema", .text "s"),
      ("tables", .list [table "a b", table "a/b"])],
    record [("db", .text ".. x"), ("schema", .text "s"), ("tables", .list [table "index"])]])]

theorem delivered_collidingDocument :
    ∃ result files, ofDocument {} ⟨some ["mongodb", "postgres"], some true, some true⟩
        ⟨⟨2024, 1, 2⟩, 3, 4, 5, 0, some 0⟩ (.dict collidingDocument) = .ok result ∧
      result.write {} true = .ok files ∧ Delivered {} result files := by
  obtain ⟨result, compiled, files, written⟩ :
      ∃ result, ofDocument {} ⟨some ["mongodb", "postgres"], some true, some true⟩
          ⟨⟨2024, 1, 2⟩, 3, 4, 5, 0, some 0⟩ (.dict collidingDocument) = .ok result ∧
        ∃ files, result.write {} true = .ok files := ⟨_, rfl, _, rfl⟩
  exact ⟨result, files, compiled, written, delivered_of_write compiled written⟩

end SchemaAtlas.Compilation
