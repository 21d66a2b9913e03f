import SchemaAtlas.Compilation.Basic
import SchemaAtlas.Proofs.Compilation.Text
import SchemaAtlas.Proofs.Lineage.Nodes
import SchemaAtlas.Proofs.Site.Shown
import SchemaAtlas.Proofs.Settings.Dialects

/-! # Valid documents compile

Once a document is read, only a value that is too long to be written stops its compilation: every
schema graph has a lineage, and loaded settings ask only for scripts of known dialects. So a valid
document compiles unless it holds such a value, or a table-level foreign key that cannot be applied.
The rule for documents lets both pass, so neither exception can be left out.
-/

namespace SchemaAtlas.Compilation

open Schema Document Structure

/-- An attempt that fails for a value that is too long, if at all. -/
def Limited {α : Type} (attempt : Except Fault α) : Prop :=
  (∃ a, attempt = .ok a) ∨ attempt = .error .tooLong

section Limits

variable {α β : Type}

theorem Limited.bind {attempt : Except Fault α} {next : α → Except Fault β}
    (here : Limited attempt) (behind : ∀ a, Limited (next a)) : Limited (attempt >>= next) := by
  rcases here with ⟨a, success⟩ | failure
  · rw [success]
    exact behind a
  · rw [failure]
    exact .inr rfl

theorem limited_ok (a : α) : Limited (.ok a) := .inl ⟨a, rfl⟩

theorem limited_limited (attempt : Except TooLong α) : Limited (limited attempt) := by
  cases attempt with
  | ok a => exact .inl ⟨a, rfl⟩
  | error long => exact .inr rfl

end Limits

section Stages

theorem exists_dialect {name : String} (known : name ∈ Dialect.all.map Dialect.name) :
    ∃ dialect, Dialect.named? name = .ok dialect := by
  obtain ⟨dialect, _, rfl⟩ := List.mem_map.mp known
  cases dialect <;> exact ⟨_, rfl⟩

/-- The script of a known dialect is written unless it shows a value that is too long. -/
theorem requested?_eq {graph : Graph} {name : String} {dialect : Dialect}
    (named : Dialect.named? name = .ok dialect) :
    Dialect.requested? graph name =
      (showing (Dialect.shown graph dialect) dialect).mapError fun _ => .tooLong := by
  rw [Dialect.requested?, named]
  rfl

/-- Scripts for known dialects are written unless one shows a value that is too long. -/
theorem limited_renderAll? {requested : List String} (known : Settings.AllKnown requested)
    (graph : Graph) :
    Limited ((Dialect.renderAll? graph requested).mapError Fault.ofScripts) := by
  rw [Dialect.renderAll?]
  cases rendered : requested.mapM (Dialect.requested? graph) with
  | ok dialects => exact .inl ⟨_, rfl⟩
  | error fault =>
    obtain ⟨name, ⟨before, behind, split, _⟩, refused⟩ := Attempt.mapM_eq_error_iff.mp rendered
    have member : name ∈ requested := by simp [split]
    obtain ⟨dialect, named⟩ := exists_dialect (known name member)
    rw [requested?_eq named, showing] at refused
    split at refused
    · cases refused
    · cases refused
      exact .inr rfl

variable {settings : Settings} {overview docs : Option Bool} {stamp : Moment} {graph : Graph}

/-- Every artifact of a schema graph can be made, unless a value is too long. -/
theorem limited_artifacts (known : Settings.AllKnown settings.defaultDialects)
    (lineage : Lineage.Graph) :
    Limited (artifacts settings ⟨none, overview, docs⟩ stamp graph lineage) := by
  refine (limited_limited _).bind fun matrix => (limited_limited _).bind fun diagrams => ?_
  refine (limited_renderAll? known graph).bind fun scripts => Limited.bind ?_ fun summary =>
    Limited.bind ?_ fun pages => limited_ok _
  · unfold documentation
    split
    · rcases limited_limited (Site.documentation? graph stamp) with ⟨a, made⟩ | long
      · exact .inl ⟨some a, by rw [made]; rfl⟩
      · exact .inr (by rw [long]; rfl)
    · exact limited_ok _
  · unfold site
    split
    · exact limited_limited _
    · exact limited_ok _

theorem limited_lineage (graph : Graph) :
    Limited ((Lineage.Graph.of? graph).mapError Fault.clash) := by
  obtain ⟨lineage, traced, _⟩ := Lineage.exists_built graph
  exact .inl ⟨lineage, by rw [traced]; rfl⟩

/-- What is read compiles, unless a value is too long. -/
theorem limited_of_read (known : Settings.AllKnown settings.defaultDialects) {document : Value}
    (read : Graph.read? settings.projectFallbackName document = .ok graph)
    (overview docs : Option Bool) (stamp : Moment) :
    Limited (ofDocument settings ⟨none, overview, docs⟩ stamp document) := by
  rw [ofDocument, read]
  refine (limited_ok graph).bind fun graph => (limited_limited _).bind fun report => ?_
  refine (limited_lineage graph).bind fun lineage => ?_
  exact (limited_artifacts known lineage).bind fun made => limited_ok _

end Stages

section Writable

variable {settings : Settings} {graph : Graph} (writable : WritableGraph graph)

include writable

theorem exists_matrix : ∃ matrix, Matrix.ofGraph? graph = .ok matrix := by
  obtain ⟨rows, made⟩ := Attempt.exists_mapM fun mapping member =>
    exists_showing_iff.mpr (Site.allWritable_rowShown writable member)
  exact ⟨_, Attempt.bind_eq_ok_iff.mpr ⟨rows, made, rfl⟩⟩

theorem exists_renderAll? {requested : List String} (known : Settings.AllKnown requested) :
    ∃ scripts, Dialect.renderAll? graph requested = .ok scripts := by
  have each : ∀ name ∈ requested, ∃ dialect, Dialect.requested? graph name = .ok dialect := by
    intro name member
    obtain ⟨dialect, named⟩ := exists_dialect (known name member)
    have shown : AllWritable (Dialect.shown graph dialect) := by
      cases dialect with
      | mongodb => exact allWritable_nil
      | _ => exact writable.referred
    exact ⟨dialect, by rw [requested?_eq named, showing_of_writable shown]; rfl⟩
  obtain ⟨dialects, success⟩ := Attempt.exists_mapM each
  exact ⟨_, Attempt.bind_eq_ok_iff.mpr ⟨dialects, success, rfl⟩⟩

theorem exists_documentation (docs : Bool) (stamp : Moment) :
    ∃ summary, documentation docs graph stamp = .ok summary := by
  have made : Site.documentation? graph stamp = .ok _ :=
    showing_of_writable (Site.allWritable_locations writable)
  unfold documentation
  split
  · exact ⟨_, by rw [made]; rfl⟩
  · exact ⟨none, rfl⟩

theorem exists_site (docs : Bool) (lineage : Lineage.Graph) (stamp : Moment) :
    ∃ pages, site docs graph lineage stamp = .ok pages := by
  have made : Site.ofGraph? graph lineage stamp = .ok _ :=
    showing_of_writable (Site.allWritable_siteShown writable)
  unfold site
  split
  · exact ⟨_, by rw [made]; rfl⟩
  · exact ⟨[], rfl⟩

/-- Every artifact of a graph whose values can be written can be made. -/
theorem exists_artifacts (known : Settings.AllKnown settings.defaultDialects)
    (lineage : Lineage.Graph) (overview docs : Option Bool) (stamp : Moment) :
    ∃ made, artifacts settings ⟨none, overview, docs⟩ stamp graph lineage = .ok made := by
  obtain ⟨matrix, first⟩ := exists_matrix writable
  obtain ⟨diagrams, second⟩ : ∃ diagrams, Diagram.ofGraph? graph
      (overview.getD settings.includeOverview) = .ok diagrams :=
    exists_showing_iff.mpr writable.referred
  obtain ⟨scripts, third⟩ := exists_renderAll? writable known
  obtain ⟨summary, fourth⟩ :=
    exists_documentation writable (docs.getD settings.generateDocs) stamp
  obtain ⟨pages, fifth⟩ := exists_site writable (docs.getD settings.generateDocs) lineage stamp
  refine ⟨⟨matrix, diagrams, scripts, summary, pages⟩, ?_⟩
  refine Attempt.bind_eq_ok_iff.mpr ⟨matrix, Attempt.mapError_eq_ok_iff.mpr first, ?_⟩
  refine Attempt.bind_eq_ok_iff.mpr ⟨diagrams, Attempt.mapError_eq_ok_iff.mpr second, ?_⟩
  refine Attempt.bind_eq_ok_iff.mpr ⟨scripts, Attempt.mapError_eq_ok_iff.mpr third, ?_⟩
  refine Attempt.bind_eq_ok_iff.mpr ⟨summary, fourth, ?_⟩
  exact Attempt.bind_eq_ok_iff.mpr ⟨pages, fifth, rfl⟩

/-- A document whose graph holds only values that can be written compiles. -/
theorem exists_compiled (known : Settings.AllKnown settings.defaultDialects) {document : Value}
    (read : Graph.read? settings.projectFallbackName document = .ok graph)
    (overview docs : Option Bool) (stamp : Moment) :
    ∃ result, ofDocument settings ⟨none, overview, docs⟩ stamp document = .ok result := by
  obtain ⟨report, told⟩ : ∃ report, graph.report? settings.strictRedeclarations = .ok report :=
    exists_report?_iff.mpr fun mapping member => Mapping.isTold_of_writable
      (writable.targets mapping member) (writable.unresolved mapping member)
  obtain ⟨lineage, traced, _⟩ := Lineage.exists_built graph
  obtain ⟨made, success⟩ := exists_artifacts writable known lineage overview docs stamp
  refine ⟨⟨some ⟨graph, lineage, made⟩, report, []⟩, ?_⟩
  refine Attempt.bind_eq_ok_iff.mpr ⟨graph, Attempt.mapError_eq_ok_iff.mpr read, ?_⟩
  refine Attempt.bind_eq_ok_iff.mpr ⟨report, Attempt.mapError_eq_ok_iff.mpr told, ?_⟩
  refine Attempt.bind_eq_ok_iff.mpr ⟨lineage, Attempt.mapError_eq_ok_iff.mpr traced, ?_⟩
  exact Attempt.bind_eq_ok_iff.mpr ⟨made, success, rfl⟩

end Writable

/-- A valid document compiles for the default dialects, or one of its table-level foreign keys
cannot be applied, or something in it is too long to be written. -/
theorem compiles_or_unlinkable {given : Entries} {assigned : List (String × String)}
    {settings : Settings} (loaded : Settings.load given assigned = .ok settings)
    {document : Entries} (valid : Valid (.dict document)) (overview docs : Option Bool)
    (stamp : Moment) :
    (∃ result, ofDocument settings ⟨none, overview, docs⟩ stamp (.dict document) = .ok result ∧
      result.compiled.isSome = true ∧ result.parseErrors = []) ∨
    ((∃ obstacle, ofDocument settings ⟨none, overview, docs⟩ stamp (.dict document) =
        .error (.obstacle obstacle)) ∧
      ∃ raw ∈ rawTables document, ∃ declaration ∈ raw.foreignKeys,
        isLinkable declaration = false) ∨
    (ofDocument settings ⟨none, overview, docs⟩ stamp (.dict document) = .error .tooLong ∧
      (Value.dict document).isWritable = false) := by
  have known := Settings.allKnown_of_load loaded
  cases read : Graph.read? settings.projectFallbackName (.dict document) with
  | ok graph =>
    rcases limited_of_read known read overview docs stamp with ⟨result, success⟩ | long
    · obtain ⟨compiled, rfl⟩ := compiled_of_ofDocument success
      exact .inl ⟨_, success, rfl, rfl⟩
    · refine .inr (.inr ⟨long, Bool.eq_false_iff.mpr fun writable => ?_⟩)
      have graphs := writableGraph_of_ofDocument writable (read?_eq_ok_iff.mp read).2
      obtain ⟨result, success⟩ := exists_compiled graphs known read overview docs stamp
      rw [success] at long
      cases long
  | error stop =>
    cases stop with
    | obstacle obstacle =>
      refine .inr (.inl ⟨⟨obstacle, by rw [ofDocument, read]; rfl⟩, ?_⟩)
      by_contra linkable
      push Not at linkable
      have linkable : ∀ raw ∈ rawTables document, ∀ declaration ∈ raw.foreignKeys,
          isLinkable declaration = true :=
        fun raw member declaration inside => by simpa using linkable raw member declaration inside
      obtain ⟨graph, success⟩ := exists_ofDocument valid settings.projectFallbackName linkable
      rw [(read?_eq_obstacle_iff.mp read).2] at success
      cases success
    | tooLong =>
      refine .inr (.inr ⟨by rw [ofDocument, read]; rfl, Bool.eq_false_iff.mpr fun writable => ?_⟩)
      exact read?_eq_tooLong_iff.mp read (allWritable_shown writable)

/-- A document with one table, one column, and table-level foreign keys. -/
def documentWith (foreignKeys : List Value) : Entries :=
  let record (entries : List (String × Value)) : Value := .dict (Entries.named entries)
  Entries.named [("targets", .list [
    record [("db", .text "shop"), ("tables", .list [
      record [("name", .text "orders"),
        ("columns", .list [record [("name", .text "customer")]]),
        ("foreign_keys", .list foreignKeys)]])]])]

/-- A foreign key that refers to a table, with its columns given by a value. -/
def foreignKeyOf (columns : Value) : Value :=
  .dict (Entries.named [("columns", columns),
    ("references", .dict (Entries.named [("table", .text "customers")]))])

theorem compiles_linked :
    Settings.load [] [] = .ok {} ∧
      Valid (.dict (documentWith [foreignKeyOf (.list [.text "customer"])])) ∧
      ∃ result, ofDocument {} ⟨none, some true, none⟩ ⟨⟨2024, 1, 2⟩, 3, 4, 5, 0, some 0⟩
          (.dict (documentWith [foreignKeyOf (.list [.text "customer"])])) = .ok result ∧
        result.compiled.isSome = true ∧ result.parseErrors = [] := by
  have loaded : Settings.load [] [] = .ok {} := rfl
  have valid : Valid (.dict (documentWith [foreignKeyOf (.list [.text "customer"])])) :=
    ⟨⟨true, [], []⟩, rfl, rfl⟩
  refine ⟨loaded, valid, (compiles_or_unlinkable loaded valid _ _ _).resolve_right ?_⟩
  rintro (⟨_, raw, member, declaration, inside, unlinkable⟩ | ⟨_, long⟩)
  case inr => cases long
  have linkable : ∀ raw ∈ rawTables (documentWith [foreignKeyOf (.list [.text "customer"])]),
      ∀ declaration ∈ raw.foreignKeys, isLinkable declaration = true := by decide
  rw [linkable raw member declaration inside] at unlinkable
  cases unlinkable

/-- A number in place of the columns is valid, and no compilation of the document comes to an
end. -/
theorem valid_without_compilation :
    Valid (.dict (documentWith [foreignKeyOf (.int 5)])) ∧
      ∀ settings request stamp,
        ofDocument settings request stamp (.dict (documentWith [foreignKeyOf (.int 5)])) =
          .error (.obstacle .notWalkable) :=
  ⟨⟨⟨true, [], []⟩, rfl, rfl⟩, fun _ _ _ => rfl⟩

end SchemaAtlas.Compilation
