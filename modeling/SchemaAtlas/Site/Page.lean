import SchemaAtlas.Site.Markup
import SchemaAtlas.Site.Documentation
import SchemaAtlas.FileName
import SchemaAtlas.Lineage.Graph
import SchemaAtlas.Matrix.Mapping
import SchemaAtlas.Schema.Reference

/-! # The documentation site

Four pages describe a schema graph as a whole: an overview, the tables, the sources and the
mappings. Every table has a page of its own in a directory below, with its columns, the mappings
that write to it, and the sources and rules upstream of it.
-/

namespace SchemaAtlas.Site

open Schema Document

/-- What the frame around every page shows. -/
structure Frame where
  project : String
  stamp : String

/-- The style of every page. -/
def style : List String :=
  ["    body \x7b font-family: system-ui, sans-serif; margin: 0; color: #1f2933; \x7d",
    "    nav \x7b background: #243b53; padding: 0.75rem 1.5rem; \x7d",
    "    nav a \x7b color: #f0f4f8; margin-right: 1.25rem; text-decoration: none; \x7d",
    "    main \x7b padding: 1.5rem; \x7d",
    "    table \x7b border-collapse: collapse; margin-bottom: 1.5rem; \x7d",
    "    th, td \x7b border: 1px solid #d9e2ec; padding: 0.35rem 0.6rem; text-align: left; \x7d",
    "    th \x7b background: #f0f4f8; \x7d",
    "    code \x7b background: #f0f4f8; padding: 0 0.2rem; \x7d",
    "    footer \x7b color: #829ab1; font-size: 0.8rem; padding: 0 1.5rem 1.5rem; \x7d"]

/-- The pages that every page links to, with their names. -/
def navigation : List (String × String) :=
  [("index.html", "Overview"), ("tables/index.html", "Tables"), ("sources.html", "Sources"),
    ("mappings.html", "Mappings")]

/-- A page around its content; `root` leads from the page's directory to the site's. -/
def Frame.page (frame : Frame) (title root : String) (content : List Piece) : List Piece :=
  line "<!DOCTYPE html>" ++ line "<html lang=\"en\">" ++ line "<head>" ++
  line "  <meta charset=\"utf-8\">" ++
  between "  <title>" [.text title, .markup " - ", .text frame.project] "</title>" ++
  line "  <style>" ++ style.flatMap line ++ line "  </style>" ++ line "</head>" ++ line "<body>" ++
  line "  <nav>" ++
  navigation.flatMap (fun (target, name) =>
    between "    " [.link (root ++ target), .markup name] "</a>") ++
  line "  </nav>" ++ line "  <main>" ++ between "    <h1>" [.text title] "</h1>" ++ content ++
  line "  </main>" ++
  between "  <footer>" [.text frame.project, .markup " - generated ", .text frame.stamp]
    "</footer>" ++
  line "</body>" ++ [.markup "</html>"]

/-- The names of a table's columns as a row of headings. -/
def headings (names : List String) : List Piece :=
  line ("      <tr>" ++ String.join (names.map fun name => "<th>" ++ name ++ "</th>") ++ "</tr>")

/-- A row of the summary table. -/
def totalRow (name : String) (count : Nat) : List Piece :=
  between ("      <tr><th>" ++ name ++ "</th><td>") [.text (toString count)] "</td></tr>"

/-- The owners of a project, if it has any. -/
def ownerList (owners : List String) : List Piece :=
  if owners.isEmpty then []
  else line "    <h2>Owners</h2>" ++ line "    <ul>" ++
    owners.flatMap (fun owner => between "      <li>" [.text owner] "</li>") ++ line "    </ul>"

/-- Tables with the file names of their pages. -/
abbrev Pages := List (String × Table)

/-- The file names of the table pages, none of them that of the table index. -/
def tablePages (graph : Graph) : Pages :=
  FileName.assign (fun table => FileName.stemOf table.key.dotted) ".html" ["index.html"] graph.tables

/-- The page of a table. -/
def Pages.pageOf (pages : Pages) (key : TableKey) : String :=
  ((pages.find? fun entry => decide (entry.2.key = key)).map (·.1)).getD ""

/-- The overview's list of the tables of one database and schema. -/
def groupSection (pages : Pages) (group : (String × String) × List Table) : List Piece :=
  between "    <h3>" [.text (orDash (some group.1.1)), .markup ".", .text group.1.2] "</h3>" ++
  line "    <ul>" ++
  group.2.flatMap (fun table =>
    between "      <li>" [.link ("tables/" ++ pages.pageOf table.key), .text table.key.table,
      .markup "</a> (", .text (toString table.columns.length), .markup " columns)"] "</li>") ++
  line "    </ul>"

/-- The content of the overview. -/
def overview (graph : Graph) : List Piece :=
  let totals := Totals.of graph
  line "    <h2>Summary</h2>" ++ line "    <table>" ++ totalRow "Targets" totals.targets ++
  totalRow "Tables" totals.tables ++ totalRow "Sources" totals.sources ++
  totalRow "Mappings" totals.mappings ++ line "    </table>" ++ ownerList graph.owners ++
  line "    <h2>Targets</h2>" ++ graph.groups.flatMap (groupSection (tablePages graph))

/-- The content of the table index. -/
def tableIndex (graph : Graph) : List Piece :=
  line "    <table>" ++ headings ["Table", "Columns", "Owner", "Description"] ++
  (tablePages graph).flatMap (fun (page, table) =>
    line "      <tr>" ++
    between "        <td>" [.link page, .text table.key.dotted] "</a></td>" ++
    countCell table.columns.length ++ cell (orDash table.owner) ++
    cell (orDash table.description) ++ line "      </tr>") ++
  line "    </table>"

/-- The number of mappings that name a source. -/
def mappingCount (graph : Graph) (id : String) : Nat :=
  graph.mappings.countP fun mapping => given? mapping.origin.sourceId == some id

/-- A value for a cell, with a dash for nothing. -/
def valueOrDash (value : Value) : String :=
  match value with
  | .null => "-"
  | other => orDash (some other.display)

/-- The row of a source. -/
def sourceRow (graph : Graph) (source : Source) : List Piece :=
  line "      <tr>" ++
  between "        <td><code>" [.text source.id] "</code></td>" ++ cell source.kind.name ++
  cell (orDash source.engine) ++ cell (orDash (location? source.metadata)) ++
  countCell (mappingCount graph source.id) ++
  cell (valueOrDash (Entries.get source.metadata "description")) ++ line "      </tr>"

/-- The content of the sources page. -/
def sourceIndex (graph : Graph) : List Piece :=
  if graph.sources.isEmpty then line "    <p>No sources declared.</p>"
  else
    line "    <table>" ++
    headings ["Id", "Kind", "Engine", "Location", "Mappings", "Description"] ++
    graph.sources.flatMap (sourceRow graph) ++ line "    </table>"

/-- The content of the mappings page. -/
def mappingIndex (graph : Graph) : List Piece :=
  line "    <table>" ++ line "      <tr>" ++
  Matrix.header.flatMap (fun name => between "        <th>" [.text name] "</th>") ++
  line "      </tr>" ++
  graph.mappings.flatMap (fun mapping =>
    line "      <tr>" ++
    (Matrix.row graph mapping).flatMap (fun field => cell (orDash (some field))) ++
    line "      </tr>") ++
  line "    </table>"

/-- A paragraph, unless there is nothing to say. -/
def paragraph (opening : String) (text : Option String) : List Piece :=
  match given? text with
  | some s => between ("    <p>" ++ opening) [.text s] "</p>"
  | none => []

/-- What a column refers to, as one text. -/
def referenceLabel (fk : ForeignKey) : String :=
  match fk.column? with
  | some column => fk.table ++ "." ++ column
  | none => fk.table

/-- The row of a column. -/
def columnRow (column : Column) : List Piece :=
  line "      <tr>" ++ between "        <td><code>" [.text column.name] "</code></td>" ++
  cell (orDash (some column.type)) ++ cell (orDash (some (Text.joined ", " column.flags))) ++
  cell (orDash column.default) ++ cell (orDash (column.fk.map referenceLabel)) ++
  cell (orDash column.description) ++ line "      </tr>"

/-- A mapping as a table's page lists it. -/
structure Incoming where
  column : String
  source : Option String
  path : Option String
  transform : Option String
  rule : Option String

/-- What one mapping writes to its table, one entry for each of its fields. -/
def incomingOf (path : TargetPath) (origin : Origin) : List Incoming :=
  if origin.fields.isEmpty then
    [⟨path.column, origin.sourceId, origin.path, origin.transform, origin.rule⟩]
  else
    origin.fields.map fun (column, source) =>
      ⟨column, origin.sourceId, some source, origin.transform, origin.rule⟩

/-- Everything that mappings write to a table. -/
def incoming (graph : Graph) (key : TableKey) : List Incoming :=
  graph.mappings.flatMap fun mapping =>
    match mapping.target with
    | .path path => if path.key = key then incomingOf path mapping.origin else []
    | .unresolved _ => []

/-- The row of something that a mapping writes. -/
def incomingRow (entry : Incoming) : List Piece :=
  line "      <tr>" ++ cell entry.column ++ cell (orDash entry.source) ++
  cell (orDash entry.path) ++ cell (orDash entry.transform) ++ cell (orDash entry.rule) ++
  line "      </tr>"

/-- A source or rule upstream of a table, with the columns it reaches. -/
structure Upstream where
  label : String
  kind : String
  columns : List String
  deriving DecidableEq, Repr

/-- Everything upstream of a table. -/
def upstream (lineage : Lineage.Graph) (key : TableKey) : List Upstream :=
  (lineage.tableEdges.filter fun edge => edge.target == (Lineage.NodeRef.table key).id).map
    fun edge =>
      match lineage.nodes.find? edge.source with
      | some node => ⟨node.label, node.kind.name, edge.columns⟩
      | none => ⟨edge.source, Lineage.unknownName, edge.columns⟩

/-- The line of something upstream. -/
def upstreamItem (entry : Upstream) : List Piece :=
  between "      <li>" [.text entry.label, .markup " (", .text entry.kind, .markup "): ",
    .text (Text.joined ", " entry.columns)] "</li>"

/-- The content of a table's page. -/
def tableContent (graph : Graph) (lineage : Lineage.Graph) (table : Table) : List Piece :=
  let written := incoming graph table.key
  let above := upstream lineage table.key
  paragraph "" table.description ++ paragraph "Owner: " table.owner ++
  line "    <h2>Columns</h2>" ++ line "    <table>" ++
  headings ["Name", "Type", "Flags", "Default", "References", "Description"] ++
  table.columns.flatMap columnRow ++ line "    </table>" ++ line "    <h2>Mapped from</h2>" ++
  (if written.isEmpty then line "    <p>No mappings target this table.</p>"
    else line "    <table>" ++ headings ["Column", "Source", "Path", "Transform", "Rule"] ++
      written.flatMap incomingRow ++ line "    </table>") ++
  line "    <h2>Upstream</h2>" ++
  (if above.isEmpty then line "    <p>No upstream lineage.</p>"
    else line "    <ul>" ++ above.flatMap upstreamItem ++ line "    </ul>")

/-- The pages of a site by path, as pieces. -/
def pages (graph : Graph) (lineage : Lineage.Graph) (stamp : Moment) :
    List (String × List Piece) :=
  let frame : Frame := ⟨graph.project, stamp.isoSeconds "T"⟩
  [("index.html", frame.page "Overview" "" (overview graph)),
    ("tables/index.html", frame.page "Tables" "../" (tableIndex graph)),
    ("sources.html", frame.page "Sources" "" (sourceIndex graph)),
    ("mappings.html", frame.page "Mappings" "" (mappingIndex graph))] ++
  (tablePages graph).map fun (page, table) =>
    ("tables/" ++ page, frame.page table.key.dotted "../" (tableContent graph lineage table))

/-- The pages of a site by path, as text. -/
def ofGraph (graph : Graph) (lineage : Lineage.Graph) (stamp : Moment) : List (String × String) :=
  (pages graph lineage stamp).map fun (path, content) => (path, render content)

/-- The values that the pages show: where the sources are and how they are described, the targets
that are no paths, and the columns that foreign keys name. -/
def shown (graph : Graph) : List Value :=
  locations graph ++ graph.sources.map (fun source => source.metadata.get "description") ++
    graph.mappings.flatMap Matrix.rowShown ++ graph.referredColumns

/-- The pages of a site by path, unless a value that they show is too long. -/
def ofGraph? (graph : Graph) (lineage : Lineage.Graph) (stamp : Moment) :
    Except TooLong (List (String × String)) :=
  showing (shown graph) (ofGraph graph lineage stamp)

end SchemaAtlas.Site
