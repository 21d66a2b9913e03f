import SchemaAtlas.Proofs.FileName
import SchemaAtlas.Proofs.Keyed
import SchemaAtlas.Proofs.Site.Markup
import SchemaAtlas.Site.Page

/-! # The layout of the pages

Everything that pages write literally is listed here, and every piece of every content is a text, a
link, or one of the listed strings. The opening brackets of the list are the first characters of its
tags, which hold for the list as it stands and are checked on it once.
-/

namespace SchemaAtlas.Site

open Schema Document

/-- A row of headings. -/
def headingLine (names : List String) : String :=
  "      <tr>" ++ String.join (names.map fun name => "<th>" ++ name ++ "</th>") ++ "</tr>"

/-- The headings of the tables that pages hold. -/
abbrev headingRows : List (List String) :=
  [["Table", "Columns", "Owner", "Description"],
    ["Id", "Kind", "Engine", "Location", "Mappings", "Description"],
    ["Name", "Type", "Flags", "Default", "References", "Description"],
    ["Column", "Source", "Path", "Transform", "Rule"]]

/-- The names of the sizes that the overview shows. -/
abbrev totalNames : List String := ["Targets", "Tables", "Sources", "Mappings"]

/-- What stands in front of a size. -/
def totalOpening (name : String) : String := "      <tr><th>" ++ name ++ "</th><td>"

/-- The markup with which lines of a page end. -/
abbrev lineMarkup : List String :=
  style ++ headingRows.map headingLine ++
  ["<!DOCTYPE html>", "<html lang=\"en\">", "<head>", "  <meta charset=\"utf-8\">", "</title>",
    "  <style>", "  </style>", "</head>", "<body>", "  <nav>", "</a>", "  </nav>", "  <main>",
    "</h1>", "  </main>", "</footer>", "</body>", "    <table>", "    </table>", "      <tr>",
    "      </tr>", "</td>", "</code></td>", "</a></td>", "</th>", "</td></tr>", "    <ul>",
    "    </ul>", "</li>", "</p>", "</h3>", "    <h2>Summary</h2>", "    <h2>Owners</h2>",
    "    <h2>Targets</h2>", "    <h2>Columns</h2>", "    <h2>Mapped from</h2>",
    "    <h2>Upstream</h2>", "    <p>No sources declared.</p>",
    "    <p>No mappings target this table.</p>", "    <p>No upstream lineage.</p>"]

/-- The markup in front of texts and links and between them. -/
abbrev innerMarkup : List String :=
  totalNames.map totalOpening ++
  ["  <title>", " - ", "    ", "Overview", "Tables", "Sources", "Mappings", "    <h1>",
    "  <footer>", " - generated ", "</html>", "        <td>", "        <td><code>", "        <th>",
    "      <li>", "    <p>", "    <p>Owner: ", "    <h3>", ".", "</a> (", " columns)", " (", "): "]

/-- Everything that pages write literally, whatever the schema graph. -/
def layout : List String := lineMarkup.map (· ++ "\n") ++ innerMarkup

/-- The tags of the layout. -/
def tags : List String :=
  ["<!DOCTYPE html>", "<html lang=\"en\">", "</html>", "<head>", "</head>",
    "<meta charset=\"utf-8\">", "<title>", "</title>", "<style>", "</style>", "<body>", "</body>",
    "<nav>", "</nav>", "</a>", "<main>", "</main>", "<h1>", "</h1>", "<h2>", "</h2>", "<h3>",
    "</h3>", "<footer>", "</footer>", "<table>", "</table>", "<tr>", "</tr>", "<th>", "</th>",
    "<td>", "</td>", "<code>", "</code>", "<ul>", "</ul>", "<li>", "</li>", "<p>", "</p>"]

section Brackets

/-- Whether every opening bracket of a text is the first character of one of some tags. -/
def opensOnly (tags : List (List Char)) : List Char → Bool
  | [] => true
  | c :: rest => (c != '<' || tags.any (·.isPrefixOf (c :: rest))) && opensOnly tags rest

theorem exists_tag_of_opensOnly {tags : List (List Char)} {cs rest : List Char}
    (opens : opensOnly tags cs = true) (occurs : '<' :: rest <:+ cs) :
    ∃ tag ∈ tags, tag <+: '<' :: rest := by
  induction cs with
  | nil => cases List.suffix_nil.mp occurs
  | cons c behind ih =>
    rw [opensOnly, Bool.and_eq_true] at opens
    rcases List.suffix_cons_iff.mp occurs with same | inside
    · obtain ⟨rfl, rfl⟩ := List.cons_eq_cons.mp same
      simpa using opens.1
    · exact ih opens.2 inside

-- A literal is the text of its characters only up to unfolding, which `rw` sees and `simp` does not.
theorem layout_opensOnly_tags :
    layout.all (fun s => opensOnly (tags.map String.toList) s.toList) = true := by
  simp only [tags, List.map_cons, List.map_nil]
  repeat rw [String.toList_ofList]
  simp only [layout, lineMarkup, innerMarkup, style, headingRows, headingLine, totalNames,
    totalOpening, List.map_cons, List.map_nil, List.cons_append, List.nil_append, List.append_nil,
    List.all_cons, List.all_nil, String.toList_append, String.toList_join, List.flatMap_cons,
    List.flatMap_nil]
  repeat rw [String.toList_ofList]
  rfl

/-- Every opening bracket of the layout is the first character of one of its tags. -/
theorem exists_tag_of_layout {s : String} (known : s ∈ layout) {rest : List Char}
    (occurs : '<' :: rest <:+ s.toList) : ∃ tag ∈ tags, tag.toList <+: '<' :: rest := by
  have opens := List.all_eq_true.mp layout_opensOnly_tags s known
  obtain ⟨_, member, found⟩ := exists_tag_of_opensOnly opens occurs
  obtain ⟨tag, known_tag, rfl⟩ := List.mem_map.mp member
  exact ⟨tag, known_tag, found⟩

end Brackets

section Fitting

/-- A piece that fits the layout: literal markup of it, any text, or a link to one of some targets. -/
def Fits (targets : List String) : Piece → Prop
  | .markup s => s ∈ layout
  | .text _ => True
  | .link target => target ∈ targets

/-- Pieces that fit the layout. -/
def AllFit (targets : List String) (pieces : List Piece) : Prop :=
  ∀ piece ∈ pieces, Fits targets piece

variable {targets : List String}

theorem allFit_nil : AllFit targets [] := by simp [AllFit]

theorem allFit_cons {piece : Piece} {pieces : List Piece} :
    AllFit targets (piece :: pieces) ↔ Fits targets piece ∧ AllFit targets pieces :=
  List.forall_mem_cons

theorem allFit_append {first second : List Piece} :
    AllFit targets (first ++ second) ↔ AllFit targets first ∧ AllFit targets second :=
  List.forall_mem_append

theorem allFit_flatMap {α : Type} {items : List α} {pieces : α → List Piece} :
    AllFit targets (items.flatMap pieces) ↔ ∀ item ∈ items, AllFit targets (pieces item) := by
  simp only [AllFit, List.forall_mem_flatMap]

theorem fits_line {s : String} (known : s ∈ lineMarkup) : Fits targets (.markup (s ++ "\n")) :=
  List.mem_append_left _ (List.mem_map_of_mem known)

theorem fits_inner {s : String} (known : s ∈ innerMarkup) : Fits targets (.markup s) :=
  List.mem_append_right _ known

theorem fits_text (s : String) : Fits targets (.text s) := trivial

theorem allFit_line {s : String} (known : s ∈ lineMarkup) : AllFit targets (line s) :=
  allFit_cons.mpr ⟨fits_line known, allFit_nil⟩

theorem allFit_between {opening closing : String} {content : List Piece}
    (opens : opening ∈ innerMarkup) (closes : closing ∈ lineMarkup) :
    AllFit targets (between opening content closing) ↔ AllFit targets content := by
  simp only [between, allFit_append, allFit_cons, fits_inner opens, fits_line closes, allFit_nil,
    true_and, and_true, List.cons_append]

theorem allFit_cell (s : String) : AllFit targets (cell s) := by
  simp (disch := simp) only [cell, allFit_between, allFit_cons, fits_text,
    allFit_nil, and_self]

theorem allFit_headings {names : List String} (known : names ∈ headingRows) :
    AllFit targets (headings names) := by
  refine allFit_line (List.mem_append_left _ (List.mem_append_right _ ?_))
  exact List.mem_map_of_mem known

theorem allFit_style : AllFit targets (style.flatMap line) :=
  allFit_flatMap.mpr fun _ member =>
    allFit_line (List.mem_append_left _ (List.mem_append_left _ member))

/-- A page fits the layout when its content does and its navigation leads to known targets. -/
theorem allFit_page {frame : Frame} {title root : String} {content : List Piece}
    (leads : ∀ entry ∈ navigation, root ++ entry.1 ∈ targets) (fits : AllFit targets content) :
    AllFit targets (frame.page title root content) := by
  have links : AllFit targets (navigation.flatMap fun entry =>
      between "    " [.link (root ++ entry.1), .markup entry.2] "</a>") := by
    refine allFit_flatMap.mpr fun entry member => ?_
    have named : ∀ entry ∈ navigation, entry.2 ∈ innerMarkup := by decide
    simp (disch := simp) only [allFit_between, allFit_cons, allFit_nil,
      fits_inner (named entry member), and_true]
    exact leads entry member
  unfold Frame.page
  simp (disch := simp) only [allFit_append, allFit_line,
    allFit_between, allFit_cons, fits_text, fits_inner, allFit_nil, allFit_style, fits, true_and,
    and_true]
  exact links

end Fitting

section Contents

variable (graph : Graph) {targets : List String}

/-- The file names of the table pages. -/
def pageNames (graph : Graph) : List String := (tablePages graph).map (·.1)

/-- The page of a declared table is one of the table pages. -/
theorem pageOf_mem {table : Table} (declared : table ∈ graph.tables) :
    (tablePages graph).pageOf table.key ∈ pageNames graph := by
  have listed : table ∈ (tablePages graph).map (·.2) := by
    rwa [tablePages, FileName.map_snd_assign]
  obtain ⟨entry, member, rfl⟩ := List.mem_map.mp listed
  cases found : (tablePages graph).find? fun other => decide (other.2.key = entry.2.key) with
  | none => exact absurd (List.find?_eq_none.mp found entry member) (by simp)
  | some other =>
    rw [Pages.pageOf, found]
    exact List.mem_map_of_mem (List.mem_of_find?_eq_some found)

/-- The members of a group of tables are declared. -/
theorem mem_tables_of_group {group : (String × String) × List Table} (member : group ∈ graph.groups)
    {table : Table} (inside : table ∈ group.2) : table ∈ graph.tables := by
  rw [Graph.groups, Keyed.groups_eq] at member
  obtain ⟨key, _, rfl⟩ := List.mem_map.mp member
  exact (List.mem_filter.mp inside).1

theorem allFit_totalRow {name : String} (known : name ∈ totalNames) (count : Nat) :
    AllFit targets (totalRow name count) := by
  have opens : totalOpening name ∈ innerMarkup := List.mem_append_left _ (List.mem_map_of_mem known)
  exact (allFit_between opens (by simp)).mpr (allFit_cons.mpr ⟨fits_text _, allFit_nil⟩)

theorem allFit_ownerList (owners : List String) : AllFit targets (ownerList owners) := by
  unfold ownerList
  split
  · exact allFit_nil
  · simp (disch := simp) only [allFit_append, allFit_line, allFit_flatMap, allFit_between,
      allFit_cons, fits_text, allFit_nil, and_self, implies_true]

theorem allFit_groupSection {group : (String × String) × List Table}
    (leads : ∀ table ∈ group.2, "tables/" ++ (tablePages graph).pageOf table.key ∈ targets) :
    AllFit targets (groupSection (tablePages graph) group) := by
  unfold groupSection
  simp (disch := simp) only [allFit_append, allFit_line, allFit_flatMap, allFit_between, allFit_cons,
    fits_text, fits_inner, allFit_nil, true_and, and_true]
  exact leads

theorem allFit_overview (leads : ∀ page ∈ pageNames graph, "tables/" ++ page ∈ targets) :
    AllFit targets (overview graph) := by
  have groups : ∀ group ∈ graph.groups, AllFit targets (groupSection (tablePages graph) group) :=
    fun _ member => allFit_groupSection graph fun _ inside =>
      leads _ (pageOf_mem graph (mem_tables_of_group graph member inside))
  unfold overview
  simp (disch := simp) only [allFit_append, allFit_line, allFit_totalRow, allFit_ownerList,
    allFit_flatMap, true_and, and_true]
  exact groups

theorem allFit_tableIndex (leads : ∀ page ∈ pageNames graph, page ∈ targets) :
    AllFit targets (tableIndex graph) := by
  have rows : ∀ entry ∈ tablePages graph, Fits targets (.link entry.1) :=
    fun entry member => leads _ (List.mem_map_of_mem member)
  unfold tableIndex
  simp (disch := simp) only [allFit_append, allFit_line, allFit_headings, allFit_flatMap,
    allFit_between, allFit_cons, fits_text, allFit_nil, countCell, allFit_cell, true_and, and_true]
  exact rows

theorem allFit_sourceIndex : AllFit targets (sourceIndex graph) := by
  unfold sourceIndex
  split
  · exact allFit_line (by simp)
  · simp (disch := simp) only [allFit_append, allFit_line, allFit_headings, allFit_flatMap, sourceRow,
      allFit_between, allFit_cons, fits_text, allFit_nil, countCell, allFit_cell, and_self,
      implies_true]

theorem allFit_mappingIndex : AllFit targets (mappingIndex graph) := by
  unfold mappingIndex
  simp (disch := simp) only [allFit_append, allFit_line, allFit_flatMap, allFit_between, allFit_cons,
    fits_text, allFit_nil, allFit_cell, and_self, implies_true]

theorem allFit_paragraph {opening : String} (known : "    <p>" ++ opening ∈ innerMarkup)
    (text : Option String) : AllFit targets (paragraph opening text) := by
  unfold paragraph
  split
  · exact (allFit_between known (by simp)).mpr (allFit_cons.mpr ⟨fits_text _, allFit_nil⟩)
  · exact allFit_nil

theorem allFit_tableContent (lineage : Lineage.Graph) (table : Table) :
    AllFit targets (tableContent graph lineage table) := by
  unfold tableContent
  simp (disch := simp) only [allFit_append, allFit_paragraph, allFit_line, allFit_headings,
    allFit_flatMap, columnRow, allFit_between, allFit_cons, fits_text, allFit_nil, allFit_cell,
    true_and, and_true, and_self, implies_true]
  constructor
  · split
    · simp (disch := simp) only [allFit_line]
    · simp (disch := simp) only [allFit_append, allFit_line, allFit_headings, allFit_flatMap,
        incomingRow, allFit_cell, and_self, implies_true]
  · split
    · simp (disch := simp) only [allFit_line]
    · simp (disch := simp) only [allFit_append, allFit_line, allFit_flatMap, upstreamItem,
        allFit_between, allFit_cons, fits_text, fits_inner, allFit_nil, and_self, implies_true]

end Contents

end SchemaAtlas.Site
