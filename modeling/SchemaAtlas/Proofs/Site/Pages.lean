import SchemaAtlas.Proofs.FilePath
import SchemaAtlas.Proofs.Site.Layout

/-! # Pages and their markup

A page links to the pages of the navigation and to the table pages, and to nothing else. Apart from
these links and the layout it holds only escaped text, so every opening bracket of a page starts a
tag of the layout or a link, whatever a document says.
-/

namespace SchemaAtlas.Site

open Schema Document

variable {graph : Graph} {lineage : Lineage.Graph} {stamp : Moment}

/-- The targets of a page's links: the navigation and the table pages, as the page's own directory
sees them. -/
def linksFrom (graph : Graph) (path : String) : List String :=
  if "tables/".toList <+: path.toList then
    navigation.map (fun entry => "../" ++ entry.1) ++ pageNames graph
  else navigation.map (·.1) ++ (pageNames graph).map ("tables/" ++ ·)

theorem linksFrom_below (graph : Graph) (name : String) :
    linksFrom graph ("tables/" ++ name) =
      navigation.map (fun entry => "../" ++ entry.1) ++ pageNames graph := by
  rw [linksFrom, String.toList_append, if_pos (List.prefix_append _ _)]

/-- The pages that stand beside the directory of the table pages. -/
def rootPages : List String := ["index.html", "sources.html", "mappings.html"]

theorem linksFrom_root (graph : Graph) {path : String} (root : path ∈ rootPages) :
    linksFrom graph path = navigation.map (·.1) ++ (pageNames graph).map ("tables/" ++ ·) := by
  have beside : ∀ path ∈ rootPages, ¬ "tables/".toList <+: path.toList := by decide
  rw [linksFrom, if_neg (beside path root)]

/-- Every page is laid out from the layout and leads to known targets only. -/
theorem allFit_pages {page : String × List Piece} (member : page ∈ pages graph lineage stamp) :
    AllFit (linksFrom graph page.1) page.2 := by
  have above : ∀ entry ∈ navigation, ∀ path ∈ rootPages, "" ++ entry.1 ∈ linksFrom graph path := by
    intro entry known path root
    rw [linksFrom_root graph root, String.empty_append]
    exact List.mem_append_left _ (List.mem_map_of_mem known)
  have below (name : String) : ∀ entry ∈ navigation,
      "../" ++ entry.1 ∈ linksFrom graph ("tables/" ++ name) := by
    intro entry known
    rw [linksFrom_below]
    exact List.mem_append_left _ (List.mem_map_of_mem known)
  unfold pages at member
  simp only [List.mem_append, List.mem_cons, List.not_mem_nil, or_false, List.mem_map] at member
  rcases member with (rfl | rfl | rfl | rfl) | ⟨⟨name, table⟩, _, rfl⟩
  · refine allFit_page (fun entry known => above entry known _ (.head _))
      (allFit_overview graph fun name known => ?_)
    rw [linksFrom_root graph (.head _)]
    exact List.mem_append_right _ (List.mem_map_of_mem known)
  · refine allFit_page (below "index.html") (allFit_tableIndex graph fun name known => ?_)
    exact linksFrom_below graph "index.html" ▸ List.mem_append_right _ known
  · exact allFit_page (fun entry known => above entry known _ (.tail _ (.head _)))
      (allFit_sourceIndex graph)
  · exact allFit_page (fun entry known => above entry known _ (.tail _ (.tail _ (.head _))))
      (allFit_mappingIndex graph)
  · exact allFit_page (below name) (allFit_tableContent graph lineage table)

/-- The names of table pages are ordinary, whatever the tables are called. -/
theorem isName_pageNames {name : String} (member : name ∈ pageNames graph) : FilePath.IsName name :=
  FilePath.isName_of_mem_assign (fun _ => FileName.allSafe_stemOf _) (by decide) (by decide) member

/-- A character of a file path: a safe one or a slash. -/
def isPathChar (c : Char) : Bool := FileName.isSafe c || c == '/'

theorem isPathChar_of_safe {s : String} (safe : FileName.AllSafe s) :
    s.toList.all isPathChar = true := by
  refine List.all_eq_true.mpr fun c member => ?_
  rw [isPathChar, safe c member, Bool.true_or]

theorem isPathChar_append {s t : String} (left : s.toList.all isPathChar = true)
    (right : t.toList.all isPathChar = true) : (s ++ t).toList.all isPathChar = true := by
  rw [String.toList_append, List.all_append, left, right, Bool.and_self]

/-- The targets of links are file paths. -/
theorem isPathChar_linksFrom {path target : String} (known : target ∈ linksFrom graph path) :
    target.toList.all isPathChar = true := by
  have shown : ∀ entry ∈ navigation, entry.1.toList.all isPathChar = true := by decide
  unfold linksFrom at known
  split at known
  · rcases List.mem_append.mp known with known | known
    · obtain ⟨entry, member, rfl⟩ := List.mem_map.mp known
      exact isPathChar_append (by decide) (shown entry member)
    · exact isPathChar_of_safe (isName_pageNames known).safe
  · rcases List.mem_append.mp known with known | known
    · obtain ⟨entry, member, rfl⟩ := List.mem_map.mp known
      exact shown entry member
    · obtain ⟨name, member, rfl⟩ := List.mem_map.mp known
      exact isPathChar_append (by decide) (isPathChar_of_safe (isName_pageNames member).safe)

theorem not_pathChar {c : Char} (special : c ∈ '=' :: '&' :: delimiters) : isPathChar c = false := by
  simp only [delimiters, List.mem_cons, List.not_mem_nil, or_false] at special
  rcases special with rfl | rfl | rfl | rfl | rfl | rfl <;> rfl

/-- The targets of links hold no equals sign and nothing that is escaped. -/
theorem not_mem_of_linksFrom {path target : String} (known : target ∈ linksFrom graph path) {c : Char}
    (special : c ∈ '=' :: '&' :: delimiters) : c ∉ target.toList := by
  intro member
  have safe := List.all_eq_true.mp (isPathChar_linksFrom known) c member
  rw [not_pathChar special] at safe
  cases safe

theorem escape_of_linksFrom {path target : String} (known : target ∈ linksFrom graph path) :
    escape target = target :=
  escape_of_plain fun _ member meaning =>
    not_mem_of_linksFrom known (List.mem_cons_of_mem _ meaning) member

/-- An opening bracket of a page is the first character of a tag of the layout or of a link. -/
theorem exists_tag_of_page {page : String × List Piece} (member : page ∈ pages graph lineage stamp)
    {rest : List Char} (occurs : '<' :: rest <:+ (render page.2).toList) :
    (∃ tag ∈ tags, tag.toList <+: '<' :: rest) ∨
      ∃ target ∈ linksFrom graph page.1, ("<a href=\"" ++ target ++ "\">").toList <+: '<' :: rest := by
  obtain ⟨piece, inside, nearer, here, shorter⟩ := exists_piece_of_occurs occurs
  have fits := allFit_pages member piece inside
  have further {cs : List Char} (begins : cs <+: '<' :: nearer) : cs <+: '<' :: rest :=
    begins.trans (List.cons_prefix_cons.mpr ⟨rfl, shorter⟩)
  cases piece with
  | markup s =>
    obtain ⟨tag, known, begins⟩ := exists_tag_of_layout fits here
    exact .inl ⟨tag, known, further begins⟩
  | text s => exact absurd (by decide) ((inert_escape s).delimiter _ (mem_of_occurs here))
  | link target =>
    refine .inr ⟨target, fits, further ?_⟩
    have plain : '<' ∉ ("a href=\"" ++ escape target ++ "\">").toList := by
      simp only [String.toList_append, List.mem_append, not_or]
      exact ⟨⟨by decide, fun other => (inert_escape target).delimiter _ other (by decide)⟩, by decide⟩
    have first : (Piece.link target).render.toList =
        '<' :: ("a href=\"" ++ escape target ++ "\">").toList := by
      simp [Piece.render]
    rw [first] at here
    rcases List.suffix_cons_iff.mp here with same | behind
    · rw [same, escape_of_linksFrom fits]
      simp
    · exact absurd (mem_of_occurs behind) plain

/-- What a piece may add to a page: literal markup of the layout, a text of which only an inert one
is written, or a link to a known target, which is inert as it stands. -/
def Harmless (targets : List String) : Piece → Prop
  | .markup s => s ∈ layout
  | .text s => Inert (escape s).toList
  | .link target => target ∈ targets ∧ escape target = target ∧ Inert target.toList

theorem harmless_of_page {page : String × List Piece} (member : page ∈ pages graph lineage stamp)
    {piece : Piece} (inside : piece ∈ page.2) : Harmless (linksFrom graph page.1) piece := by
  have fits := allFit_pages member piece inside
  cases piece with
  | markup s => exact fits
  | text s => exact inert_escape s
  | link target =>
    have same := escape_of_linksFrom fits
    have inert := inert_escape target
    exact ⟨fits, same, same ▸ inert⟩

/-- No text of a document opens a tag: every opening bracket of a page is the first character of a
tag of the layout or of a link to a known page, and whatever is not literal markup is written without
angle brackets and quotes and with ampersands in escapes only. -/
theorem page_is_escaped (graph : Graph) (lineage : Lineage.Graph) (stamp : Moment)
    {path html : String} (member : (path, html) ∈ ofGraph graph lineage stamp) :
    (∀ rest, '<' :: rest <:+ html.toList →
      (∃ tag ∈ tags, tag.toList <+: '<' :: rest) ∨
        ∃ target ∈ linksFrom graph path, ("<a href=\"" ++ target ++ "\">").toList <+: '<' :: rest) ∧
    ∃ content, (path, content) ∈ pages graph lineage stamp ∧ html = render content ∧
      ∀ piece ∈ content, Harmless (linksFrom graph path) piece := by
  obtain ⟨⟨_, content⟩, listed, same⟩ := List.mem_map.mp member
  cases same
  exact ⟨fun rest occurs => exists_tag_of_page listed occurs, content, listed, rfl,
    fun piece inside => harmless_of_page listed inside⟩

/-- A schema graph whose texts try to open tags, to close them, and to leave attributes. -/
def hostileGraph : Graph where
  project := "</title><script>alert(1)</script>"
  owners := ["R&D", "</li><a href=\"evil.html\">"]
  sources := []
  tables := [⟨⟨"<db>", "\"", "t\" onclick=\"x"⟩, [], some "<!-- & -->", some "&lt;b&gt;",
    List.nodup_nil⟩]
  mappings :=
    [⟨0, .text "<td>", .unresolved (.text "<td>"), { rule := some "a < b && c > d" }, none, []⟩]
  redeclared := []
  ids_nodup := List.nodup_nil
  keys_nodup := List.nodup_singleton _

theorem overview_of_hostileGraph_is_escaped :
    ∃ html, ("index.html", html) ∈
        ofGraph hostileGraph ⟨[], [], [], []⟩ ⟨⟨2024, 1, 2⟩, 3, 4, 5, 0, some 0⟩ ∧
      (∀ rest, '<' :: rest <:+ html.toList →
        (∃ tag ∈ tags, tag.toList <+: '<' :: rest) ∨
          ∃ target ∈ linksFrom hostileGraph "index.html",
            ("<a href=\"" ++ target ++ "\">").toList <+: '<' :: rest) ∧
      ∃ content, ("index.html", content) ∈
          pages hostileGraph ⟨[], [], [], []⟩ ⟨⟨2024, 1, 2⟩, 3, 4, 5, 0, some 0⟩ ∧
        html = render content ∧
        ∀ piece ∈ content, Harmless (linksFrom hostileGraph "index.html") piece :=
  have member := List.mem_cons_self
  ⟨_, member, page_is_escaped _ _ _ member⟩

end SchemaAtlas.Site
