import SchemaAtlas.Proofs.Site.Pages
import SchemaAtlas.Proofs.Site.Shown
import Mathlib.Data.List.Chain

/-! # Links and the pages they lead to

The paths of a site are those of the navigation and one for every table, all of them different. An
`href` stands in the tag of a link and nowhere else in a page, and holds the target of that link.
Followed from the directory of its page, such a target leads to a page of the site. There is a site
unless a value that its pages show cannot be written.
-/

namespace SchemaAtlas.Site

open Schema Document FilePath

section Paths

variable (graph : Graph)

/-- The paths of a site: the navigation and the table pages. -/
def paths (graph : Graph) : List String :=
  navigation.map (·.1) ++ (pageNames graph).map ("tables/" ++ ·)

theorem map_fst_ofGraph (lineage : Lineage.Graph) (stamp : Moment) :
    (ofGraph graph lineage stamp).map (·.1) = paths graph := by
  unfold ofGraph pages paths pageNames
  simp only [List.map_map, List.map_append, List.map_cons, List.map_nil, Function.comp_def]
  rfl

theorem mem_ofGraph {lineage : Lineage.Graph} {stamp : Moment} {page : String × List Piece}
    (member : page ∈ pages graph lineage stamp) :
    (page.1, render page.2) ∈ ofGraph graph lineage stamp := List.mem_map_of_mem member

theorem index_not_mem_pageNames : "index.html" ∉ pageNames graph := fun member =>
  FileName.not_mem_of_mem_assign _ _ member (List.mem_singleton_self _)

theorem nodup_pageNames : (pageNames graph).Nodup :=
  FileName.nodup_assign _ _ _ _

/-- No two pages share a path, whatever the tables are called. -/
theorem nodup_paths : (paths graph).Nodup := by
  have tables : ((pageNames graph).map ("tables/" ++ ·)).Nodup :=
    (nodup_pageNames graph).map fun _ _ => (String.append_right_inj "tables/").mp
  refine List.nodup_append.mpr ⟨by decide, tables, ?_⟩
  rintro path shown _ listed rfl
  obtain ⟨name, member, rfl⟩ := List.mem_map.mp listed
  have apart : ∀ path ∈ navigation.map (·.1), "tables/".toList <+: path.toList →
      path = "tables/" ++ "index.html" := by decide
  have opens : "tables/".toList <+: ("tables/" ++ name).toList := by simp
  have same := (String.append_right_inj "tables/").mp (apart _ shown opens)
  exact index_not_mem_pageNames graph (same ▸ member)

variable {graph}

theorem isName_tables : IsName "tables" := by decide

theorem isName_rootPages : ∀ path ∈ rootPages, IsName path := by decide

/-- A page stands at the root of the site or in the directory of the table pages. -/
theorem path_cases {path : String} (member : path ∈ paths graph) :
    path ∈ rootPages ∨ ∃ name, IsName name ∧ path = "tables" ++ "/" ++ name := by
  rcases List.mem_append.mp member with shown | listed
  · have index : IsName "index.html" := isName_rootPages _ (.head _)
    have known : ∀ path ∈ navigation.map (·.1),
        path ∈ rootPages ∨ path = "tables" ++ "/" ++ "index.html" := by decide
    exact (known path shown).imp_right fun same => ⟨_, index, same⟩
  · obtain ⟨name, known, rfl⟩ := List.mem_map.mp listed
    exact .inr ⟨name, isName_pageNames known, rfl⟩

theorem confined_of_mem_paths {path : String} (member : path ∈ paths graph) : Confined path := by
  rcases path_cases member with root | ⟨name, ordinary, rfl⟩
  · exact (isName_rootPages path root).confined
  · exact ordinary.confined.below isName_tables

/-- What a page may link to is a page, seen from the directory of the linking one. -/
theorem resolve_mem_paths {path target : String} (member : path ∈ paths graph)
    (leads : target ∈ linksFrom graph path) : resolve path target ∈ paths graph := by
  rcases path_cases member with root | ⟨name, ordinary, rfl⟩
  · rw [linksFrom_root graph root] at leads
    rwa [resolve_of_name (isName_rootPages path root) (confined_of_mem_paths leads)]
  · rcases List.mem_append.mp (linksFrom_below graph name ▸ leads) with above | beside
    · obtain ⟨entry, shown, rfl⟩ := List.mem_map.mp above
      have listed : entry.1 ∈ paths graph := List.mem_append_left _ (List.mem_map_of_mem shown)
      rwa [resolve_above isName_tables ordinary (confined_of_mem_paths listed)]
    · rw [resolve_beside isName_tables ordinary (isName_pageNames beside).confined]
      exact List.mem_append_right _ (List.mem_map_of_mem beside)

end Paths

section References

/-- A tag has the attribute `href` in a page, and some text stands behind its equals sign. -/
def HasHref (html : String) (behind : List Char) : Prop :=
  ∃ inside, '>' ∉ inside ∧ '<' :: (inside ++ "href=".toList ++ behind) <:+ html.toList

/-- A tag that a text without its closing bracket starts is longer than that text. -/
theorem exists_rest_of_tag {tag opened behind : List Char} (closes : '>' ∈ tag)
    (inside : '>' ∉ opened) (begins : tag <+: opened ++ behind) :
    ∃ rest, tag = opened ++ rest ∧ rest <+: behind := by
  rcases List.prefix_or_prefix_of_prefix begins (List.prefix_append opened behind) with short | long
  · exact absurd (short.subset closes) inside
  · obtain ⟨rest, rfl⟩ := long
    exact ⟨rest, rfl, (List.prefix_append_right_inj opened).mp begins⟩

/-- The tags of the layout are closed, and none of them has an attribute that ends in `f`. -/
theorem tags_without_href : ∀ tag ∈ tags,
    '>' ∈ tag.toList ∧ tag.toList.IsChain fun c d => ¬ (c = 'f' ∧ d = '=') := by
  decide

variable {graph : Graph} {lineage : Lineage.Graph} {stamp : Moment}

/-- Behind every `href` of a page stands the target of a link between quotes. -/
theorem exists_target_of_hasHref {page : String × List Piece}
    (member : page ∈ pages graph lineage stamp) {behind : List Char}
    (href : HasHref (render page.2) behind) :
    ∃ target ∈ linksFrom graph page.1, '"' ∉ target.toList ∧
      ∃ rest, behind = '"' :: (target.toList ++ '"' :: rest) := by
  obtain ⟨inside, outside, occurs⟩ := href
  have opened : '>' ∉ ('<' :: inside ++ "hre".toList) ++ ['f', '='] := by simpa using outside
  have divided : '<' :: (inside ++ "href=".toList ++ behind) =
      ('<' :: inside ++ "hre".toList) ++ ['f', '='] ++ behind := by simp
  -- No tag of the layout has an `href`; the tag of a link has one, at its only equals sign.
  rcases exists_tag_of_page member occurs with ⟨tag, known, begins⟩ | ⟨target, leads, begins⟩ <;>
    rw [divided] at begins
  · obtain ⟨closes, plain⟩ := tags_without_href tag known
    obtain ⟨rest, same, _⟩ := exists_rest_of_tag closes opened begins
    rw [same, List.append_assoc] at plain
    exact absurd ⟨rfl, rfl⟩ (List.isChain_append_cons_cons.mp plain).2.1
  · obtain ⟨rest, same, more, rfl⟩ := exists_rest_of_tag (by simp) opened begins
    have link : ("<a href=\"" ++ target ++ "\">").toList =
        "<a href".toList ++ '=' :: ('"' :: target.toList ++ "\">".toList) := by simp
    have further : ('<' :: inside ++ "hre".toList) ++ ['f', '='] ++ rest =
        ('<' :: inside ++ "href".toList) ++ '=' :: rest := by simp
    have behind : '=' ∉ '"' :: target.toList ++ "\">".toList := by
      simpa using not_mem_of_linksFrom leads (by decide)
    rw [link, further] at same
    obtain ⟨_, _, rfl⟩ := (List.append_cons_inj_of_notMem (by decide) behind).mp same
    exact ⟨target, leads, not_mem_of_linksFrom leads (by decide), '>' :: more, by simp⟩

/-- A link of a page is the value of an `href`. -/
theorem hasHref_of_link {content : List Piece} {target : String} (inside : .link target ∈ content) :
    ∃ rest, HasHref (render content) ('"' :: ((escape target).toList ++ '"' :: rest)) := by
  obtain ⟨before, after, rfl⟩ := List.append_of_mem inside
  refine ⟨'>' :: (render after).toList, "a ".toList, by decide, (render before).toList, ?_⟩
  simp [render, Piece.render]

/-- Every page has the links of the navigation. -/
theorem exists_hasHref_of_page {page : String × List Piece}
    (member : page ∈ pages graph lineage stamp) {entry : String × String}
    (shown : entry ∈ navigation) :
    ∃ root rest, HasHref (render page.2) ('"' :: ((escape (root ++ entry.1)).toList ++ '"' :: rest)) := by
  have framed : ∃ frame title root content, page.2 = Frame.page frame title root content := by
    unfold pages at member
    simp only [List.mem_append, List.mem_cons, List.not_mem_nil, or_false, List.mem_map] at member
    rcases member with (rfl | rfl | rfl | rfl) | ⟨_, _, rfl⟩ <;> exact ⟨_, _, _, _, rfl⟩
  obtain ⟨frame, title, root, content, same⟩ := framed
  have here : .link (root ++ entry.1) ∈ navigation.flatMap (fun other =>
      between "    " [.link (root ++ other.1), .markup other.2] "</a>") :=
    List.mem_flatMap.mpr ⟨entry, shown, .tail _ (.head _)⟩
  have inside : .link (root ++ entry.1) ∈ page.2 := by
    rw [same]
    unfold Frame.page
    simp only [List.mem_append, here, true_or, or_true]
  exact ⟨root, hasHref_of_link inside⟩

end References

/-- A site has four pages and one for every table, under paths that are all different, and the value
of every `href` in it is the quoted relative path of a page of the site. -/
structure IsComplete (graph : Graph) (site : List (String × String)) : Prop where
  length : site.length = 4 + graph.tables.length
  listed : site.map (·.1) =
    ["index.html", "tables/index.html", "sources.html", "mappings.html"] ++
      (tablePages graph).map (fun entry => "tables/" ++ entry.1)
  tables : (tablePages graph).map (·.2) = graph.tables
  nodup : (site.map (·.1)).Nodup
  leads : ∀ page ∈ site, ∀ behind, HasHref page.2 behind →
    ∃ target, '"' ∉ target.toList ∧ (∃ rest, behind = '"' :: (target.toList ++ '"' :: rest)) ∧
      resolve page.1 target ∈ site.map (·.1)

theorem isComplete_ofGraph (graph : Graph) (lineage : Lineage.Graph) (stamp : Moment) :
    IsComplete graph (ofGraph graph lineage stamp) := by
  have listed := map_fst_ofGraph graph lineage stamp
  have tables : (tablePages graph).map (·.2) = graph.tables := FileName.map_snd_assign _ _ _ _
  refine ⟨?_, ?_, tables, listed ▸ nodup_paths graph, ?_⟩
  · have count := congrArg List.length listed
    simp only [paths, pageNames, List.length_append, List.length_map] at count
    rw [← tables, List.length_map]
    exact count
  · rw [listed, paths, pageNames, List.map_map]
    rfl
  · intro page member behind href
    obtain ⟨inner, known, rfl⟩ := List.mem_map.mp member
    obtain ⟨target, leads, quoted, rest⟩ := exists_target_of_hasHref known href
    have path : inner.1 ∈ paths graph := listed ▸ List.mem_map_of_mem member
    exact ⟨target, quoted, rest, listed ▸ resolve_mem_paths path leads⟩

/-- A schema graph has a complete site when every value that the pages show can be written, and no
site at all otherwise. -/
theorem site_is_complete (graph : Graph) (lineage : Lineage.Graph) (stamp : Moment) :
    Made (shown graph) (IsComplete graph) (ofGraph? graph lineage stamp) :=
  made_showing (isComplete_ofGraph graph lineage stamp)

/-- A table named like the index of the tables, and two whose names give one stem. -/
def collidingKeys : List TableKey := [⟨"", "", "index"⟩, ⟨"db", "s", "a b"⟩, ⟨"db", "s", "a/b"⟩]

theorem nodup_collidingKeys : collidingKeys.Nodup := by decide

/-- A schema graph with tables that would like to share pages. -/
def collidingGraph : Graph where
  project := "shop"
  owners := []
  sources := []
  tables := collidingKeys.map fun key => ⟨key, [], none, none, List.nodup_nil⟩
  mappings := []
  redeclared := []
  ids_nodup := List.nodup_nil
  keys_nodup := nodup_collidingKeys

theorem site_of_collidingGraph_is_complete :
    ∃ site, ofGraph? collidingGraph ⟨[], [], [], []⟩ ⟨⟨2024, 1, 2⟩, 3, 4, 5, 0, some 0⟩ = .ok site ∧
      site.map (·.1) =
        ["index.html", "tables/index.html", "sources.html", "mappings.html", "tables/index_2.html",
          "tables/db.s.a_b.html", "tables/db.s.a_b_2.html"] ∧
      (site.map (·.1)).Nodup ∧
      ∃ page ∈ site, ∃ behind, HasHref page.2 behind ∧
        ∃ target, '"' ∉ target.toList ∧ (∃ rest, behind = '"' :: (target.toList ++ '"' :: rest)) ∧
          resolve page.1 target ∈ site.map (·.1) := by
  have writable : AllWritable (shown collidingGraph) := allWritable_nil
  have succeeds : ofGraph? collidingGraph ⟨[], [], [], []⟩ ⟨⟨2024, 1, 2⟩, 3, 4, 5, 0, some 0⟩ = .ok _ :=
    showing_of_writable writable
  have complete := site_is_complete collidingGraph ⟨[], [], [], []⟩ ⟨⟨2024, 1, 2⟩, 3, 4, 5, 0, some 0⟩
  rw [succeeds] at complete
  cases complete with
  | made _ complete =>
    have names : (tablePages collidingGraph).map (fun entry => "tables/" ++ entry.1) =
        ["tables/index_2.html", "tables/db.s.a_b.html", "tables/db.s.a_b_2.html"] := by decide
    have listed := complete.listed
    rw [names] at listed
    obtain ⟨page, member⟩ : ∃ page, page ∈ pages collidingGraph ⟨[], [], [], []⟩
        ⟨⟨2024, 1, 2⟩, 3, 4, 5, 0, some 0⟩ := ⟨_, .head _⟩
    have inside := mem_ofGraph collidingGraph member
    obtain ⟨_, _, href⟩ := exists_hasHref_of_page member (.head _)
    exact ⟨_, succeeds, listed, complete.nodup, _, inside, _, href, complete.leads _ inside _ href⟩

/-- There is no site with a source whose place cannot be written. -/
theorem no_site_of_overlongGraph :
    ∃ lineage, Lineage.Graph.of? overlongGraph = .ok lineage ∧
      ¬ ∃ site, ofGraph? overlongGraph lineage ⟨⟨2024, 1, 2⟩, 3, 4, 5, 0, some 0⟩ = .ok site ∧
        site.length = 4 + overlongGraph.tables.length := by
  refine ⟨_, rfl, ?_⟩
  rintro ⟨site, made, _⟩
  exact not_allWritable_shown (showing_eq_ok_iff.mp made).1

end SchemaAtlas.Site
