import SchemaAtlas.Site.Markup
import Mathlib.Data.List.Basic

/-! # What a piece adds to a page

An escaped text is inert: it holds no angle bracket and no quote, and an ampersand only where an
escape starts. So every opening bracket of a page comes from literal markup or from the tag of a
link, and stands in the page with the same characters behind it as in its piece.
-/

namespace SchemaAtlas.Site

/-- The escapes of the characters that markup gives a meaning to. -/
def escapes : List String := ["&amp;", "&lt;", "&gt;", "&#34;", "&#39;"]

/-- Angle brackets and quotes. -/
def delimiters : List Char := ['<', '>', '"', '\x27']

/-- A text that can neither open nor close a tag nor end an attribute. -/
structure Inert (cs : List Char) : Prop where
  delimiter : ∀ c ∈ cs, c ∉ delimiters
  ampersand : ∀ rest, '&' :: rest <:+ cs → ∃ e ∈ escapes, e.toList <+: '&' :: rest

theorem suffix_append_cases {α : Type} {cs left right : List α} (tail : cs <:+ left ++ right) :
    (∃ rest, cs = rest ++ right ∧ rest <:+ left) ∨ cs <:+ right := by
  obtain ⟨before, same⟩ := tail
  rcases List.append_eq_append_iff.mp same with ⟨rest, rfl, rfl⟩ | ⟨rest, rfl, rfl⟩
  · exact .inl ⟨rest, rfl, List.suffix_append before rest⟩
  · exact .inr (List.suffix_append rest cs)

/-- An occurrence of a character in two texts is one in either, with less behind it. -/
theorem occurs_append_cases {c : Char} {rest left right : List Char}
    (occurs : c :: rest <:+ left ++ right) :
    (∃ nearer, c :: nearer <:+ left ∧ nearer <+: rest) ∨ c :: rest <:+ right := by
  rcases suffix_append_cases occurs with ⟨inner, same, tail⟩ | tail
  · cases inner with
    | nil => exact .inr (same ▸ List.suffix_rfl)
    | cons first nearer =>
      obtain ⟨rfl, rfl⟩ := List.cons_eq_cons.mp same
      exact .inl ⟨nearer, tail, List.prefix_append nearer right⟩
  · exact .inr tail

theorem mem_of_occurs {c : Char} {rest cs : List Char} (occurs : c :: rest <:+ cs) : c ∈ cs :=
  occurs.subset List.mem_cons_self

section Escape

theorem inert_nil : Inert [] where
  delimiter _ member := absurd member List.not_mem_nil
  ampersand _ occurs := absurd (mem_of_occurs occurs) List.not_mem_nil

theorem Inert.append {left right : List Char} (first : Inert left) (second : Inert right) :
    Inert (left ++ right) where
  delimiter c member := (List.mem_append.mp member).elim (first.delimiter c) (second.delimiter c)
  ampersand rest occurs := by
    rcases occurs_append_cases occurs with ⟨nearer, inside, shorter⟩ | inside
    · obtain ⟨e, known, opens⟩ := first.ampersand nearer inside
      exact ⟨e, known, opens.trans (List.cons_prefix_cons.mpr ⟨rfl, shorter⟩)⟩
    · exact second.ampersand rest inside

/-- Every escape is inert: its ampersand is its first character and stands nowhere else in it. -/
theorem inert_of_mem_escapes {e : String} (known : e ∈ escapes) : Inert e.toList := by
  have plain : ∀ e ∈ escapes, e.toList.all (· ∉ delimiters) = true := by decide
  have once : ∀ e ∈ escapes, e.toList.head? = some '&' ∧ '&' ∉ e.toList.tail := by decide
  have plain : ∀ c ∈ e.toList, c ∉ delimiters := by simpa using plain e known
  refine ⟨plain, fun rest occurs => ⟨e, known, ?_⟩⟩
  obtain ⟨_, alone⟩ := once e known
  generalize e.toList = cs at occurs alone
  cases cs with
  | nil => cases mem_of_occurs occurs
  | cons c tail =>
    rcases List.suffix_cons_iff.mp occurs with same | inside
    · exact same ▸ List.prefix_rfl
    · exact absurd (mem_of_occurs inside) alone

theorem inert_single {c : Char} (plain : c ∉ '&' :: delimiters) : Inert [c] where
  delimiter d member := by
    rw [List.mem_singleton.mp member]
    exact fun inside => plain (List.mem_cons_of_mem _ inside)
  ampersand rest occurs := by
    have same := List.mem_singleton.mp (mem_of_occurs occurs)
    exact absurd (same ▸ List.mem_cons_self) plain

theorem exists_escape {c : Char} (special : c ∈ '&' :: delimiters) :
    ∃ e ∈ escapes, escapeChar c = e.toList := by
  simp only [delimiters, List.mem_cons, List.not_mem_nil, or_false] at special
  rcases special with rfl | rfl | rfl | rfl | rfl <;> decide

theorem escapeChar_of_plain {c : Char} (plain : c ∉ '&' :: delimiters) : escapeChar c = [c] := by
  simp only [delimiters, List.mem_cons, List.not_mem_nil, or_false, not_or] at plain
  obtain ⟨ampersand, left, right, double, single⟩ := plain
  have single : ¬ c.toNat = 39 := fun same => single (Char.toNat_inj.mp same)
  rw [escapeChar, if_neg ampersand, if_neg left, if_neg right, if_neg double, if_neg single]

theorem inert_escapeChar (c : Char) : Inert (escapeChar c) := by
  by_cases plain : c ∈ '&' :: delimiters
  · obtain ⟨e, known, same⟩ := exists_escape plain
    exact same ▸ inert_of_mem_escapes known
  · exact escapeChar_of_plain plain ▸ inert_single plain

/-- Whatever a text is, what it adds to a page is inert. -/
theorem inert_escape (s : String) : Inert (escape s).toList := by
  rw [escape, String.toList_ofList]
  induction s.toList with
  | nil => exact inert_nil
  | cons c rest ih => exact (inert_escapeChar c).append ih

/-- A text without characters that markup gives a meaning to is written as it is. -/
theorem escape_of_plain {s : String} (plain : ∀ c ∈ s.toList, c ∉ '&' :: delimiters) :
    escape s = s := by
  have single : s.toList.flatMap escapeChar = s.toList.flatMap fun c => [c] :=
    List.flatMap_congr fun c member => escapeChar_of_plain (plain c member)
  rw [escape, single, List.flatMap_singleton', String.ofList_toList]

end Escape

/-- An occurrence of a character in a page is one in a piece, with less behind it. -/
theorem exists_piece_of_occurs {pieces : List Piece} {c : Char} {rest : List Char}
    (occurs : c :: rest <:+ (render pieces).toList) :
    ∃ piece ∈ pieces, ∃ nearer, c :: nearer <:+ piece.render.toList ∧ nearer <+: rest := by
  induction pieces with
  | nil => exact absurd (mem_of_occurs occurs) (by simp [render])
  | cons piece others ih =>
    rw [render, List.map_cons, String.join_cons, String.toList_append] at occurs
    rcases occurs_append_cases occurs with ⟨nearer, inside, shorter⟩ | behind
    · exact ⟨piece, List.mem_cons_self, nearer, inside, shorter⟩
    · obtain ⟨other, member, found⟩ := ih behind
      exact ⟨other, List.mem_cons_of_mem _ member, found⟩

end SchemaAtlas.Site
