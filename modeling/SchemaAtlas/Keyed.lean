/-! # Lists of keyed items

Tables, columns, sources and files are kept in lists in which every item carries its own key.
Storing an item replaces the one with its key in place, so the list keeps the order of first
appearance and holds the content that was stored last.
-/

namespace SchemaAtlas.Keyed

variable {α κ : Type} [DecidableEq κ]

/-- Store an item in place of the one with its key, or at the end. -/
def store (key : α → κ) (item : α) : List α → List α
  | [] => [item]
  | other :: rest => if key other = key item then item :: rest else other :: store key item rest

/-- Store items one after the other. -/
def collect (key : α → κ) (items : List α) : List α :=
  items.foldl (fun stored item => store key item stored) []

/-- The item with a given key. -/
def find? (key : α → κ) (wanted : κ) (items : List α) : Option α :=
  items.find? fun item => decide (key item = wanted)

/-- Whether some item has a given key. -/
def has (key : α → κ) (wanted : κ) (items : List α) : Bool := (find? key wanted items).isSome

/-- Change the item with a given key. -/
def update (key : α → κ) (wanted : κ) (change : α → α) (items : List α) : List α :=
  items.map fun item => if key item = wanted then change item else item

/-- Items without the later ones that repeat an earlier one. -/
def distinct (items : List κ) : List κ := collect id items

/-- Add an item to the group of its key, a new group going to the end. -/
def addToGroup (key : α → κ) (item : α) : List (κ × List α) → List (κ × List α)
  | [] => [(key item, [item])]
  | (k, members) :: rest =>
      if k = key item then (k, members ++ [item]) :: rest
      else (k, members) :: addToGroup key item rest

/-- Items grouped by key, the groups and their members in order of appearance. -/
def groups (key : α → κ) (items : List α) : List (κ × List α) :=
  items.foldl (fun grouped item => addToGroup key item grouped) []

/-- Storing an item under a known key leaves the keys alone; a new key goes to the end. -/
theorem map_store (key : α → κ) (item : α) (items : List α) :
    (store key item items).map key =
      if key item ∈ items.map key then items.map key else items.map key ++ [key item] := by
  induction items with
  | nil => rfl
  | cons other rest ih =>
    by_cases same : key other = key item
    · simp [store, same]
    · have differs : ¬ key item = key other := fun equal => same equal.symm
      simp only [store, same, if_false, List.map_cons, ih, List.mem_cons, differs, false_or]
      split <;> rfl

theorem nodup_store (key : α → κ) (item : α) {items : List α} (nodup : (items.map key).Nodup) :
    ((store key item items).map key).Nodup := by
  rw [map_store]
  split
  · exact nodup
  · next new =>
    refine List.nodup_append.mpr ⟨nodup, by simp, ?_⟩
    intro held member added last equal
    rw [List.mem_singleton.mp last] at equal
    exact new (equal ▸ member)

/-- No two collected items share a key. -/
theorem nodup_collect (key : α → κ) (items : List α) : ((collect key items).map key).Nodup := by
  suffices ∀ stored : List α, (stored.map key).Nodup →
      ((items.foldl (fun stored item => store key item stored) stored).map key).Nodup from
    this [] List.nodup_nil
  induction items with
  | nil => exact fun _ nodup => nodup
  | cons item rest ih => exact fun stored nodup => ih _ (nodup_store key item nodup)

/-- A change that keeps keys leaves the list of keys alone. -/
theorem map_update (key : α → κ) (wanted : κ) {change : α → α}
    (keeps : ∀ item, key (change item) = key item) (items : List α) :
    (update key wanted change items).map key = items.map key := by
  rw [update, List.map_map]
  refine List.map_congr_left fun item _ => ?_
  by_cases same : key item = wanted <;> simp [same, keeps]

end SchemaAtlas.Keyed
