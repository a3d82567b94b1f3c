namespace LendingGateway
namespace Json

/-!
# Dictionaries

A dictionary holds a value for each of some keys.  No key occurs twice: a later value
for a key takes the place of the earlier one.  The order of the keys is that of their
first occurrence and means nothing.
-/

/-- Set the value of a key, in its old place if it has one. -/
def setEntry {α : Type} (key : String) (value : α) : List (String × α) → List (String × α)
  | [] => [(key, value)]
  | (other, held) :: entries =>
    if other = key then (key, value) :: entries else (other, held) :: setEntry key value entries

theorem mem_keys_setEntry {α : Type} {key name : String} {value : α}
    (entries : List (String × α)) :
    name ∈ (setEntry key value entries).map Prod.fst ↔
      name = key ∨ name ∈ entries.map Prod.fst := by
  induction entries with
  | nil => simp [setEntry]
  | cons entry entries step =>
    obtain ⟨other, held⟩ := entry
    by_cases same : other = key
    · simp [setEntry, same]
    · simp only [setEntry, same, if_false, List.map_cons, List.mem_cons, step]
      exact or_left_comm

theorem nodup_keys_setEntry {α : Type} (key : String) (value : α)
    {entries : List (String × α)} (distinct : (entries.map Prod.fst).Nodup) :
    ((setEntry key value entries).map Prod.fst).Nodup := by
  induction entries with
  | nil => simp [setEntry]
  | cons entry entries step =>
    obtain ⟨other, held⟩ := entry
    rw [List.map_cons, List.nodup_cons] at distinct
    by_cases same : other = key
    · subst same
      simpa [setEntry] using distinct
    · simp only [setEntry, same, if_false, List.map_cons, List.nodup_cons]
      refine ⟨fun member => ?_, step distinct.2⟩
      cases (mem_keys_setEntry entries).mp member with
      | inl equal => exact same equal
      | inr old => exact distinct.1 old

/-- Values under distinct keys. -/
@[ext]
structure Dictionary (α : Type) where
  entries : List (String × α)
  distinct : (entries.map Prod.fst).Nodup

namespace Dictionary

variable {α β : Type}

def empty : Dictionary α :=
  ⟨[], List.nodup_nil⟩

def insert (key : String) (value : α) (dictionary : Dictionary α) : Dictionary α :=
  ⟨setEntry key value dictionary.entries, nodup_keys_setEntry key value dictionary.distinct⟩

def get? (key : String) (dictionary : Dictionary α) : Option α :=
  dictionary.entries.lookup key

def isEmpty (dictionary : Dictionary α) : Bool :=
  dictionary.entries.isEmpty

/-- The dictionary with every value replaced by its image. -/
def map (image : α → β) (dictionary : Dictionary α) : Dictionary β where
  entries := dictionary.entries.map fun entry => (entry.1, image entry.2)
  distinct := by
    rw [List.map_map]
    exact dictionary.distinct

theorem get?_map (image : α → β) (dictionary : Dictionary α) (key : String) :
    (dictionary.map image).get? key = (dictionary.get? key).map image := by
  have looked : ∀ entries : List (String × α),
      (entries.map fun entry => (entry.1, image entry.2)).lookup key =
        (entries.lookup key).map image := by
    intro entries
    induction entries with
    | nil => rfl
    | cons entry entries step =>
      rw [List.map_cons, List.lookup_cons, List.lookup_cons, step]
      cases key == entry.1 <;> rfl
  exact looked dictionary.entries

theorem map_inverse {image : α → β} {back : β → α} (undo : ∀ value, back (image value) = value)
    (dictionary : Dictionary α) : (dictionary.map image).map back = dictionary := by
  have restored : ∀ entries : List (String × α),
      (entries.map fun entry => (entry.1, image entry.2)).map
        (fun entry => (entry.1, back entry.2)) = entries := by
    intro entries
    induction entries with
    | nil => rfl
    | cons entry entries step =>
      rw [List.map_cons, List.map_cons, step, undo]
  exact Dictionary.ext (restored dictionary.entries)

end Dictionary

end Json
end LendingGateway
