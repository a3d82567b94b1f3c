import LendingGateway.Backend.Basic
import LendingGateway.Registry.AssemblyError

namespace LendingGateway

/-!
# The registry

The registry holds the backends under their identifiers, which are distinct.  It is
assembled once and never changes.  The order of its backends has no meaning: whatever
depends on an order is sorted by identifier.
-/

/-- The backends of the gateway. -/
structure Registry where
  backends : List Backend
  distinct : (backends.map Backend.id).Nodup

namespace Registry

/-- The first element of a list that occurs earlier in it, or among those seen before. -/
def firstRepeated? (seen : List String) : List String → Option String
  | [] => none
  | id :: rest => if id ∈ seen then some id else firstRepeated? (id :: seen) rest

theorem nodup_of_firstRepeated? {ids : List String} :
    ∀ {seen : List String}, firstRepeated? seen ids = none →
      ids.Nodup ∧ ∀ id ∈ ids, id ∉ seen := by
  induction ids with
  | nil => simp
  | cons id rest step =>
    intro seen unrepeated
    unfold firstRepeated? at unrepeated
    by_cases old : id ∈ seen
    · simp [old] at unrepeated
    · rw [if_neg old] at unrepeated
      obtain ⟨distinct, fresh⟩ := step unrepeated
      refine ⟨List.nodup_cons.mpr ⟨fun again => fresh id again (List.mem_cons_self ..), distinct⟩,
        fun other member => ?_⟩
      cases List.mem_cons.mp member with
      | inl same => exact same ▸ old
      | inr later => exact fun early => fresh other later (List.mem_cons_of_mem id early)

def empty : Registry :=
  ⟨[], List.nodup_nil⟩

/-- The registry of some backends.  No two of them may have the same identifier. -/
def ofBackends (backends : List Backend) : Except AssemblyError Registry :=
  match repeated : firstRepeated? [] (backends.map Backend.id) with
  | some id => .error (.duplicateProvider id)
  | none => .ok ⟨backends, (nodup_of_firstRepeated? repeated).1⟩

def get? (registry : Registry) (id : String) : Option Backend :=
  registry.backends.find? fun backend => backend.id == id

def contains (registry : Registry) (id : String) : Bool :=
  (registry.get? id).isSome

/-- Every backend with the identifier it is registered under. -/
def entries (registry : Registry) : List (String × Backend) :=
  registry.backends.map fun backend => (backend.id, backend)

/-- Sort by a key, ascending. -/
def sortBy {α : Type} (key : α → String) (items : List α) : List α :=
  items.mergeSort fun left right => decide (key left ≤ key right)

/-- The registered identifiers in ascending order. -/
def ids (registry : Registry) : List String :=
  sortBy id (registry.backends.map Backend.id)

def size (registry : Registry) : Nat :=
  registry.backends.length

def isEmpty (registry : Registry) : Bool :=
  registry.backends.isEmpty

end Registry
end LendingGateway
