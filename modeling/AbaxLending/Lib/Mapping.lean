import Mathlib.Tactic

/-!
Finite-key stores read as partial functions.

A `Mapping K V` is read with `get`, which may find nothing, and written with
`insert`, which replaces the value at one key and keeps every other one.
-/

/-- A store from keys to values; an absent key reads as `none`. -/
def Mapping (K V : Type) := K → Option V

namespace Mapping

variable {K V : Type}

/-- The store without entries. -/
def empty : Mapping K V := fun _ => none

/-- The value stored at a key. -/
def get (m : Mapping K V) (k : K) : Option V := m k

/-- Whether a key has a value. -/
def contains (m : Mapping K V) (k : K) : Bool := (m.get k).isSome

@[ext] lemma ext {m m' : Mapping K V} (h : ∀ k, m.get k = m'.get k) : m = m' := funext h

variable [DecidableEq K]

/-- The store with the value at one key replaced. -/
def insert (m : Mapping K V) (k : K) (v : V) : Mapping K V := Function.update m k (some v)

@[simp] lemma get_insert_self (m : Mapping K V) (k : K) (v : V) :
    (m.insert k v).get k = some v := Function.update_self ..

@[simp] lemma get_insert_of_ne (m : Mapping K V) {k j : K} (h : j ≠ k) (v : V) :
    (m.insert k v).get j = m.get j := Function.update_of_ne h ..

lemma get_insert (m : Mapping K V) (k j : K) (v : V) :
    (m.insert k v).get j = if j = k then some v else m.get j := by
  split_ifs with h
  · rw [h, get_insert_self]
  · exact get_insert_of_ne m h v

/-- The later of two writes at a key counts. -/
@[simp] lemma insert_insert (m : Mapping K V) (k : K) (v v' : V) :
    (m.insert k v).insert k v' = m.insert k v' := Function.update_idem ..

/-- Writes at two keys commute. -/
lemma insert_comm (m : Mapping K V) {k j : K} (h : k ≠ j) (v v' : V) :
    (m.insert k v).insert j v' = (m.insert j v').insert k v := Function.update_comm h ..

end Mapping
