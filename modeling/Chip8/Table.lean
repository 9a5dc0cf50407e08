/-!
# Tables

A table has one entry for each index below its size.  It is read with `Table.get` and
changed one entry at a time with `Table.put`.
-/

namespace Chip8

/-- A value for each of `n` indices. -/
abbrev Table (n : Nat) (α : Type) := Vector α n

namespace Table

variable {n : Nat} {α : Type}

def constant (n : Nat) (a : α) : Table n α := Vector.replicate n a

def get (t : Table n α) (k : Fin n) : α := t[k]

def put (t : Table n α) (k : Fin n) (a : α) : Table n α := Vector.set t k a

def ofFn (f : Fin n → α) : Table n α := Vector.ofFn f

@[simp] theorem get_constant (a : α) (k : Fin n) : (constant n a).get k = a := by
  simp [constant, get]

theorem get_put (t : Table n α) (j k : Fin n) (a : α) :
    (t.put k a).get j = if j = k then a else t.get j := by
  by_cases h : j = k
  · subst h; simp [get, put]
  · have hne : (k : Nat) ≠ j := fun hv => h (Fin.ext hv.symm)
    simp [get, put, h, hne]

@[simp] theorem get_put_self (t : Table n α) (k : Fin n) (a : α) : (t.put k a).get k = a := by
  simp [get_put]

@[simp] theorem get_ofFn (f : Fin n → α) (k : Fin n) : (ofFn f).get k = f k := by
  simp [ofFn, get]

/-- Tables with the same entries are equal. -/
theorem ext {t u : Table n α} (h : ∀ k, t.get k = u.get k) : t = u :=
  Vector.ext fun i hi => h ⟨i, hi⟩

end Table

end Chip8
