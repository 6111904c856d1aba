import ScriptCheck.Ty

/-!
# Analyses

What is found out about the declarations of a program: the type of every variable and the signature
of every function, by the numbers of their declarations and in the order of these numbers.
-/

namespace ScriptCheck

/-- A table with the entries in the order of their numbers. -/
abbrev Table (α : Type) := List (Nat × α)

namespace Table

variable {α : Type}

/-- The table with an entry for a number, in place of an older one. -/
def insert (table : Table α) (id : Nat) (value : α) : Table α :=
  match table with
  | [] => [(id, value)]
  | (other, old) :: rest =>
    if id < other then (id, value) :: (other, old) :: rest
    else if id = other then (id, value) :: rest
    else (other, old) :: insert rest id value

def get? (table : Table α) (id : Nat) : Option α :=
  table.lookup id

/-- An entry is found under its own number, and no other entry is lost. -/
theorem get?_insert (table : Table α) (id other : Nat) (value : α) :
    (table.insert id value).get? other = if other = id then some value else table.get? other := by
  have get?_cons (first : Nat) (old : α) (rest : Table α) :
      get? ((first, old) :: rest) other = if other = first then some old else rest.get? other := by
    by_cases found : other = first
    · rw [if_pos found, found, get?, List.lookup_cons_self]
    · rw [if_neg found, get?, get?, List.lookup_cons, beq_eq_false_iff_ne.mpr found]
  induction table with
  | nil => rw [insert, get?_cons]
  | cons entry rest ih =>
    obtain ⟨first, old⟩ := entry
    rw [insert]
    by_cases before : id < first
    · rw [if_pos before, get?_cons]
    · rw [if_neg before]
      by_cases same : id = first
      · rw [if_pos same, get?_cons, get?_cons, same]
        by_cases found : other = first <;> simp [found]
      · rw [if_neg same, get?_cons, get?_cons, ih]
        by_cases found : other = first
        · simp [found, Ne.symm same]
        · simp [found]

end Table

/-- The types of variables and the signatures of functions. -/
structure Analysis where
  types : Table Ty
  signatures : Table Signature

namespace Analysis

def empty : Analysis :=
  { types := [], signatures := [] }

/-- The analysis with the type of one more variable. -/
def addVariable (analysis : Analysis) (id : Nat) (type : Ty) : Analysis :=
  { analysis with types := analysis.types.insert id type }

/-- The analysis with the signature of one more function. -/
def addFunction (analysis : Analysis) (id : Nat) (signature : Signature) : Analysis :=
  { analysis with signatures := analysis.signatures.insert id signature }

end Analysis

end ScriptCheck
