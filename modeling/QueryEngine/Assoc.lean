namespace QueryEngine

abbrev Assoc (α : Type) := List (String × α)

namespace Assoc

variable {α : Type}

def get? (m : Assoc α) (name : String) : Option α :=
  (m.find? (·.1 = name)).map (·.2)

def contains (m : Assoc α) (name : String) : Bool :=
  (m.get? name).isSome

def erase (m : Assoc α) (name : String) : Assoc α :=
  m.filter (·.1 ≠ name)

def insert (m : Assoc α) (name : String) (a : α) : Assoc α :=
  (name, a) :: m.erase name

def sorted (m : Assoc α) : List (String × α) :=
  m.mergeSort fun p q => compare p.1 q.1 != .gt

@[simp] theorem get?_erase (m : Assoc α) (name other : String) :
    (m.erase name).get? other = if other = name then none else m.get? other := by
  induction m with
  | nil => simp [erase, get?]
  | cons p m ih =>
    simp only [erase, get?, ne_eq, List.filter_cons] at ih ⊢
    by_cases h : p.1 = name <;> by_cases h' : p.1 = other <;> grind

@[simp] theorem get?_insert (m : Assoc α) (name other : String) (a : α) :
    (m.insert name a).get? other = if other = name then some a else m.get? other := by
  by_cases h : other = name
  · simp [insert, get?, h]
  · have := get?_erase m name other
    simp only [h, if_false] at this ⊢
    rw [← this]
    simp [insert, get?, Ne.symm h]

end Assoc

end QueryEngine
