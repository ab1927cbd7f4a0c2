/-!
# States of observers

Each observer has a name and a state of its own.  A store keeps the states by name, in the order in
which the names first came up; a name that never came up has the vacant state.  Setting the state of
one observer leaves that of every other as it was (`get_set`).
-/

namespace DeclScope

/-- The name of an observer. -/
abbrev ObserverId := String

/-- The states of observers by name. -/
structure Store (σ : Type) where
  /-- The state of observers that never came up. -/
  vacant : σ
  entries : List (ObserverId × σ) := []
deriving Inhabited

namespace Store

variable {σ : Type}

/-- The state under a name among entries. -/
def lookup (id : ObserverId) : List (ObserverId × σ) → Option σ
  | [] => none
  | (name, state) :: rest => if name = id then some state else lookup id rest

/-- The entries with the state under a name replaced, or added at the end. -/
def assign (id : ObserverId) (state : σ) : List (ObserverId × σ) → List (ObserverId × σ)
  | [] => [(id, state)]
  | (name, old) :: rest =>
    if name = id then (name, state) :: rest else (name, old) :: assign id state rest

/-- Looking up after assigning finds the new state under its name and the old ones elsewhere. -/
theorem lookup_assign (id other : ObserverId) (state : σ) (entries : List (ObserverId × σ)) :
    lookup other (assign id state entries) =
      if id = other then some state else lookup other entries := by
  induction entries with
  | nil => simp [assign, lookup]
  | cons head rest ih =>
    rw [assign]
    split
    · rename_i same
      subst same
      by_cases here : head.1 = other <;> simp [lookup, here]
    · rename_i differs
      by_cases here : head.1 = other
      · have : id ≠ other := fun eq => differs (here.trans eq.symm)
        simp [lookup, here, this]
      · simp [lookup, here, ih]

/-- The state of an observer, if its name ever came up. -/
def find? (store : Store σ) (id : ObserverId) : Option σ := lookup id store.entries

/-- The state of an observer. -/
def get (store : Store σ) (id : ObserverId) : σ := (store.find? id).getD store.vacant

/-- The store after an observer has changed its state. -/
def set (store : Store σ) (id : ObserverId) (state : σ) : Store σ :=
  { store with entries := assign id state store.entries }

/-- Reading after writing. -/
@[simp] theorem get_set (store : Store σ) (id other : ObserverId) (state : σ) :
    (store.set id state).get other = if id = other then state else store.get other := by
  simp only [get, find?, set, lookup_assign]
  split <;> simp

end Store

end DeclScope
