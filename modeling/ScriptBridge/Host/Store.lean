import ScriptBridge.Host.Value

/-!
# The store of containers

Lists and dictionaries live in a `Store` and are named by references. A container is changed only
while it is unlocked; a dictionary keeps its entries in the order of their keys.
-/

namespace ScriptBridge.Host

/-- A list of the store. -/
structure ListCell where
  items : List Value := []
  lock : Lock := .unlocked
deriving Inhabited

/-- A dictionary of the store; its entries are in key order. -/
structure DictCell where
  entries : List (String × Value) := []
  lock : Lock := .unlocked
  scope : Scope := .plain
deriving Inhabited

/-- All containers. -/
structure Store where
  lists : Array ListCell := #[]
  dicts : Array DictCell := #[]
deriving Inhabited

namespace Entries

/-- The value under a key. -/
def get? (key : String) : List (String × Value) → Option Value
  | [] => none
  | (k, v) :: rest => if k = key then some v else get? key rest

/-- The entries with `value` under `key`, in key order. -/
def insert (key : String) (value : Value) : List (String × Value) → List (String × Value)
  | [] => [(key, value)]
  | (k, v) :: rest =>
    if key < k then (key, value) :: (k, v) :: rest
    else if k = key then (key, value) :: rest
    else (k, v) :: insert key value rest

/-- The entries without the one under `key`. -/
def erase (key : String) : List (String × Value) → List (String × Value)
  | [] => []
  | (k, v) :: rest => if k = key then rest else (k, v) :: erase key rest

/-- The entries that result from inserting one after another. -/
def ofList (entries : List (String × Value)) : List (String × Value) :=
  entries.foldl (fun es e => insert e.1 e.2 es) []

/-- What was just inserted is found. -/
@[simp] theorem get?_insert_self (key : String) (value : Value) (es : List (String × Value)) :
    get? key (insert key value es) = some value := by
  induction es with
  | nil => simp [insert, get?]
  | cons e es ih =>
    obtain ⟨k, v⟩ := e
    simp only [insert]
    split
    · simp [get?]
    · split
      · simp [get?]
      · rename_i hne
        simp [get?, hne, ih]

/-- Inserting leaves the other keys as they were. -/
theorem get?_insert_of_ne {key other : String} (h : other ≠ key) (value : Value)
    (es : List (String × Value)) : get? other (insert key value es) = get? other es := by
  induction es with
  | nil => simp [insert, get?, h.symm]
  | cons e es ih =>
    obtain ⟨k, v⟩ := e
    simp only [insert]
    split
    · simp [get?, h.symm]
    · split
      · rename_i hk
        subst hk
        simp [get?, h.symm]
      · simp [get?, ih]

end Entries

namespace Store

/-- The list that a reference names. -/
def list (s : Store) (l : ListRef) : ListCell := s.lists.getD l.id {}

/-- The dictionary that a reference names. -/
def dict (s : Store) (d : DictRef) : DictCell := s.dicts.getD d.id {}

/-- The store with another list under a reference. -/
def setList (s : Store) (l : ListRef) (cell : ListCell) : Store :=
  { s with lists := s.lists.setIfInBounds l.id cell }

/-- The store with another dictionary under a reference. -/
def setDict (s : Store) (d : DictRef) (cell : DictCell) : Store :=
  { s with dicts := s.dicts.setIfInBounds d.id cell }

/-- A new unlocked list. -/
def newList (s : Store) (items : List Value) : ListRef × Store :=
  (⟨s.lists.size⟩, { s with lists := s.lists.push { items } })

/-- A new unlocked dictionary. -/
def newDict (s : Store) (entries : List (String × Value)) (scope : Scope := .plain) :
    DictRef × Store :=
  (⟨s.dicts.size⟩, { s with dicts := s.dicts.push { entries, scope } })

/-- Replaces the items of an unlocked list. -/
def writeList (s : Store) (l : ListRef) (change : List Value → Except LockError (List Value)) :
    Except LockError Store :=
  let cell := s.list l
  if cell.lock = .unlocked then (change cell.items).map fun items => s.setList l { cell with items }
  else .error .listLocked

/-- Appends to a list. -/
def push (s : Store) (l : ListRef) (v : Value) : Except LockError Store :=
  s.writeList l fun items => .ok (items ++ [v])

/-- Replaces an item; at the length of the list it is appended. -/
def setItem (s : Store) (l : ListRef) (i : Nat) (v : Value) : Except LockError Store :=
  s.writeList l fun items =>
    if i < items.length then .ok (items.set i v)
    else if i = items.length then .ok (items ++ [v])
    else .error .outOfRange

/-- Removes an item. -/
def removeItem (s : Store) (l : ListRef) (i : Nat) : Except LockError Store :=
  s.writeList l fun items => if i < items.length then .ok (items.eraseIdx i) else .error .outOfRange

/-- Replaces the items from `lo` up to `hi`, both cut down to the list. -/
def splice (s : Store) (l : ListRef) (lo hi : Nat) (vs : List Value) : Except LockError Store :=
  s.writeList l fun items =>
    let lo := min lo items.length
    let hi := max lo (min hi items.length)
    .ok (items.take lo ++ vs ++ items.drop hi)

/-- Appends several values to a list. -/
def extend (s : Store) (l : ListRef) (vs : List Value) : Except LockError Store :=
  s.writeList l fun items => .ok (items ++ vs)

/-- Locks or unlocks a list that is not fixed. -/
def lockList (s : Store) (l : ListRef) (lock : Lock) : Except LockError Store :=
  let cell := s.list l
  if cell.lock = .fixed then .error .fixedList else .ok (s.setList l { cell with lock })

/-- Locks or unlocks a dictionary that is not fixed. -/
def lockDict (s : Store) (d : DictRef) (lock : Lock) : Except LockError Store :=
  let cell := s.dict d
  if cell.lock = .fixed then .error .fixedDict else .ok (s.setDict d { cell with lock })

/-- Replaces the entries of an unlocked dictionary. -/
def writeDict (s : Store) (d : DictRef)
    (change : List (String × Value) → List (String × Value)) : Except LockError Store :=
  let cell := s.dict d
  if cell.lock = .unlocked then .ok (s.setDict d { cell with entries := change cell.entries })
  else .error .dictLocked

/-- Puts a value under a key. -/
def insert (s : Store) (d : DictRef) (key : String) (v : Value) : Except LockError Store :=
  s.writeDict d (Entries.insert key v)

/-- Removes the entry under a key, if there is one. -/
def erase (s : Store) (d : DictRef) (key : String) : Except LockError Store :=
  s.writeDict d (Entries.erase key)

/-- The value under a key. -/
def get? (s : Store) (d : DictRef) (key : String) : Option Value :=
  Entries.get? key (s.dict d).entries

end Store

end ScriptBridge.Host
