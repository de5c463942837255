/-!
Tables in order of arrival. A table is a list of named entries with distinct names: a new
name goes to the end, and setting a name again changes its value but not its place.
-/
namespace TextTemplate.Entries

variable {α : Type}

def get? (entries : List (String × α)) (name : String) : Option α :=
  match entries with
  | [] => none
  | entry :: rest => if entry.1 = name then some entry.2 else get? rest name

def contains (entries : List (String × α)) (name : String) : Bool := (get? entries name).isSome

def set (entries : List (String × α)) (name : String) (value : α) : List (String × α) :=
  match entries with
  | [] => [(name, value)]
  | entry :: rest =>
    if entry.1 = name then (name, value) :: rest else entry :: set rest name value

/-- Sets all the given pairs, one after the other. -/
def setAll (entries pairs : List (String × α)) : List (String × α) :=
  pairs.foldl (fun table pair => set table pair.1 pair.2) entries

/-- The table of the given pairs: a repeated name keeps its first place and takes its last
value. -/
def ofList (pairs : List (String × α)) : List (String × α) := setAll [] pairs

def names (entries : List (String × α)) : List String := entries.map (·.1)

theorem get?_set (entries : List (String × α)) (name other : String) (value : α) :
    get? (set entries name value) other =
      if name = other then some value else get? entries other := by
  induction entries with
  | nil => rfl
  | cons entry rest ih =>
    by_cases hkey : entry.1 = name
    · simp only [set, get?, hkey, if_true]
      split <;> rfl
    · simp only [set, hkey, if_false, get?, ih]
      by_cases hother : name = other
      · simp [hother, hother ▸ hkey]
      · simp [hother]

theorem get?_set_self (entries : List (String × α)) (name : String) (value : α) :
    get? (set entries name value) name = some value := by
  simp [get?_set]

end TextTemplate.Entries
