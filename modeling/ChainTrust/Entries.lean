namespace ChainTrust.Entries

variable {κ α β : Type}

/-- Puts a value at its place, instead of one that has the same key. -/
def put [Ord κ] (key : κ) (value : α) : List (κ × α) → List (κ × α)
  | [] => [(key, value)]
  | (k, v) :: rest =>
    match compare key k with
    | .lt => (key, value) :: (k, v) :: rest
    | .eq => (key, value) :: rest
    | .gt => (k, v) :: put key value rest

/-- Adds entries one by one. -/
def putAll [Ord κ] (new : List (κ × α)) (entries : List (κ × α)) : List (κ × α) :=
  new.foldl (fun m (k, v) => put k v m) entries

def ofList [Ord κ] (pairs : List (κ × α)) : List (κ × α) :=
  putAll pairs []

def get? [BEq κ] (key : κ) (entries : List (κ × α)) : Option α :=
  entries.lookup key

def hasKey [BEq κ] (key : κ) (entries : List (κ × α)) : Bool :=
  entries.any (·.1 == key)

end ChainTrust.Entries
