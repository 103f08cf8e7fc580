import ChainTrust.Constraint

namespace ChainTrust

/-- A source says which certificates are anchors, and what it knows of each. -/
structure AnchorSource where
  isAnchor : Facts → Bool
  constraints : Facts → List Constraint
  store : Facts → Option AnchorStore

structure Anchor where
  /-- The SHA-1 digest of the certificate. -/
  sha1 : Bytes
  store : AnchorStore
  constraints : List Constraint

/-- A list of anchors, no two of which have the same digest. -/
abbrev AnchorTable := List Anchor

namespace AnchorTable

def find? (t : AnchorTable) (sha1 : Bytes) : Option Anchor :=
  List.find? (fun a => a.sha1 == sha1) t

/-- Adds an anchor, instead of one with the same digest. -/
def add (t : AnchorTable) (a : Anchor) : AnchorTable :=
  List.filter (fun b => b.sha1 != a.sha1) t ++ [a]

def source (t : AnchorTable) : AnchorSource where
  isAnchor c := (t.find? c.sha1).isSome
  constraints c := ((t.find? c.sha1).map Anchor.constraints).getD []
  store c := (t.find? c.sha1).map Anchor.store

end AnchorTable
end ChainTrust
