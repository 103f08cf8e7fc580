import ChainTrust.Subtree.Membership

namespace ChainTrust

/-- The subtrees of one form. Without any, nothing of that form is constrained unless an
intersection came out empty. -/
structure Bucket where
  subtrees : List Subtree
  isNull : Bool
deriving DecidableEq, Repr

def Bucket.initial : Bucket := ⟨[], false⟩

structure SubtreeSet where
  directory : Bucket
  email : Bucket
  dns : Bucket
  uri : Bucket
  ip : Bucket
  unsupported : List Subtree
deriving DecidableEq, Repr

namespace Bucket

/-- What is left of one new subtree against those gathered before. -/
def meet (previous : List Subtree) (new : Subtree) : List Subtree :=
  previous.filterMap fun old =>
    if new == old || new.isWithin old then some new
    else if old.isWithin new then some old
    else none

def intersect (b : Bucket) (new : List Subtree) : Bucket :=
  if b.isNull || new.isEmpty then b
  else
    let kept := if b.subtrees.isEmpty then new else new.flatMap (meet b.subtrees)
    if kept.isEmpty then ⟨[], true⟩ else ⟨kept, b.isNull⟩

def add (b : Bucket) (s : Subtree) : Bucket :=
  if b.subtrees.contains s then b else { b with subtrees := b.subtrees ++ [s] }

def permits (b : Bucket) (name : ConstrainedName) : Bool :=
  !b.isNull && (b.subtrees.isEmpty || b.subtrees.any name.isWithin)

def excludes (b : Bucket) (name : ConstrainedName) : Bool :=
  b.subtrees.any name.isWithin

end Bucket

namespace SubtreeSet

def initial : SubtreeSet := ⟨.initial, .initial, .initial, .initial, .initial, []⟩

def bucket (s : SubtreeSet) : NameForm → Bucket
  | .directory => s.directory
  | .email => s.email
  | .dns => s.dns
  | .uri => s.uri
  | .ip => s.ip

def setBucket (s : SubtreeSet) (form : NameForm) (b : Bucket) : SubtreeSet :=
  match form with
  | .directory => { s with directory := b }
  | .email => { s with email := b }
  | .dns => { s with dns := b }
  | .uri => { s with uri := b }
  | .ip => { s with ip := b }

def ofForm (form : NameForm) (subtrees : List Subtree) : List Subtree :=
  subtrees.filter fun s => s.base.form? == some form

/-- Forms that are not enforced are ignored. -/
def intersect (s : SubtreeSet) (new : List Subtree) : SubtreeSet where
  directory := s.directory.intersect (ofForm .directory new)
  email := s.email.intersect (ofForm .email new)
  dns := s.dns.intersect (ofForm .dns new)
  uri := s.uri.intersect (ofForm .uri new)
  ip := s.ip.intersect (ofForm .ip new)
  unsupported := s.unsupported

def add (s : SubtreeSet) (subtree : Subtree) : SubtreeSet :=
  match subtree.base.form? with
  | some form => s.setBucket form ((s.bucket form).add subtree)
  | none => { s with unsupported := s.unsupported ++ [subtree] }

def union (s : SubtreeSet) (new : List Subtree) : SubtreeSet :=
  new.foldl add s

def anyNull (s : SubtreeSet) : Bool :=
  NameForm.all.any fun form => (s.bucket form).isNull

def permits (s : SubtreeSet) (names : List ConstrainedName) : Bool :=
  names.all fun name => (s.bucket name.form).permits name

def excludes (s : SubtreeSet) (names : List ConstrainedName) : Bool :=
  names.any fun name => (s.bucket name.form).excludes name

end SubtreeSet
end ChainTrust
