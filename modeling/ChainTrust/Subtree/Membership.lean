import ChainTrust.GeneralName
import ChainTrust.Name.Matching
import ChainTrust.Uri.Host

namespace ChainTrust

open Text

namespace Subtree

/-- A host lies under a base if it is the base or a subdomain of it; of URIs, only the base itself.
A base that begins with a dot has only subdomains under it. -/
def hostUnder (isUri : Bool) (base host : String) : Bool :=
  let b := lower base.toList
  let h := lower (dropEndWhile (· == '.') host.toList)
  match b with
  | [] => true
  | '.' :: _ => b.isSuffixOf h && b.length < h.length
  | _ => h == b || (!isUri && ('.' :: b).isSuffixOf h)

/-- The part of an address after the last at sign. -/
def mailHost (address : List Char) : List Char :=
  (address.reverse.takeWhile (· ≠ '@')).reverse

/-- A base is one mailbox, the mailboxes of one host or, with a dot in front, those of its
subdomains. -/
def emailUnder (base address : String) : Bool :=
  let b := lower base.toList
  let a := lower address.toList
  if b.contains '@' then b == a
  else if b.head? = some '.' then b.isSuffixOf (mailHost a)
  else mailHost a == b

def maskedEqual : Bytes → Bytes → Bytes → Bool
  | a :: as, n :: ns, m :: ms => a &&& m == n &&& m && maskedEqual as ns ms
  | _, _, _ => true

/-- A base is a network address followed by a mask of the same length. -/
def addressUnder (base address : Bytes) : Bool :=
  base.length == 2 * address.length &&
    maskedEqual address (base.take address.length) (base.drop address.length)

end Subtree

/-- Forms of names that constraints are enforced for. -/
inductive NameForm where
  | directory
  | email
  | dns
  | uri
  | ip
deriving DecidableEq, Repr

def NameForm.all : List NameForm := [.directory, .email, .dns, .uri, .ip]

def GeneralName.form? : GeneralName → Option NameForm
  | .directory _ => some .directory
  | .email _ => some .email
  | .dns _ => some .dns
  | .uri _ => some .uri
  | .ip _ => some .ip
  | _ => none

/-- A name of a certificate that constraints apply to. -/
inductive ConstrainedName where
  | directory (name : Name)
  | email (address : String)
  | dns (host : String)
  | uriHost (host : String)
  | ip (address : Bytes)
deriving DecidableEq, Repr

namespace ConstrainedName

def form : ConstrainedName → NameForm
  | .directory _ => .directory
  | .email _ => .email
  | .dns _ => .dns
  | .uriHost _ => .uri
  | .ip _ => .ip

/-- An empty subject is not constrained. -/
def ofSubject (subject : Name) : List ConstrainedName :=
  if subject.isEmpty then []
  else .directory subject :: (subject.values .emailAddress).map .email

/-- Names of other forms, and URIs without a host, are not constrained. -/
def ofAltName (hostOf : String → Option String) : GeneralName → Option ConstrainedName
  | .directory name => some (.directory name)
  | .email address => some (.email address)
  | .dns host => some (.dns host)
  | .uri text => (hostOf text).map .uriHost
  | .ip address => some (.ip address)
  | _ => none

def ofAltNames (names : Option (List GeneralName)) (hostOf : String → Option String := Uri.host?) :
    List ConstrainedName :=
  (names.getD []).filterMap (ofAltName hostOf)

def isWithin (name : ConstrainedName) (subtree : Subtree) : Bool :=
  match name, subtree.base with
  | .directory n, .directory base => base.isUnder n subtree.minimum subtree.maximum
  | .email a, .email base => Subtree.emailUnder base a
  | .dns h, .dns base => Subtree.hostUnder false base h
  | .uriHost h, .uri base => Subtree.hostUnder true base h
  | .ip a, .ip base => Subtree.addressUnder base a
  | _, _ => false

end ConstrainedName

namespace Subtree

/-- The inner mask fixes every bit that the outer mask does. -/
def maskCovers (inner outer : Bytes) : Bool :=
  (inner.zip outer).all fun (i, o) => i &&& o == o

def addressWithin (inner outer : Bytes) : Bool :=
  let half := inner.length / 2
  inner.length == outer.length && inner.length % 2 == 0 &&
    maskCovers (inner.drop half) (outer.drop half) && addressUnder outer (inner.take half)

/-- Every name within the first subtree is within the second. -/
def isWithin (inner outer : Subtree) : Bool :=
  match inner.base, outer.base with
  | .directory i, .directory o => o.isUnder i 0 none
  | .email i, .email o => emailUnder o i
  | .dns i, .dns o => hostUnder false o i
  | .uri i, .uri o => hostUnder true o (String.ofList (i.toList.dropWhile (· == '.')))
  | .ip i, .ip o => addressWithin i o
  | _, _ => false

end Subtree
end ChainTrust
