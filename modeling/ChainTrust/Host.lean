import ChainTrust.Text.Blank
import ChainTrust.Text.LetterCase
import ChainTrust.Text.Pieces

namespace ChainTrust.Host

open Text

def normalize (host : List Char) : List Char :=
  lower (dropEndWhile (· == '.') (trim host))

def normalizeText (host : String) : String :=
  String.ofList (normalize host.toList)

def labels (host : List Char) : List (List Char) :=
  pieces '.' host

/-- A wildcard stands for one whole label, and at least two labels without one must follow it. -/
def wildcardMatches (pattern host : List Char) : Bool :=
  match labels pattern, labels host with
  | p :: ps, h :: hs =>
    p == ['*'] && 2 ≤ ps.length && ps.all (!·.contains '*') && !h.isEmpty && ps == hs
  | _, _ => false

/-- Matching of names in normal form. -/
def patternMatches (pattern host : List Char) : Bool :=
  !pattern.isEmpty && !host.isEmpty && (pattern == host || wildcardMatches pattern host)

def isMatch (pattern host : String) : Bool :=
  patternMatches (normalize pattern.toList) (normalize host.toList)

/-- A trusted server name that begins with a dot also matches the names that end with it. -/
def trustedMatches (trusted name : String) : Bool :=
  let t := normalize trusted.toList
  let n := normalize name.toList
  !t.isEmpty && !n.isEmpty &&
    (t == n || (t.head? == some '.' && t.isSuffixOf n) ||
      isMatch (String.ofList n) (String.ofList t) || isMatch (String.ofList t) (String.ofList n))

end ChainTrust.Host
