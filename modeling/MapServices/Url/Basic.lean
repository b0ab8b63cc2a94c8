import MapServices.Url.Percent
import MapServices.Url.Domain
import MapServices.Url.Ipv6

/-!
# Addresses of resources

An absolute address split into its components, all of them in the form in which they are written:
encoded, in lower case where case does not matter, and without a port that the scheme implies.

* `Url.print` writes the components one after the other.
* `Url.hasHost` tells addresses of a host from those of a file or of no place at all.
-/

namespace MapServices

namespace Url

/-- What stands for the host of an address. -/
inductive Host where
  /-- A name; the empty name for no host in particular. -/
  | name (text : List Char)
  /-- An address of 32 bits. -/
  | ipv4 (address : Nat)
  /-- An address of 128 bits, as eight pieces. -/
  | ipv6 (pieces : List Nat)
deriving DecidableEq, Repr

/-- The written form of a host. -/
def Host.print : Host → List Char
  | .name text => text
  | .ipv4 address => Ipv4.print address
  | .ipv6 pieces => '[' :: Ipv6.print pieces ++ [']']

/-- The path of an address. -/
inductive Path where
  /-- Segments, each with a slash before it. -/
  | segments (parts : List (List Char))
  /-- A text without structure. -/
  | plain (text : List Char)
deriving DecidableEq, Repr

/-- The written form of a path. -/
def Path.print : Path → List Char
  | .segments parts => parts.flatMap ('/' :: ·)
  | .plain text => text

end Url

/-- An absolute address. -/
structure Url where
  scheme : List Char
  username : List Char := []
  password : List Char := []
  host? : Option Url.Host := none
  port? : Option Nat := none
  path : Url.Path
  query? : Option (List Char) := none
  fragment? : Option (List Char) := none
deriving DecidableEq, Repr

namespace Url

/-- Whether the address names a host. -/
def hasHost (u : Url) : Bool :=
  match u.host? with
  | none => false
  | some host => host ≠ .name []

/-- The user name and password before the host, if there are any. -/
def printUser (u : Url) : List Char :=
  if u.username.isEmpty && u.password.isEmpty then []
  else u.username ++ (if u.password.isEmpty then [] else ':' :: u.password) ++ ['@']

/-- The host with its port. -/
def printHost (u : Url) (host : Host) : List Char :=
  host.print ++ match u.port? with
    | some port => ':' :: Nat.toDigits 10 port
    | none => []

/-- The part of the address that names the place. Without a host, a path that starts with an empty
segment is set off by a dot, lest it be taken for a host. -/
def printAuthority (u : Url) : List Char :=
  match u.host? with
  | some host => ['/', '/'] ++ u.printUser ++ u.printHost host
  | none =>
    match u.path with
    | .segments ([] :: _ :: _) => ['/', '.']
    | _ => []

/-- The whole address. -/
def print (u : Url) : List Char :=
  u.scheme ++ ':' :: u.printAuthority ++ u.path.print ++
    (match u.query? with
      | some query => '?' :: query
      | none => []) ++
    (match u.fragment? with
      | some fragment => '#' :: fragment
      | none => [])

end Url

end MapServices
