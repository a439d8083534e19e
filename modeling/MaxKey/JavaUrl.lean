import MaxKey.JavaText

/-- What java.net.URL keeps of an address, as far as it is read. No port is written as -1. -/
structure JavaUrl where
  protocol : String
  host : String
  port : Int
  path : String
  deriving DecidableEq

namespace JavaUrl
open JavaText

/-- Integer.parseInt, over ASCII digits. -/
def parsePort (text : List Char) : Option Int :=
  let digits := if text.head? = some '-' ∨ text.head? = some '+' then text.tail else text
  let value := digits.foldl (fun n c => 10 * n + (c.toNat - '0'.toNat)) 0
  let signed : Int := if text.head? = some '-' then - (value : Int) else value
  if digits ≠ [] ∧ digits.all Char.isDigit ∧ -2147483648 ≤ signed ∧ signed ≤ 2147483647 then some signed
  else none

/-- The port after a host: an empty one is none, and below -1 there is none. -/
def portOf : List Char → Option Int
  | [] | [':'] => some (-1)
  | ':' :: digits => (parsePort digits).filter (-1 ≤ ·)
  | _ => none

/-- A host between brackets must be an IPv6 literal. -/
def hostAndPort (isIPv6LiteralAddress : List Char → Bool) (host : List Char) :
    Option (List Char × Int) :=
  if host.head? = some '[' then
    let literal := host.takeWhile (· ≠ ']')
    if 2 < literal.length ∧ literal.length < host.length ∧ isIPv6LiteralAddress literal.tail then
      (portOf (host.drop (literal.length + 1))).map fun port => (literal ++ [']'], port)
    else none
  else (portOf (host.dropWhile (· ≠ ':'))).map fun port => (host.takeWhile (· ≠ ':'), port)

/-- An authority with more than one at sign has no host. -/
def parseAuthority (isIPv6LiteralAddress : List Char → Bool) (authority : List Char) :
    Option (List Char × Int) :=
  match authority.count '@' with
  | 0 => hostAndPort isIPv6LiteralAddress authority
  | 1 => hostAndPort isIPv6LiteralAddress (authority.dropWhile (· ≠ '@')).tail
  | _ => some ([], -1)

/-- The last slash before the place. -/
def slashBefore (path : List Char) (i : ℕ) : Option ℕ :=
  (indexOf ['/'] (path.take i).reverse).map fun back => i - 1 - back

/-- Embedded "/./" are removed. -/
def dropCurrent : ℕ → List Char → List Char
  | 0, path => path
  | n + 1, path =>
    match indexOf "/./".toList path with
    | none => path
    | some i => dropCurrent n (path.take i ++ path.drop (i + 2))

/-- An embedded "/../" is removed with the segment before it, unless that is one itself. -/
def dropParents : ℕ → ℕ → List Char → List Char
  | 0, _, path => path
  | n + 1, start, path =>
    match indexOf "/../".toList (path.drop start) with
    | none => path
    | some found =>
      let i := start + found
      match slashBefore path i with
      | none => dropParents n (i + 3) path
      | some limit =>
        if limit = 0 ∧ "/../".toList.isPrefixOf path then dropParents n (i + 3) path
        else dropParents n 0 (path.take limit ++ path.drop (i + 3))

/-- A trailing "/.." is removed with what follows the slash before the first "/..". -/
def dropTrailing : ℕ → List Char → List Char
  | 0, path => path
  | n + 1, path =>
    if "/..".toList.isSuffixOf path then
      match (indexOf "/..".toList path).bind (slashBefore path) with
      | none => path
      | some limit => dropTrailing n (path.take (limit + 1))
    else path

def normalize (path : List Char) : List Char :=
  let path := dropCurrent path.length path
  let path := dropParents ((path.length + 1) * (path.length + 1)) 0 path
  let path := dropTrailing path.length path
  let path := if "./".toList.isPrefixOf path ∧ 2 < path.length then path.drop 2 else path
  if "/.".toList.isSuffixOf path then path.dropLast else path

/-- URLStreamHandler.parseURL without a context: host, port and path of what follows the protocol. -/
def parseURL (isIPv6LiteralAddress : List Char → Bool) (spec : List Char) :
    Option (List Char × Int × List Char) :=
  let spec := spec.takeWhile (· ≠ '?')
  if "//".toList.isPrefixOf spec ∧ ¬ "////".toList.isPrefixOf spec then
    let rest := spec.drop 2
    (parseAuthority isIPv6LiteralAddress (rest.takeWhile (· ≠ '/'))).map fun (host, port) =>
      (host, port, normalize (rest.dropWhile (· ≠ '/')))
  else some ([], -1, normalize spec)

def isValidProtocol : List Char → Bool
  | [] => false
  | c :: protocol =>
    c.isAlpha && protocol.all fun c => c.isAlphanum || c = '.' || c = '+' || c = '-'

/-- The handlers of the protocols that are known where the program runs. -/
abbrev Handlers := String → Option (List Char → Option (List Char × Int × List Char))

/-- `new URL(spec)`, or `none` where it throws a MalformedURLException. -/
def new (handlers : Handlers) (spec : String) : Option JavaUrl := do
  let trimmed := (trim spec).toList
  let rest := if (trimmed.take 4).map foldCase = "url:".toList then trimmed.drop 4 else trimmed
  let name := rest.takeWhile fun c => c ≠ '/' ∧ c ≠ ':'
  let protocol := name.map Char.toLower
  if rest.head? ≠ some '#' ∧ (rest.drop name.length).head? = some ':' ∧ isValidProtocol protocol then
    let parse ← handlers (String.ofList protocol)
    let (host, port, path) ← parse ((rest.drop (name.length + 1)).takeWhile (· ≠ '#'))
    return ⟨String.ofList protocol, String.ofList host, port, String.ofList path⟩
  else none

/-- The protocols of the web, without IPv6 literals. -/
def web : Handlers := fun protocol =>
  if protocol = "http" ∨ protocol = "https" then some (parseURL fun _ => false) else none

example : new web "https://u@app.example:8443/a/b/../c?d=/e#f" =
    some ⟨"https", "app.example", 8443, "/a/c"⟩ := by decide +kernel

end JavaUrl
