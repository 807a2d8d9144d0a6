import DealWatch.Web.Host

/-!
# Addresses

An address has a scheme, a host, a path with parameters, a query and a fragment.

* `Url.ofText` takes an address apart, `Url.toText` puts it together;
* `Url.check` refuses an address with a bad host;
* `Url.join` resolves a reference against the address of the document it stands in.
-/

namespace DealWatch

/-- The parts of an address. -/
structure Url where
  scheme : String
  host : String
  path : List Char
  params : List Char
  query : List Char
  fragment : List Char
  deriving DecidableEq, Repr, Inhabited

namespace Url

/-- The schemes whose references can be relative. -/
def relativeSchemes : List String := ["", "ftp", "http", "gopher", "nntp", "imap", "wais", "file",
  "https", "shttp", "mms", "prospero", "rtsp", "rtsps", "rtspu", "sftp", "svn", "svn+ssh", "ws",
  "wss"]

/-- The schemes whose addresses name a host. -/
def hostSchemes : List String := ["", "ftp", "http", "gopher", "nntp", "telnet", "imap", "wais",
  "file", "mms", "https", "shttp", "snews", "prospero", "rtsp", "rtsps", "rtspu", "rsync", "svn",
  "svn+ssh", "sftp", "nfs", "git", "git+ssh", "ws", "wss"]

/-- The schemes whose paths end in parameters. -/
def paramSchemes : List String := ["", "ftp", "hdl", "prospero", "http", "imap", "https", "shttp",
  "rtsp", "rtsps", "rtspu", "sip", "sips", "mms", "sftp", "tel"]

/-- Whether a character is a letter of ASCII. -/
def isLetter (c : Char) : Bool := ('a' ≤ c && c ≤ 'z') || ('A' ≤ c && c ≤ 'Z')

/-- Whether a character may stand in a scheme. -/
def isSchemeChar (c : Char) : Bool :=
  isLetter c || ('0' ≤ c && c ≤ '9') || c == '+' || c == '-' || c == '.'

/-- The characters of an address that count: no control characters or spaces at the start, and no
tabs or ends of lines. -/
def clean (cs : List Char) : List Char :=
  (cs.dropWhile fun c => c.toNat ≤ 0x20).filter fun c => c != '\t' && c != '\r' && c != '\n'

/-- The scheme at the start of an address, or the one given, and what follows. -/
def splitScheme (fallback : String) (cs : List Char) : String × List Char :=
  match cutBefore ':' cs with
  | (c :: name, some rest) =>
    if isLetter c && name.all isSchemeChar then
      (String.ofList ((c :: name).map Char.toLower), rest)
    else (fallback, cs)
  | _ => (fallback, cs)

/-- The host at the start of an address without its scheme, and what follows. -/
def splitHost (cs : List Char) : String × List Char :=
  match cs with
  | '/' :: '/' :: rest =>
    let host := rest.takeWhile fun c => c != '/' && c != '?' && c != '#'
    (String.ofList host, rest.drop host.length)
  | _ => ("", cs)

/-- A path without the parameters of its last part, and the parameters. -/
def splitParams (scheme : String) (path : List Char) : List Char × List Char :=
  if paramSchemes.contains scheme then
    let last := (path.reverse.takeWhile (· != '/')).reverse
    let before := path.take (path.length - last.length)
    match cutBefore ';' last with
    | (name, some params) => (before ++ name, params)
    | (_, none) => (path, [])
  else (path, [])

/-- The parts of an address; `fallback` is the scheme of one that names none. -/
def ofText (fallback s : String) : Url :=
  let (scheme, rest) := splitScheme fallback (clean s.toList)
  let (host, rest) := splitHost rest
  let (rest, fragment) := cutBefore '#' rest
  let (path, query) := cutBefore '?' rest
  let (path, params) := splitParams scheme path
  ⟨scheme, host, path, params, query.getD [], fragment.getD []⟩

/-- An address as text. -/
def toText (u : Url) : String :=
  let path := if u.params.isEmpty then u.path else u.path ++ ';' :: u.params
  let full := u.host != "" || (u.scheme != "" && hostSchemes.contains u.scheme) ||
    ['/', '/'].isPrefixOf path
  let path := if full then
      let path := if !path.isEmpty && path.head? != some '/' then '/' :: path else path
      '/' :: '/' :: u.host.toList ++ path
    else path
  let path := if u.scheme == "" then path else u.scheme.toList ++ ':' :: path
  let path := if u.query.isEmpty then path else path ++ '?' :: u.query
  String.ofList (if u.fragment.isEmpty then path else path ++ '#' :: u.fragment)

/-- The parts of a path without the empty ones inside. -/
def withoutEmpty (parts : List (List Char)) : List (List Char) :=
  match parts with
  | [] => []
  | [part] => [part]
  | part :: others =>
    part :: (others.dropLast.filter fun p => !p.isEmpty) ++ (others.getLast?.map ([·])).getD []

/-- The parts of a path with the points and double points worked off. -/
def resolveParts (parts : List (List Char)) : List (List Char) :=
  let kept := parts.foldl (fun kept part =>
    if part == ['.', '.'] then kept.dropLast else if part == ['.'] then kept else kept ++ [part]) []
  match parts.getLast? with
  | some last => if last == ['.'] || last == ['.', '.'] then kept ++ [[]] else kept
  | none => kept

/-- The path of a reference as seen from the path of a document. -/
def joinPaths (base path : List Char) : List Char :=
  let parts := if path.head? == some '/' then splitAt '/' path
    else
      let parts := splitAt '/' base
      let parts := if parts.getLast? == some [] then parts else parts.dropLast
      withoutEmpty (parts ++ splitAt '/' path)
  let joined := joinWith '/' (resolveParts parts)
  if joined.isEmpty then ['/'] else joined

/-- The parts of a reference as seen from those of a document. A reference that cannot be relative
stands for itself. -/
def resolve (b u : Url) (reference : String) : String :=
  if u.scheme != b.scheme || !relativeSchemes.contains u.scheme then reference
  else if hostSchemes.contains u.scheme && u.host != "" then u.toText
  else
    let host := if hostSchemes.contains u.scheme then b.host else u.host
    if u.path.isEmpty && u.params.isEmpty then
      let query := if u.query.isEmpty then b.query else u.query
      ({ u with host, path := b.path, params := b.params, query } : Url).toText
    else ({ u with host, path := joinPaths b.path u.path } : Url).toText

/-- An address whose host is a good one. -/
def check (u : Url) : Except Host.Fault Url :=
  match Host.fault? u.host.toList with
  | some fault => .error fault
  | none => .ok u

/-- A reference as seen from a document. Both must have good hosts. -/
def join (base reference : String) : Except Host.Fault String := do
  if base == "" then return reference
  else if reference == "" then return base
  else
    let b ← (ofText "" base).check
    let u ← (ofText b.scheme reference).check
    return resolve b u reference

end Url

end DealWatch
