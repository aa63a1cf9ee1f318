import DownloadClient.Web.Host

/-! Web addresses: read from a text, in parts, and written in normal form. -/

namespace DownloadClient.Web

open DownloadClient.Text

structure Authority where
  username : List Char
  password : Option (List Char)
  host : Host
  port : Option Nat
  deriving DecidableEq

inductive Path
  | plain (text : List Char)
  | segments (parts : List (List Char))
  deriving DecidableEq

structure Address where
  scheme : List Char
  authority : Option Authority
  path : Path
  query : Option (List Char)
  fragment : Option (List Char)
  deriving DecidableEq

def Path.text : Path → List Char
  | .plain s => s
  | .segments parts => parts.flatMap ('/' :: ·)

def Authority.credentials (a : Authority) : List Char :=
  match a.username, a.password with
  | [], none => []
  | u, none => u ++ ['@']
  | u, some p => u ++ ':' :: p ++ ['@']

def Authority.hostPort (a : Authority) : List Char :=
  a.host.text ++
    match a.port with
    | none => []
    | some n => ':' :: decimal n

def Authority.text (a : Authority) : List Char := a.credentials ++ a.hostPort

namespace Address

/-- A path that begins with two slashes must not look like an authority. -/
def hierarchy (a : Address) : List Char :=
  match a.authority, a.path.text with
  | some au, p => '/' :: '/' :: (au.text ++ p)
  | none, '/' :: '/' :: p => '/' :: '.' :: '/' :: '/' :: p
  | none, p => p

def tail (mark : Char) : Option (List Char) → List Char
  | none => []
  | some s => mark :: s

def text (a : Address) : List Char :=
  a.scheme ++ ':' :: (a.hierarchy ++ tail '?' a.query ++ tail '#' a.fragment)

def toString (a : Address) : String := String.ofList a.text

def target (a : Address) : Address :=
  { a with
    authority := a.authority.map fun au => { au with username := [], password := none }
    fragment := none }

def host (a : Address) : Host := (a.authority.map (·.host)).getD .empty

def isControlOrSpace (c : Char) : Bool := decide (c.toNat ≤ 0x20)

def cleaned (s : List Char) : List Char :=
  ((s.dropWhile isControlOrSpace).reverse.dropWhile isControlOrSpace).reverse.filter
    fun c => c ≠ '\t' && c ≠ '\n' && c ≠ '\r'

def isSchemeChar (c : Char) : Bool := c.isAlphanum || c == '+' || c == '-' || c == '.'

def scheme? (s : List Char) : Option (List Char × List Char) :=
  match s with
  | [] => none
  | c :: _ =>
    if ¬ c.isAlpha then none
    else
      match s.dropWhile isSchemeChar with
      | ':' :: rest => some ((s.takeWhile isSchemeChar).map Char.toLower, rest)
      | _ => none

def defaultPort? (scheme : List Char) : Option Nat :=
  match String.ofList scheme with
  | "http" | "ws" => some 80
  | "https" | "wss" => some 443
  | "ftp" => some 21
  | _ => none

inductive Kind
  | special
  | file
  | other
  deriving DecidableEq

def Kind.of (scheme : List Char) : Kind :=
  match String.ofList scheme with
  | "http" | "https" | "ws" | "wss" | "ftp" => .special
  | "file" => .file
  | _ => .other

def Kind.isSlash (k : Kind) (c : Char) : Bool := c == '/' || (c == '\\' && k != .other)

def Kind.endsAuthority (k : Kind) (c : Char) : Bool := k.isSlash c || c == '?' || c == '#'

def credentials (s : List Char) : List Char × Option (List Char) :=
  match cut? ':' s with
  | none => (percentEncode userinfoSet s, none)
  | some (u, []) => (percentEncode userinfoSet u, none)
  | some (u, p) => (percentEncode userinfoSet u, some (percentEncode userinfoSet p))

def splitHost (inside : Bool) : List Char → List Char × List Char
  | [] => ([], [])
  | c :: r =>
    if c = ':' ∧ ¬ inside then ([], c :: r)
    else
      let (h, rest) := splitHost (if c = '[' then true else if c = ']' then false else inside) r
      (c :: h, rest)

def portOf (scheme s : List Char) : Except AddressError (Option Nat × List Char) :=
  let ds := s.takeWhile isDigit
  let rest := s.dropWhile isDigit
  if 65535 < ofDecimal ds then .error .port
  else if rest.head?.any (· ≠ '\\') then .error .port
  else if ds.isEmpty ∨ defaultPort? scheme = some (ofDecimal ds) then .ok (none, rest)
  else .ok (some (ofDecimal ds), rest)

def hostOf (k : Kind) (s : List Char) : Except AddressError Host :=
  match k with
  | .other => Host.parseOpaque s
  | _ => if s.isEmpty then .error .emptyHost else Host.parse s

def authorityOf (scheme : List Char) (k : Kind) (s : List Char) (more : Bool) :
    Except AddressError (Authority × List Char) := do
  let (user, place) := (cutLast? '@' s).getD ([], s)
  if more ∧ s.head? = some '@' ∧ place.isEmpty ∧ user.isEmpty then .error .emptyHost
  else
    let (username, password) := credentials user
    let (name, rest) := splitHost false place
    let host ← hostOf k name
    if host = .empty ∧ rest ≠ [] then .error .emptyHost
    else
      let (number, left) ← match rest with
        | ':' :: p => portOf scheme p
        | r => .ok (none, r)
      if host = .empty ∧ (username ≠ [] ∨ password ≠ none) then .error .emptyHost
      else .ok (⟨username, password, host, number⟩, left)

def isDot (s : List Char) : Bool :=
  match s with
  | ['.'] | ['%', '2', 'e'] | ['%', '2', 'E'] => true
  | _ => false

def isDotDot (s : List Char) : Bool :=
  match s with
  | '.' :: r => isDot r
  | '%' :: '2' :: 'e' :: r | '%' :: '2' :: 'E' :: r => isDot r
  | _ => false

/-- A letter and a colon, or a bar in its place: the name of a drive. -/
def isDrive (s : List Char) : Bool :=
  match s with
  | [c, ':'] | [c, '|'] => c.isAlpha
  | _ => false

def leave : List (List Char) → List (List Char)
  | [] => []
  | s :: taken => if isDrive s then s :: taken else taken

/-- One segment more. At the start of a file's path a drive is written with a colon, and stands
apart from what follows it. -/
def enter (k : Kind) (taken : List (List Char)) (s : List Char) : List (List Char) :=
  match k, taken, s with
  | .file, [], [c, '|'] => if c.isAlpha then [[c, ':']] else [s]
  | .file, [], c :: ':' :: d :: r => if c.isAlpha then [d :: r, [c, ':']] else [s]
  | _, taken, s => s :: taken

def resolve (k : Kind) (taken : List (List Char)) : List (List Char) → List (List Char)
  | [] => taken.reverse
  | [s] =>
    if isDotDot s then ([] :: leave taken).reverse
    else if isDot s then ([] :: taken).reverse
    else (enter k taken s).reverse
  | s :: rest =>
    if isDotDot s then resolve k (leave taken) rest
    else if isDot s then resolve k taken rest
    else resolve k (enter k taken s) rest

def segments (k : Kind) (s : List Char) : List (List Char) :=
  resolve k [] ((splitWhen k.isSlash s).map (percentEncode pathSet))

def rooted (k : Kind) (s : List Char) : Path :=
  match k, s with
  | .other, [] => .segments []
  | .other, '/' :: r => .segments (segments .other r)
  | .other, r => .segments (segments .other r)
  | k, [] => .segments (segments k [])
  | k, c :: r => .segments (segments k (if k.isSlash c then r else c :: r))

def filePath (s : List Char) : Path × Bool :=
  let parts := segments .file <|
    match s with
    | [] => []
    | c :: r => if Kind.file.isSlash c then r else c :: r
  match parts.dropWhile (·.isEmpty) with
  | [] => (.segments [[]], false)
  | rest => (.segments rest, parts.head?.any isDrive)

/-- The host and the path of a file behind two slashes. A drive is no host, and has none. -/
def fileBody (s : List Char) : Except AddressError (Host × Path) := do
  let front := s.takeWhile (! Kind.file.isSlash ·)
  if isDrive front then .ok (.empty, (filePath s).1)
  else
    let host ← if front.isEmpty then pure Host.empty else Host.parse front
    let (path, drive) := filePath (s.dropWhile (! Kind.file.isSlash ·))
    if drive ∨ host = .domain "localhost".toList then .ok (.empty, path) else .ok (host, path)

def cutTail (s : List Char) : List Char × Option (List Char) × Option (List Char) :=
  let (front, fragment) := match cut? '#' s with
    | some (a, b) => (a, some b)
    | none => (s, none)
  let (path, query) := match cut? '?' front with
    | some (a, b) => (a, some b)
    | none => (front, none)
  (path, query, fragment)

def body (scheme : List Char) (s : List Char) (more : Bool) :
    Except AddressError (Option Authority × Path) :=
  let k := Kind.of scheme
  let withAuthority (r : List Char) : Except AddressError (Option Authority × Path) := do
    let front := r.takeWhile (! k.endsAuthority ·)
    let back := r.dropWhile (! k.endsAuthority ·)
    let (au, left) ← authorityOf scheme k front (more || !back.isEmpty)
    return (some au, rooted k (left ++ back))
  match k with
  | .special => withAuthority (s.dropWhile k.isSlash)
  | .file => do
    let (host, path) ← match s with
      | a :: b :: r =>
        if k.isSlash a && k.isSlash b then fileBody r else pure (.empty, (filePath s).1)
      | s => pure (.empty, (filePath s).1)
    return (some ⟨[], none, host, none⟩, path)
  | .other =>
    match s with
    | '/' :: '/' :: r => withAuthority r
    | '/' :: r => .ok (none, .segments (segments k r))
    | r => .ok (none, .plain (percentEncode controlSet r))

def queryText (k : Kind) (s : List Char) : List Char :=
  percentEncode (if k = .other then querySet else specialQuerySet) s

def parse (s : List Char) : Except AddressError Address :=
  match scheme? (cleaned s) with
  | none => .error .relative
  | some (scheme, rest) => do
    let (front, query, fragment) := cutTail rest
    let (au, path) ← body scheme front (query.isSome || fragment.isSome)
    return { scheme, authority := au, path,
             query := query.map (queryText (Kind.of scheme)),
             fragment := fragment.map (percentEncode fragmentSet) }

def ofString (s : String) : Except AddressError Address := parse s.toList

end Address
end DownloadClient.Web
