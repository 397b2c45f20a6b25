/-!
# Request targets

What a request asks for, and how. A method is a non-empty token. A target is a path with an optional
query, or a full address with a scheme and an authority before them; a fragment is cut off. Of an
authority only the form is checked.
-/

namespace LiveCounter.Http

/-- The characters of a token. -/
def isTokenChar (c : Char) : Bool :=
  c.isAlphanum || "!#$%&'*+-.^_`|~".toList.contains c

/-- Whether a text is a method. -/
def isMethod (text : String) : Bool :=
  !text.isEmpty && text.toList.all isTokenChar

/-- The path and the query of a request. -/
structure Target where
  path : String
  query : Option String
  deriving DecidableEq, Repr

namespace Target

/-- Whether a code lies in a range. -/
def within (lo hi code : Nat) : Bool := lo ≤ code && code ≤ hi

/-- The characters that may stand in a path as they are. -/
def isPathChar (c : Char) : Bool :=
  let n := c.toNat
  n == 0x21 || n == 0x22 || within 0x24 0x3B n || n == 0x3D || within 0x40 0x5F n ||
    within 0x61 0x7E n || 0x7F ≤ n

/-- The characters that may stand in a query as they are. -/
def isQueryChar (c : Char) : Bool :=
  let n := c.toNat
  n == 0x21 || within 0x24 0x3B n || n == 0x3D || within 0x3F 0x7E n || 0x7F ≤ n

/-- The target of a path and what follows it. -/
def ofPath? (chars : List Char) : Option Target :=
  let path := chars.takeWhile fun c => c != '?' && c != '#'
  let rest := chars.dropWhile fun c => c != '?' && c != '#'
  if !path.all isPathChar then none
  else
    let path := if path.isEmpty then "/" else String.ofList path
    match rest with
    | '?' :: query =>
      let query := query.takeWhile (· != '#')
      if query.all isQueryChar then some ⟨path, some (String.ofList query)⟩ else none
    | _ => some ⟨path, none⟩

/-- The characters that may stand in an authority, apart from the percent sign. -/
def isAuthorityChar (c : Char) : Bool :=
  c.isAlphanum || "!$&'()*+,-.:;=@[]_~".toList.contains c

/-- What has been seen of an authority. -/
structure AuthorityScan where
  colons : Nat := 0
  opened : Bool := false
  closed : Bool := false
  percent : Bool := false
  /-- The last character was the sign that ends the user's name. -/
  endsAtSign : Bool := false

/-- The most colons that are looked at. -/
def maxColons : Nat := 8

/-- Looks at the next character of an authority. -/
def AuthorityScan.step? (scan : AuthorityScan) (c : Char) : Option AuthorityScan :=
  let scan := { scan with endsAtSign := false }
  match c with
  | ':' =>
    if scan.colons < maxColons then some { scan with colons := scan.colons + 1 } else none
  | '[' => if scan.percent || scan.opened then none else some { scan with opened := true }
  | ']' =>
    if !scan.opened || scan.closed then none
    else some { scan with closed := true, colons := 0, percent := false }
  | '@' => some { scan with colons := 0, percent := false, endsAtSign := true }
  | '%' => some { scan with percent := true }
  | c => if isAuthorityChar c then some scan else none

/-- Whether what has been seen is an authority. -/
def AuthorityScan.accepts (scan : AuthorityScan) : Bool :=
  scan.opened == scan.closed && scan.colons ≤ 1 && !scan.endsAtSign && !scan.percent

/-- Whether characters are an authority. -/
def isAuthority (chars : List Char) : Bool :=
  match chars.foldlM AuthorityScan.step? {} with
  | some scan => scan.accepts
  | none => false

/-- The characters of a scheme. -/
def isSchemeChar (c : Char) : Bool :=
  c.isAlphanum || c == '+' || c == '-' || c == '.'

/-- The longest scheme. -/
def maxScheme : Nat := 64

/-- What follows the scheme of a full address; `none` if there is no scheme. -/
def afterScheme? (chars : List Char) : Option (List Char × List Char) :=
  let scheme := chars.takeWhile isSchemeChar
  match chars.dropWhile isSchemeChar with
  | ':' :: '/' :: '/' :: rest => some (scheme, rest)
  | _ => none

/-- The target of a full address, or of an authority alone, which has no path. -/
def ofAddress? (chars : List Char) : Option Target :=
  let isEnd (c : Char) : Bool := c == '/' || c == '?' || c == '#'
  match afterScheme? chars with
  | some (scheme, rest) =>
    let authority := rest.takeWhile fun c => !isEnd c
    if maxScheme < scheme.length || authority.isEmpty || !isAuthority authority then none
    else ofPath? (rest.dropWhile fun c => !isEnd c)
  | none =>
    if chars.any isEnd || !isAuthority chars then none else some ⟨"", none⟩

/-- The greatest size of a target, in bytes. -/
def maxSize : Nat := 65534

/-- The target that a text denotes. -/
def ofText? (text : String) : Option Target :=
  if text.isEmpty || maxSize < text.utf8ByteSize then none
  else
    match text.toList with
    | ['*'] => some ⟨"*", none⟩
    | '/' :: rest => ofPath? ('/' :: rest)
    | chars => ofAddress? chars

end Target

end LiveCounter.Http
