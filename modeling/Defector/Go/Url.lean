import Defector.Go.Strconv

/-!
# URLs: `url.Parse`, `(*URL).String` and `url.Error`

The Target Loader validates every target with `url.Parse`, exits with the
error's text if one fails, sets the default scheme on a URL that has none,
and stores `page.String()` in the ledger (cmd/server/server.go:76-98). This
module models the parts of `net/url` those calls go through: the scheme
scan `getScheme`, the split into fragment, query, opaque part, authority
and path, the checks of the host (a bracketed IPv6 literal with an optional
zone, a decimal port, the bytes a host may hold) and of the userinfo, the
percent-decoding of each part, and the rendering back to a string.

`String` reads only the escaped form of the host, the userinfo, the path and
the fragment, so `URL` holds those forms: `escape` of the decoded value, or,
for the path and the fragment, the raw text when `EscapedPath` and
`EscapedFragment` would give it back. A failed parse is the `url.Error` value
`{Op, URL, Err}`; its text quotes the URL with `strconv.Quote`, whose notion
of a printable rune above U+00FF is strconv's tables, a parameter here.

* `getScheme_valid`: a string that starts with a well-formed scheme and a
  `:` is read back as that scheme and the rest; `ValidScheme.www`: `www.`
  followed by a well-formed scheme is one.
* `urlString_scheme`: a URL with a scheme renders as `scheme:` followed by
  the rest.
* `parse_error_url`: every error of `Parse` is a `parse` error naming the
  target, cut at the fragment unless the fragment is what failed.
* `quote_plain`: `Quote` of printable ASCII without `"` or a backslash is the
  text between two quotes.
-/
namespace Defector.Go

/-! ## UTF-8 and `strconv.Quote` -/

/-- The bytes of a string, as Go holds it. -/
def utf8 (s : List Char) : Bytes := s.flatMap String.utf8EncodeChar

/-- `utf8.DecodeRuneInString`: the first rune of `s` and its width; `RuneError`
(U+FFFD) of width 1 where no valid encoding starts.
mirrors unicode/utf8/utf8.go `DecodeRuneInString` (the `first` and `acceptRanges` tables) -/
def decodeRune : Bytes → Nat × Nat
  | [] => (0xFFFD, 0)
  | b0 :: rest =>
    let x := b0.toNat
    if x < 0x80 then (x, 1)
    else if x < 0xC2 ∨ 0xF4 < x then (0xFFFD, 1)
    else
      let lo := if x = 0xE0 then 0xA0 else if x = 0xF0 then 0x90 else 0x80
      let hi := if x = 0xED then 0x9F else if x = 0xF4 then 0x8F else 0xBF
      let cont (b : UInt8) : Bool := 0x80 ≤ b.toNat && b.toNat ≤ 0xBF
      match rest with
      | b1 :: rest1 =>
        if b1.toNat < lo ∨ hi < b1.toNat then (0xFFFD, 1)
        else if x < 0xE0 then ((x % 32) * 64 + b1.toNat % 64, 2)
        else match rest1 with
          | b2 :: rest2 =>
            if !cont b2 then (0xFFFD, 1)
            else if x < 0xF0 then ((x % 16) * 4096 + (b1.toNat % 64) * 64 + b2.toNat % 64, 3)
            else match rest2 with
              | b3 :: _ =>
                if !cont b3 then (0xFFFD, 1)
                else ((x % 8) * 262144 + (b1.toNat % 64) * 4096 + (b2.toNat % 64) * 64 +
                  b3.toNat % 64, 4)
              | [] => (0xFFFD, 1)
          | [] => (0xFFFD, 1)
      | [] => (0xFFFD, 1)

/-- `strconv.IsPrint`: Latin-1 as Go tests it; above U+00FF, strconv's tables,
given as `tables`.
mirrors strconv/quote.go `IsPrint` -/
def isPrint (tables : Nat → Bool) (r : Nat) : Bool :=
  if r ≤ 0xFF then (0x20 ≤ r && r ≤ 0x7E) || (0xA1 ≤ r && r ≠ 0xAD) else tables r

/-- `lowerhex[n]` and `upperhex[n]`. -/
def lowerhex (n : Nat) : Char := Nat.digitChar n

def upperhex (n : Nat) : Char := if n < 10 then Nat.digitChar n else Char.ofNat (55 + n)

/-- The last `k` hex digits of `r`, lower case, most significant first. -/
def hexDigits (k r : Nat) : List Char := (List.range k).reverse.map fun s => lowerhex (r / 16 ^ s % 16)

/-- `appendEscapedRune` for `Quote` (quote `"`, neither ASCII-only nor graphic-only).
mirrors strconv/quote.go `appendEscapedRune` -/
def escapeRune (tables : Nat → Bool) (r : Nat) : List Char :=
  let bs := Char.ofNat 92
  if r = 34 ∨ r = 92 then [bs, Char.ofNat r]
  else if isPrint tables r then [Char.ofNat r]
  else match r with
    | 7 => [bs, 'a']
    | 8 => [bs, 'b']
    | 12 => [bs, 'f']
    | 10 => [bs, 'n']
    | 13 => [bs, 'r']
    | 9 => [bs, 't']
    | 11 => [bs, 'v']
    | _ =>
      if r < 0x20 ∨ r = 0x7F then bs :: 'x' :: hexDigits 2 r
      else if r < 0x10000 then bs :: 'u' :: hexDigits 4 r
      else bs :: 'U' :: hexDigits 8 r

/-- The loop of `appendQuotedWith` over the bytes of `s`; each turn reads at least one
byte, so `fuel = len(s)` is enough.
mirrors strconv/quote.go `appendQuotedWith` -/
def quoteLoop (tables : Nat → Bool) : Nat → Bytes → List Char
  | 0, _ => []
  | _, [] => []
  | fuel + 1, b :: rest =>
    let (r, width) := if b.toNat < 0x80 then (b.toNat, 1) else decodeRune (b :: rest)
    if width = 1 ∧ r = 0xFFFD then Char.ofNat 92 :: 'x' :: hexDigits 2 b.toNat ++ quoteLoop tables fuel rest
    else escapeRune tables r ++ quoteLoop tables fuel ((b :: rest).drop width)

/-- `strconv.Quote(s)`, which `%q` prints for a string. -/
def quote (tables : Nat → Bool) (s : Bytes) : String :=
  ⟨Char.ofNat 34 :: quoteLoop tables s.length s ++ [Char.ofNat 34]⟩

/-- A byte that `Quote` writes as it is. -/
def Plain (b : UInt8) : Prop := 0x20 ≤ b.toNat ∧ b.toNat < 0x7F ∧ b.toNat ≠ 34 ∧ b.toNat ≠ 92

theorem quoteLoop_plain (tables : Nat → Bool) :
    ∀ (s : Bytes), (∀ b ∈ s, Plain b) → ∀ fuel, s.length ≤ fuel →
      quoteLoop tables fuel s = s.map fun b => Char.ofNat b.toNat
  | [], _, fuel, _ => by cases fuel <;> rfl
  | b :: rest, h, fuel + 1, hf => by
    obtain ⟨h1, h2, h3, h4⟩ := h b (List.mem_cons_self _ _)
    have hp : isPrint tables b.toNat = true := by
      unfold isPrint
      rw [if_pos (by omega)]
      simp only [Bool.or_eq_true, Bool.and_eq_true, decide_eq_true_eq]
      omega
    simp only [quoteLoop, if_pos (show b.toNat < 0x80 by omega), escapeRune, h3, h4, hp,
      or_self, if_false, if_true, List.drop_one, List.tail_cons, List.map_cons, List.singleton_append,
      if_neg (show ¬ (True ∧ b.toNat = 65533) by omega)]
    rw [quoteLoop_plain tables rest (fun c hc => h c (List.mem_cons_of_mem _ hc)) fuel
      (by simp only [List.length_cons] at hf; omega)]

theorem quote_plain (tables : Nat → Bool) (s : Bytes) (h : ∀ b ∈ s, Plain b) :
    quote tables s = ⟨Char.ofNat 34 :: s.map (fun b => Char.ofNat b.toNat) ++ [Char.ofNat 34]⟩ := by
  rw [quote, quoteLoop_plain tables s h _ le_rfl]

/-! ## Percent-encoding -/

/-- The parts of a URL that `escape` and `unescape` treat differently (Go's `encoding`;
the others do not occur in `Parse`). -/
inductive Encoding where
  | path
  | host
  | zone
  | userPassword
  | fragment
  deriving DecidableEq, Repr

/-- `shouldEscape(c, mode)`: whether `escape` writes byte `c` as `%XX`.
mirrors net/url/url.go `shouldEscape` -/
def shouldEscape (mode : Encoding) (c : UInt8) : Bool :=
  let ch := Char.ofNat c.toNat
  if c.toNat < 0x80 ∧ ch.isAlphanum then false
  else if (mode = .host ∨ mode = .zone) ∧ ch ∈ "!$&'()*+,;=:[]<>\"".data then false
  else if ch ∈ "-_.~".data then false
  else if ch ∈ "$&+,/:;=?@".data then
    match mode with
    | .path => ch = '?'
    | .userPassword => ch = '@' ∨ ch = '/' ∨ ch = '?' ∨ ch = ':'
    | .fragment => false
    | .host | .zone => true
  else if mode = .fragment ∧ ch ∈ "!()*".data then false
  else true

/-- `validEncoded(s, mode)`: every byte may stand unescaped, or is a `%`.
mirrors net/url/url.go `validEncoded` -/
def validEncoded (mode : Encoding) (s : Bytes) : Bool :=
  s.all fun c => Char.ofNat c.toNat ∈ "!$&'()*+,;=:@[]%".data || !shouldEscape mode c

def ishex (c : UInt8) : Bool :=
  (48 ≤ c.toNat && c.toNat ≤ 57) || (97 ≤ c.toNat && c.toNat ≤ 102) || (65 ≤ c.toNat && c.toNat ≤ 70)

def unhex (c : UInt8) : Nat :=
  if c.toNat ≤ 57 then c.toNat - 48 else if c.toNat ≤ 70 then c.toNat - 55 else c.toNat - 87

/-- What `Parse` can fail with below `url.Error`. -/
inductive ParseError where
  /-- `errors.New("net/url: invalid control character in URL")` -/
  | controlChar
  /-- `errors.New("missing protocol scheme")` -/
  | missingScheme
  /-- `errors.New("first path segment in URL cannot contain colon")` -/
  | colonInFirstSegment
  /-- `errors.New("net/url: invalid userinfo")` -/
  | invalidUserinfo
  /-- `errors.New("missing ']' in host")` -/
  | missingBracket
  /-- `fmt.Errorf("invalid port %q after host", colonPort)` -/
  | invalidPort (colonPort : Bytes)
  /-- `EscapeError`: a `%` without two hex digits, or an escape a host or zone may not hold -/
  | escape (s : Bytes)
  /-- `InvalidHostError`: an ASCII byte a host may not hold -/
  | invalidHost (s : Bytes)
  deriving DecidableEq, Repr

/-- `unescape(s, mode)`: each `%XX` decoded to its byte, after the checks of the first loop.
mirrors net/url/url.go `unescape` -/
def unescape (mode : Encoding) : Bytes → Except ParseError Bytes
  | [] => .ok []
  | c :: rest =>
    if c.toNat = 37 then
      match rest with
      | h1 :: h2 :: rest' =>
        if ishex h1 && ishex h2 then
          let v := unhex h1 * 16 + unhex h2
          let pct25 := h1.toNat = 50 ∧ h2.toNat = 53
          if mode = .host ∧ unhex h1 < 8 ∧ ¬ pct25 then .error (.escape [c, h1, h2])
          else if mode = .zone ∧ ¬ pct25 ∧ v ≠ 32 ∧ shouldEscape .host v.toUInt8 then
            .error (.escape [c, h1, h2])
          else (unescape mode rest').map (v.toUInt8 :: ·)
        else .error (.escape [c, h1, h2])
      | _ => .error (.escape (c :: rest))
    else if (mode = .host ∨ mode = .zone) ∧ c.toNat < 0x80 ∧ shouldEscape mode c then
      .error (.invalidHost [c])
    else (unescape mode rest).map (c :: ·)

/-- `escape(s, mode)`: every byte `shouldEscape` picks as `%` and two upper-case hex digits.
mirrors net/url/url.go `escape` -/
def escape (mode : Encoding) (s : Bytes) : String :=
  ⟨s.flatMap fun c =>
    if shouldEscape mode c then ['%', upperhex (c.toNat / 16), upperhex (c.toNat % 16)]
    else [Char.ofNat c.toNat]⟩

/-- `EscapedPath` after `setPath(p)` decoded `p` to `path`: `RawPath` is `p` unless the
default encoding gives `p` back, and `unescape(RawPath)` is `path` by construction.
mirrors net/url/url.go `setPath`, `EscapedPath` -/
def escapedPath (p : List Char) (path : Bytes) : String :=
  let rawPath := if escape .path path = ⟨p⟩ then [] else p
  if rawPath ≠ [] ∧ validEncoded .path (utf8 rawPath) then ⟨rawPath⟩
  else if path = [42] then "*"
  else escape .path path

/-- `EscapedFragment` after `setFragment(f)` decoded `f` to `frag`.
mirrors net/url/url.go `setFragment`, `EscapedFragment` -/
def escapedFragment (f : List Char) (frag : Bytes) : String :=
  let rawFragment := if escape .fragment frag = ⟨f⟩ then [] else f
  if rawFragment ≠ [] ∧ validEncoded .fragment (utf8 rawFragment) then ⟨rawFragment⟩
  else escape .fragment frag

/-! ## `Parse` -/

/-- The fields of Go's `url.URL` that `Parse` sets and `String` reads; the host, the
userinfo, the path and the fragment in the escaped form `String` writes. -/
structure URL where
  scheme : String := ""
  opaquePart : String := ""
  user : Option String := none
  host : String := ""
  omitHost : Bool := false
  path : String := ""
  forceQuery : Bool := false
  rawQuery : String := ""
  fragment : String := ""
  deriving DecidableEq, Repr

/-- `*url.Error`: the operation, the URL and the error. -/
structure URL.Error where
  op : String
  url : Bytes
  err : ParseError
  deriving DecidableEq, Repr

/-- What `Error()` prints for each error. -/
def ParseError.text (tables : Nat → Bool) : ParseError → String
  | .controlChar => "net/url: invalid control character in URL"
  | .missingScheme => "missing protocol scheme"
  | .colonInFirstSegment => "first path segment in URL cannot contain colon"
  | .invalidUserinfo => "net/url: invalid userinfo"
  | .missingBracket => "missing ']' in host"
  | .invalidPort colonPort => "invalid port " ++ quote tables colonPort ++ " after host"
  | .escape s => "invalid URL escape " ++ quote tables s
  | .invalidHost s => "invalid character " ++ quote tables s ++ " in host name"

/-- `(*url.Error).Error()`: `fmt.Sprintf("%s %q: %s", e.Op, e.URL, e.Err)`. -/
def URL.Error.text (tables : Nat → Bool) (e : URL.Error) : String :=
  e.op ++ " " ++ quote tables e.url ++ ": " ++ e.err.text tables

/-- Characters of a scheme after its first letter. -/
def isSchemeChar (c : Char) : Bool := c.isAlphanum || c = '+' || c = '-' || c = '.'

/-- The scheme scan: letters, then letters, digits, `+`, `-` or `.`, up to a `:`.
Returns the scheme and the rest; no scheme if the scan meets anything else first.
mirrors net/url/url.go `getScheme` -/
def getScheme (raw : List Char) : Except ParseError (List Char × List Char) :=
  go raw []
where
  /-- `acc` is the scheme read so far, reversed. -/
  go : List Char → List Char → Except ParseError (List Char × List Char)
    | [], _ => .ok ([], raw)
    | c :: cs, acc =>
      if c.isAlpha then go cs (c :: acc)
      else if c.isDigit || c = '+' || c = '-' || c = '.' then
        if acc = [] then .ok ([], raw) else go cs (c :: acc)
      else if c = ':' then
        if acc = [] then .error .missingScheme else .ok (acc.reverse, cs)
      else .ok ([], raw)

/-- `strings.Cut(s, sep)` for a one-character separator. -/
def cut (s : List Char) (sep : Char) : List Char × List Char × Bool :=
  match s.findIdx? (· = sep) with
  | some i => (s.take i, s.drop (i + 1), true)
  | none => (s, [], false)

/-- `strings.LastIndex(s, sep)` for a one-character separator. -/
def lastIndex (s : List Char) (sep : Char) : Option Nat :=
  (s.reverse.findIdx? (· = sep)).map fun i => s.length - 1 - i

/-- `strings.Index(s, sub)`. -/
def indexOf (s sub : List Char) : Option Nat :=
  (List.range (s.length + 1)).find? fun j => sub.isPrefixOf (s.drop j)

/-- `validOptionalPort`: empty, or `:` and decimal digits.
mirrors net/url/url.go `validOptionalPort` -/
def validOptionalPort : List Char → Bool
  | [] => true
  | c :: port => c = ':' && port.all Char.isDigit

/-- `parseHost`: a bracketed IPv6 literal, with a `%25` zone, and an optional port; or a
name with a decimal port after its last `:`; then the bytes of the host checked and
decoded. The result is `escape(host, encodeHost)`, as `String` writes it.
mirrors net/url/url.go `parseHost` -/
def parseHost (host : List Char) : Except ParseError String := do
  if host.head? = some '[' then
    match lastIndex host ']' with
    | none => throw .missingBracket
    | some i =>
      let colonPort := host.drop (i + 1)
      if !validOptionalPort colonPort then throw (.invalidPort (utf8 colonPort))
      match indexOf (host.take i) "%25".data with
      | some zone =>
        let host1 ← unescape .host (utf8 (host.take zone))
        let host2 ← unescape .zone (utf8 ((host.take i).drop zone))
        let host3 ← unescape .host (utf8 (host.drop i))
        return escape .host (host1 ++ host2 ++ host3)
      | none => return escape .host (← unescape .host (utf8 host))
  else
    if let some i := lastIndex host ':' then
      if !validOptionalPort (host.drop i) then throw (.invalidPort (utf8 (host.drop i)))
    return escape .host (← unescape .host (utf8 host))

/-- The characters `validUserinfo` lets through. -/
def isUserinfoChar (c : Char) : Bool :=
  (c.toNat < 0x80 && c.isAlphanum) || c ∈ "-._:~!$&'()*+,;=%@".data

/-- `parseAuthority`: userinfo before the last `@`, then the host. `String` writes the
userinfo as `escape(username, encodeUserPassword)`, then `:` and the escaped password.
mirrors net/url/url.go `parseAuthority`, `validUserinfo`, `(*Userinfo).String` -/
def parseAuthority (authority : List Char) : Except ParseError (Option String × String) :=
  match lastIndex authority '@' with
  | none => do
    let host ← parseHost authority
    return (none, host)
  | some i => do
    let host ← parseHost (authority.drop (i + 1))
    let userinfo := authority.take i
    if !userinfo.all isUserinfoChar then throw .invalidUserinfo
    if ':' ∉ userinfo then
      let username ← unescape .userPassword (utf8 userinfo)
      return (some (escape .userPassword username), host)
    else
      let (username, password, _) := cut userinfo ':'
      let username ← unescape .userPassword (utf8 username)
      let password ← unescape .userPassword (utf8 password)
      return (some (escape .userPassword username ++ ":" ++ escape .userPassword password), host)

/-- `parse(rawURL, viaRequest := false)`, on the part before the `#`.
mirrors net/url/url.go `parse` -/
def parseRef (raw : List Char) : Except ParseError URL := do
  if raw.any (fun c => c.toNat < 0x20 || c.toNat = 0x7f) then throw .controlChar
  if raw = ['*'] then return { path := "*" }
  let (scheme, rest) ← getScheme raw
  let scheme : String := ⟨scheme.map Char.toLower⟩
  let (rest, forceQuery, rawQuery) :=
    if rest.getLast? = some '?' ∧ rest.count '?' = 1 then (rest.dropLast, true, [])
    else let (r, q, _) := cut rest '?'; (r, false, q)
  let u : URL := { scheme, forceQuery, rawQuery := ⟨rawQuery⟩ }
  if rest.head? ≠ some '/' then
    if scheme ≠ "" then return { u with opaquePart := ⟨rest⟩ }
    if ':' ∈ (cut rest '/').1 then throw .colonInFirstSegment
  if (scheme ≠ "" ∨ ¬ rest.take 3 = ['/', '/', '/']) ∧ rest.take 2 = ['/', '/'] then
    let (authority, path, found) := cut (rest.drop 2) '/'
    let (user, host) ← parseAuthority authority
    let p := if found then '/' :: path else []
    return { u with user, host, path := escapedPath p (← unescape .path (utf8 p)) }
  else
    return { u with
      omitHost := scheme ≠ "" ∧ rest.head? = some '/'
      path := escapedPath rest (← unescape .path (utf8 rest)) }

/-- `url.Parse`: cut the fragment at the first `#`, parse the rest, then set the fragment.
mirrors net/url/url.go `Parse` -/
def parse (raw : String) : Except URL.Error URL :=
  let (u, frag, _) := cut raw.data '#'
  match parseRef u with
  | .error e => .error ⟨"parse", utf8 u, e⟩
  | .ok url =>
    if frag = [] then .ok url
    else match unescape .fragment (utf8 frag) with
      | .error e => .error ⟨"parse", utf8 raw.data, e⟩
      | .ok f => .ok { url with fragment := escapedFragment frag f }

theorem parse_error_url {raw : String} {e : URL.Error} (h : parse raw = .error e) :
    e.op = "parse" ∧ (e.url = utf8 (cut raw.data '#').1 ∨ e.url = utf8 raw.data) := by
  simp only [parse] at h
  split at h
  · cases h; exact ⟨rfl, .inl rfl⟩
  · split at h
    · cases h
    · split at h
      · cases h; exact ⟨rfl, .inr rfl⟩
      · cases h

/-- `(*URL).String`.
mirrors net/url/url.go `(*URL).String` -/
def urlString (u : URL) : String :=
  let pre : String := if u.scheme ≠ "" then u.scheme ++ ":" else ""
  let body : String :=
    if u.opaquePart ≠ "" then u.opaquePart else
    let auth : String :=
      if u.scheme ≠ "" ∨ u.host ≠ "" ∨ u.user.isSome then
        if u.omitHost ∧ u.host = "" ∧ u.user.isNone then ""
        else (if u.host ≠ "" ∨ u.path ≠ "" ∨ u.user.isSome then "//" else "") ++
          (match u.user with | some ui => ui ++ "@" | none => "") ++ u.host
      else ""
    let sep : String := if u.path ≠ "" ∧ u.path.data.head? ≠ some '/' ∧ u.host ≠ "" then "/" else ""
    let dot : String :=
      if pre ++ auth ++ sep = "" ∧ ':' ∈ (cut u.path.data '/').1 then "./" else ""
    auth ++ sep ++ dot ++ u.path
  let query : String := if u.forceQuery ∨ u.rawQuery ≠ "" then "?" ++ u.rawQuery else ""
  let frag : String := if u.fragment ≠ "" then "#" ++ u.fragment else ""
  pre ++ body ++ query ++ frag

/-! ## The scheme a string starts with -/

/-- A scheme `getScheme` reads to its `:`: a letter, then scheme characters. -/
def ValidScheme : List Char → Prop
  | [] => False
  | c :: cs => c.isAlpha ∧ ∀ d ∈ cs, isSchemeChar d

instance : DecidablePred ValidScheme
  | [] => isFalse id
  | c :: cs => inferInstanceAs (Decidable (c.isAlpha ∧ ∀ d ∈ cs, isSchemeChar d))

theorem getScheme_go_colon (raw s rest acc : List Char) (hacc : acc ≠ [])
    (hs : ∀ c ∈ s, isSchemeChar c) :
    getScheme.go raw (s ++ ':' :: rest) acc = .ok (acc.reverse ++ s, rest) := by
  induction s generalizing acc with
  | nil => simp [getScheme.go, hacc]
  | cons c s ih =>
    simp only [List.mem_cons, forall_eq_or_imp] at hs
    have hc : c.isAlpha ∨ (c.isDigit || c = '+' || c = '-' || c = '.') := by
      simpa [isSchemeChar, Char.isAlphanum, Bool.or_assoc] using hs.1
    rw [List.cons_append, getScheme.go, ih _ (List.cons_ne_nil c acc) hs.2]
    rcases hc with hc | hc
    · simp [hc]
    · simp [hc, hacc]

theorem getScheme_valid (s rest : List Char) (hs : ValidScheme s) :
    getScheme (s ++ ':' :: rest) = .ok (s, rest) := by
  obtain _ | ⟨c, s⟩ := s
  · exact hs.elim
  · have h := getScheme_go_colon (c :: s ++ ':' :: rest) s rest [c] (List.cons_ne_nil c []) hs.2
    simpa [getScheme, getScheme.go, hs.1] using h

theorem ValidScheme.www {s : List Char} (hs : ValidScheme s) : ValidScheme ("www.".data ++ s) := by
  obtain _ | ⟨c, s⟩ := s
  · exact hs.elim
  · refine ⟨by decide, ?_⟩
    have hc : isSchemeChar c := by simp [isSchemeChar, Char.isAlphanum, hs.1]
    show ∀ d ∈ ['w', 'w', '.'] ++ c :: s, isSchemeChar d
    simp only [List.cons_append, List.nil_append, List.mem_cons, forall_eq_or_imp]
    exact ⟨by decide, by decide, by decide, hc, hs.2⟩

theorem urlString_scheme (u : URL) (h : u.scheme ≠ "") :
    ∃ rest, (urlString u).data = u.scheme.data ++ ':' :: rest := by
  simp [urlString, h]

example : (parse "a.com").toOption.map urlString = some "a.com" := by decide
example : (parse "a.com").toOption.map (fun u => urlString { u with scheme := "http" }) =
    some "http://a.com" := by decide
example : (parse "https://www.a.com/x?q=1").toOption.map urlString =
    some "https://www.a.com/x?q=1" := by decide
/-- A bracketed IPv6 host with a port, and the escaped forms of a non-ASCII host and a space
in the path. -/
example : (parse "http://[::1]:80/").toOption.map urlString = some "http://[::1]:80/" := by decide
example : (parse "http://é.com/a b").toOption.map urlString = some "http://%C3%A9.com/a%20b" := by
  decide

/-- A space in the host, and what the loader prints for it. -/
example : (match parse "http://a b/" with
    | .error e => e.text fun _ => false
    | .ok _ => "") = "parse \"http://a b/\": invalid character \" \" in host name" := by
  decide

end Defector.Go
