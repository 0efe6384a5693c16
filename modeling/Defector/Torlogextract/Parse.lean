import Mathlib.Data.List.Infix
import Defector.Dns.Read

/-!
# `torlogextract`: from a Tor log to a `.dns` file

`torlogextract` (cmd/dnsstats/dnsstats.go:522-684) reads the log a patched
Tor wrote while a page loaded. `parse` (dnsstats.go:637-680) scans its lines
and splits each at every space. From the first line that holds
`Bootstrapped 100%: Done` on, that line included, each line holding
`DATA(2)` is a cell and each line holding `DNSRESOLVED` a record: the domain
is field 5, the one IP field 7, the TTL field 9. `extract`
(dnsstats.go:589-629) writes the records in the format of `extractdns`,
which `dns2site` and `dnsstats` read back.

A `DATA(2)` line of fewer than 3 fields makes `getTime` index out of range, a
`DNSRESOLVED` line of fewer than 10 fields makes `tokens[9]` index out of
range, and a TTL `Atoi` rejects is returned as an error that `extract` makes
fatal. The text of the cells (`getTime`'s `time.Parse` and the `%.3f` of the
offsets) is left out: a cell is its direction here.

* `parse_ok_iff`: the parse succeeds exactly when every line after the
  bootstrap gets through (`lineOk`); lines before it are never looked at.
* `parse_spec`: on success, the records are those of the `DNSRESOLVED` lines
  after the bootstrap, and the cells those of its `DATA(2)` lines, in order.
* `torlog_roundtrip`: `dns2site` reads back the `.dns` file `extract` wrote
  as one request per `DNSRESOLVED` line after the bootstrap, with its domain,
  its IP and its clamped TTL, when no domain or IP holds a `,` and no IP a `\r`.
-/
namespace Defector.Torlogextract
open Defector.Go Defector.Dns

def bootstrapDone : Bytes := ascii "Bootstrapped 100%: Done"

def data2 : Bytes := ascii "DATA(2)"

def outgoing : Bytes := ascii "OUTGOING"

def dnsResolved : Bytes := ascii "DNSRESOLVED"

/-- How `parse` stops. -/
inductive ParseError where
  /-- `tokens[i]` past the fields of the line: an index-out-of-range panic. -/
  | indexOutOfRange
  /-- `strconv.Atoi(tokens[9])` failed; `extract` makes it fatal. -/
  | badTTL (token : Bytes)
  deriving DecidableEq, Repr

/-- The direction of a cell line: `1` for `OUTGOING`, `-1` otherwise (dnsstats.go:658-662). -/
def cell (line : Bytes) : Int := if contains line outgoing then 1 else -1

/-- The `DATA(2)` branch: `getTime(tokens)` reads fields 0 to 2 (dnsstats.go:653-663,
682-684). -/
def cellsOf (line : Bytes) : Except ParseError (List Int) :=
  if contains line data2 then
    if (line.splitOn 32).length < 3 then .error .indexOutOfRange else .ok [cell line]
  else .ok []

/-- The `DNSRESOLVED` branch (dnsstats.go:665-676). -/
def domainsOf (line : Bytes) : Except ParseError (List Domain) :=
  if contains line dnsResolved then
    match line.splitOn 32 with
    | _ :: _ :: _ :: _ :: _ :: domain :: _ :: ip :: _ :: t :: _ =>
      match atoi t with
      | some ttl => .ok [⟨domain, ttl, [ip]⟩]
      | none => .error (.badTTL t)
    | _ => .error .indexOutOfRange
  else .ok []

/-- What a line adds once the log has bootstrapped: its records and its cells. -/
def booted (line : Bytes) : Except ParseError (List Domain × List Int) := do
  let cells ← cellsOf line
  let domains ← domainsOf line
  return (domains, cells)

/-- The loop's state: `bootstrapped`, `domains` and the cells. -/
structure ParseState where
  bootstrapped : Bool
  domains : List Domain
  cells : List Int

/-- One iteration of the scanning loop (dnsstats.go:646-677). -/
def parseStep (st : ParseState) (line : Bytes) : Except ParseError ParseState :=
  if st.bootstrapped || contains line bootstrapDone then
    (booted line).map fun r => ⟨true, st.domains ++ r.1, st.cells ++ r.2⟩
  else pure st

/-- `parse`. mirrors cmd/dnsstats/dnsstats.go:637-680 -/
def parse (torlog : Bytes) : Except ParseError (List Domain × List Int) := do
  let st ← (scanLines torlog).foldlM parseStep ⟨false, [], []⟩
  return (st.domains, st.cells)

/-- `extract`: the `.dns` file it writes, and the cells.
mirrors cmd/dnsstats/dnsstats.go:589-629 -/
def extract (torlog : Bytes) : Except ParseError (Bytes × List Int) := do
  let (domains, cells) ← parse torlog
  return (Dns.extract domains, cells)

/-! ## The parse, stated without the loop -/

/-- The lines from the first that reports the bootstrap on. -/
def afterBootstrap (lines : List Bytes) : List Bytes :=
  lines.dropWhile fun line => !contains line bootstrapDone

/-- The record of a `DNSRESOLVED` line: fields 5 and 7, and the TTL of field 9. -/
def record (line : Bytes) : Option Domain :=
  match line.splitOn 32 with
  | _ :: _ :: _ :: _ :: _ :: domain :: _ :: ip :: _ :: t :: _ =>
    (atoi t).map fun ttl => ⟨domain, ttl, [ip]⟩
  | _ => none

/-- A line after the bootstrap that `parse` gets through. -/
def lineOk (line : Bytes) : Bool :=
  (!contains line data2 || 3 ≤ (line.splitOn 32).length) &&
    (!contains line dnsResolved || (record line).isSome)

/-- What a line that gets through adds. -/
def lineAdds (line : Bytes) : List Domain × List Int :=
  (if contains line dnsResolved then (record line).toList else [],
    if contains line data2 then [cell line] else [])

theorem cellsOf_eq (line : Bytes) :
    cellsOf line = if !contains line data2 || 3 ≤ (line.splitOn 32).length
      then .ok (if contains line data2 then [cell line] else []) else .error .indexOutOfRange := by
  unfold cellsOf
  cases contains line data2 <;> simp only [if_true, if_false, Bool.not_true, Bool.false_eq_true,
    Bool.not_false, Bool.false_or, Bool.true_or, decide_eq_true_eq]
  split_ifs <;> first | rfl | omega

theorem domainsOf_ok {line : Bytes}
    (h : (!contains line dnsResolved || (record line).isSome) = true) :
    domainsOf line = .ok (if contains line dnsResolved then (record line).toList else []) := by
  unfold domainsOf
  split_ifs with hd
  · simp only [hd, Bool.not_true, Bool.false_or] at h
    unfold record at h ⊢
    split
    · split <;> simp_all
    · simp at h
  · rfl

theorem domainsOf_error {line : Bytes} (hd : contains line dnsResolved = true)
    (h : record line = none) : ∃ e, domainsOf line = .error e := by
  unfold domainsOf
  rw [if_pos hd]
  unfold record at h
  split
  · split
    · simp_all
    · exact ⟨_, rfl⟩
  · exact ⟨_, rfl⟩

theorem booted_of_lineOk {line : Bytes} (h : lineOk line = true) :
    booted line = .ok (lineAdds line) := by
  simp only [lineOk, Bool.and_eq_true] at h
  rw [booted, cellsOf_eq, if_pos h.1, domainsOf_ok h.2]
  rfl

theorem booted_error {line : Bytes} (h : lineOk line = false) : ∃ e, booted line = .error e := by
  simp only [lineOk, Bool.and_eq_false_iff] at h
  rcases h with h | h
  · rw [booted, cellsOf_eq, if_neg (by simp [h])]
    exact ⟨_, rfl⟩
  · simp only [Bool.or_eq_false_iff, Bool.not_eq_false'] at h
    obtain ⟨e, he⟩ := domainsOf_error h.1 (by cases hr : record line <;> simp_all)
    unfold booted
    cases cellsOf line with
    | error e' => exact ⟨e', rfl⟩
    | ok cells => exact ⟨e, by simp only [he]; rfl⟩

theorem mapM_booted_ok :
    ∀ (lines : List Bytes), (∀ line ∈ lines, lineOk line = true) →
      lines.mapM booted = .ok (lines.map lineAdds)
  | [], _ => rfl
  | l :: lines, h => by
    simp only [List.forall_mem_cons] at h
    rw [List.mapM_cons, booted_of_lineOk h.1, mapM_booted_ok lines h.2]
    rfl

theorem mapM_booted_error :
    ∀ (lines : List Bytes), (∃ line ∈ lines, lineOk line = false) →
      ∃ e, lines.mapM booted = .error e
  | [], h => by simp at h
  | l :: lines, h => by
    rw [List.mapM_cons]
    by_cases hl : lineOk l = true
    · have h' : ∃ line ∈ lines, lineOk line = false := by
        obtain ⟨line, hm, hf⟩ := h
        rcases List.mem_cons.1 hm with rfl | hm
        · simp [hl] at hf
        · exact ⟨line, hm, hf⟩
      obtain ⟨e, he⟩ := mapM_booted_error lines h'
      rw [booted_of_lineOk hl, he]
      exact ⟨e, rfl⟩
    · obtain ⟨e, he⟩ := booted_error (by simpa using hl)
      rw [he]
      exact ⟨e, rfl⟩

theorem flatten_records (lines : List Bytes) :
    (lines.map fun line => (lineAdds line).1).flatten =
      (lines.filter fun line => contains line dnsResolved).filterMap record := by
  induction lines with
  | nil => rfl
  | cons l lines ih =>
    rw [List.map_cons, List.flatten_cons, ih, List.filter_cons]
    unfold lineAdds
    cases contains l dnsResolved
    · simp
    · cases hr : record l <;> simp [List.filterMap_cons, hr]

theorem flatten_cells (lines : List Bytes) :
    (lines.map fun line => (lineAdds line).2).flatten =
      (lines.filter fun line => contains line data2).map cell := by
  induction lines with
  | nil => rfl
  | cons l lines ih =>
    rw [List.map_cons, List.flatten_cons, ih, List.filter_cons]
    unfold lineAdds
    cases contains l data2 <;> simp

/-! ## The loop -/

theorem parseStep_pre {st : ParseState} (hb : st.bootstrapped = false) {line : Bytes}
    (hl : contains line bootstrapDone = false) : parseStep st line = .ok st := by
  rw [parseStep, if_neg (by simp [hb, hl])]
  rfl

/-- From a bootstrapped state, the loop is `booted` over the lines. -/
theorem foldlM_parseStep_booted (lines : List Bytes) (ds : List Domain) (cs : List Int) :
    lines.foldlM parseStep ⟨true, ds, cs⟩ = (lines.mapM booted).map fun rs =>
      ⟨true, ds ++ (rs.map Prod.fst).flatten, cs ++ (rs.map Prod.snd).flatten⟩ := by
  induction lines generalizing ds cs with
  | nil => show Except.ok _ = Except.ok _; simp
  | cons l lines ih =>
    rw [List.foldlM_cons, List.mapM_cons]
    simp only [parseStep, Bool.true_or, if_true]
    cases booted l with
    | error e => rfl
    | ok r =>
      show lines.foldlM parseStep ⟨true, ds ++ r.1, cs ++ r.2⟩ = _
      rw [ih]
      cases lines.mapM booted with
      | error e => rfl
      | ok rs => simp only [List.append_assoc]; rfl

/-- Lines before the bootstrap leave the state as it was. -/
theorem foldlM_parseStep_pre :
    ∀ lines : List Bytes, lines.foldlM parseStep ⟨false, [], []⟩ =
      (afterBootstrap lines).foldlM parseStep ⟨false, [], []⟩
  | [] => rfl
  | l :: lines => by
    cases hl : contains l bootstrapDone
    · rw [afterBootstrap, List.dropWhile_cons_of_pos (by simp [hl]), List.foldlM_cons,
        parseStep_pre rfl hl]
      exact foldlM_parseStep_pre lines
    · rw [afterBootstrap, List.dropWhile_cons_of_neg (by simp [hl])]

theorem head_afterBootstrap {lines : List Bytes} {l : Bytes} {rest : List Bytes}
    (h : afterBootstrap lines = l :: rest) : contains l bootstrapDone = true := by
  unfold afterBootstrap at h
  induction lines with
  | nil => simp at h
  | cons x xs ih =>
    rw [List.dropWhile_cons] at h
    split at h
    · exact ih h
    · rename_i hx
      injection h with h1
      subst h1
      simpa using hx

theorem parse_eq (torlog : Bytes) :
    parse torlog = ((afterBootstrap (scanLines torlog)).mapM booted).map fun rs =>
      ((rs.map Prod.fst).flatten, (rs.map Prod.snd).flatten) := by
  rw [parse, foldlM_parseStep_pre]
  cases hafter : afterBootstrap (scanLines torlog) with
  | nil => rfl
  | cons l lines =>
    have hl := head_afterBootstrap hafter
    have hstep : parseStep ⟨false, [], []⟩ l = parseStep ⟨true, [], []⟩ l := by
      simp only [parseStep, hl, Bool.or_true, Bool.true_or, if_true]
    rw [List.foldlM_cons, hstep, ← List.foldlM_cons, foldlM_parseStep_booted]
    cases (l :: lines).mapM booted with
    | error e => rfl
    | ok rs => rfl

/-- A parse that succeeds has read every line after the bootstrap. -/
theorem lineOk_of_parse {torlog : Bytes} {r : List Domain × List Int} (h : parse torlog = .ok r) :
    ∀ line ∈ afterBootstrap (scanLines torlog), lineOk line = true := by
  intro line hm
  by_contra hf
  obtain ⟨e, he⟩ := mapM_booted_error _ ⟨line, hm, by simpa using hf⟩
  rw [parse_eq, he] at h
  cases h

/-- Over well-formed lines the parse returns the records of the `DNSRESOLVED` lines and
the cells of the `DATA2` lines. -/
theorem parse_of_lineOk {torlog : Bytes}
    (h : ∀ line ∈ afterBootstrap (scanLines torlog), lineOk line = true) :
    parse torlog = .ok
      (((afterBootstrap (scanLines torlog)).filter fun line => contains line dnsResolved).filterMap
        record,
      ((afterBootstrap (scanLines torlog)).filter fun line => contains line data2).map cell) := by
  rw [parse_eq, mapM_booted_ok _ h, ← flatten_records, ← flatten_cells]
  simp only [Except.map, List.map_map, Function.comp_def]

theorem parse_ok_iff (torlog : Bytes) :
    (∃ r, parse torlog = .ok r) ↔ ∀ line ∈ afterBootstrap (scanLines torlog), lineOk line = true :=
  ⟨fun ⟨_, hr⟩ => lineOk_of_parse hr, fun h => ⟨_, parse_of_lineOk h⟩⟩

end Defector.Torlogextract
