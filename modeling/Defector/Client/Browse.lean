import Defector.Dns.Read
import Defector.Server.Work

/-!
# The worker: `gotData`, `browseTB` and what it reports

The worker of the data collection (part_002:305-373) loops on the
coordinator's `Work` call: it reports the previous unit and gets the next,
browses to its URL with a patched Tor Browser and keeps what Tor printed on
stdout. `browseTB` (part_002:375-408) makes up to `-a` attempts; an attempt
fails when `clean()` fails or when `gotData` (part_002:451-477) does not find,
in that output, a `BEGIN(1)` cell going out, a resolved domain and the
bootstrap at 100%. When the last attempt has failed the worker reports the
four bytes `none` (part_002:366-370).

What happens in each attempt is up to the environment (the file system, the
browser, the network), so it is an oracle: `run i` is what attempt `i` did.

* `gotData_iff`: the scan with its early `return true` accepts an output
  exactly when the output has each of the three lines somewhere, in any order.
* `report_data`: the worker reports the output of the first accepted attempt;
  if there is none, `none`, or nothing at all when `-a` is not positive.
* `report_accepted_iff`: with the coordinator's `minDataLen` above 4 and at
  most 26 (the default is 25), the coordinator stores what the worker reports
  exactly when one of its attempts was accepted, since an accepted output is
  at least 26 bytes long (`length_of_gotData`); otherwise the unit goes back
  into the ledger.
-/
namespace Defector.Client

open Defector.Go Defector.Dns Defector.Server

/-! ## `gotData` -/

/-- The fifth field of a line, `tokens[4]`. -/
def field4 (tokens : List Bytes) : Bytes := tokens.getD 4 []

/-- A line `gotData` counts as a `BEGIN(1)` cell going out (part_002:458-461). -/
def isBegin (line : Bytes) : Bool :=
  let tokens := line.splitOn 32
  decide (tokens.length > 10 ∧ field4 tokens = ascii "OUTGOING" ∧
    tokens.getD 10 [] = ascii "BEGIN(1)")

/-- A line `gotData` counts as a resolved domain (part_002:462-463). -/
def isDomain (line : Bytes) : Bool :=
  let tokens := line.splitOn 32
  decide (tokens.length > 5 ∧ field4 tokens = ascii "DNSRESOLVED")

/-- A line `gotData` counts as the bootstrap at 100% (part_002:464-467). -/
def isBootstrap (line : Bytes) : Bool :=
  let tokens := line.splitOn 32
  decide (tokens.length > 6 ∧ field4 tokens = ascii "Bootstrapped" ∧
    tokens.getD 5 [] = ascii "100%:")

/-- The three flags of `gotData` (part_002:452-454). -/
structure Found where
  domain : Bool
  begin : Bool
  bootstrapped : Bool
  deriving DecidableEq, Repr

/-- `begin && domain && bootstrapped` (part_002:471). -/
def Found.all (st : Found) : Bool := st.begin && st.domain && st.bootstrapped

/-- The `switch tokens[4]` on one line (part_002:456-470). -/
def scanLine (st : Found) (line : Bytes) : Found :=
  let tokens := line.splitOn 32
  if tokens.length > 5 then
    if field4 tokens = ascii "OUTGOING" then
      if tokens.length > 10 ∧ tokens.getD 10 [] = ascii "BEGIN(1)" then { st with begin := true }
      else st
    else if field4 tokens = ascii "DNSRESOLVED" then { st with domain := true }
    else if field4 tokens = ascii "Bootstrapped" then
      if tokens.length > 6 ∧ tokens.getD 5 [] = ascii "100%:" then
        { st with bootstrapped := true }
      else st
    else st
  else st

/-- The scanning loop, which returns `true` as soon as all three flags are set
(part_002:455-475). -/
def scanFrom : Found → List Bytes → Bool
  | _, [] => false
  | st, line :: rest =>
    let st := scanLine st line
    if st.all then true else scanFrom st rest

/-- mirrors part_002:451-477 -/
def gotData (stdout : Bytes) : Bool := scanFrom ⟨false, false, false⟩ (scanLines stdout)

/-- The flags once every line of `lines` has been looked at. -/
def Found.seen (st : Found) (lines : List Bytes) : Found :=
  ⟨st.domain || lines.any isDomain, st.begin || lines.any isBegin,
    st.bootstrapped || lines.any isBootstrap⟩

/-- The three kinds of line have different fifth fields, so a line sets at most one flag. -/
theorem scanLine_eq (st : Found) (line : Bytes) : scanLine st line = st.seen [line] := by
  have h1 : ascii "OUTGOING" ≠ ascii "DNSRESOLVED" := by decide
  have h2 : ascii "OUTGOING" ≠ ascii "Bootstrapped" := by decide
  have h3 : ascii "DNSRESOLVED" ≠ ascii "Bootstrapped" := by decide
  cases st
  simp only [scanLine, Found.seen, isBegin, isDomain, isBootstrap, List.any_cons, List.any_nil,
    Bool.or_false]
  generalize line.splitOn 32 = tokens
  generalize tokens.getD 10 [] = t10
  generalize tokens.getD 5 [] = t5
  generalize field4 tokens = f4
  by_cases h5 : tokens.length > 5
  · split_ifs <;> simp_all
  · have h6 : ¬ tokens.length > 6 := by omega
    have h10 : ¬ tokens.length > 10 := by omega
    simp [h5, h6, h10]

theorem Found.all_seen {st : Found} (h : st.all) (lines : List Bytes) : (st.seen lines).all := by
  simp_all [Found.all, Found.seen]

@[simp] theorem Found.seen_nil (st : Found) : st.seen [] = st := by
  cases st; simp [Found.seen]

theorem Found.seen_cons (st : Found) (line : Bytes) (rest : List Bytes) :
    st.seen (line :: rest) = (st.seen [line]).seen rest := by
  simp only [Found.seen, List.any_cons, List.any_nil, Bool.or_false, Bool.or_assoc]

/-- The early `return true` changes nothing but the time taken: the loop answers whether
there is a line and every flag is set by the end. -/
theorem scanFrom_eq (st : Found) (lines : List Bytes) :
    scanFrom st lines = (!lines.isEmpty && (st.seen lines).all) := by
  induction lines generalizing st with
  | nil => rfl
  | cons line rest ih =>
    simp only [scanFrom, scanLine_eq, ih, st.seen_cons line rest]
    by_cases hall : (st.seen [line]).all
    · simp [hall, Found.all_seen hall]
    · cases rest <;> simp [hall]

theorem gotData_iff (stdout : Bytes) :
    gotData stdout = true ↔ (∃ line ∈ scanLines stdout, isBegin line) ∧
      (∃ line ∈ scanLines stdout, isDomain line) ∧
      (∃ line ∈ scanLines stdout, isBootstrap line) := by
  rw [gotData, scanFrom_eq]
  cases h : scanLines stdout with
  | nil => simp
  | cons line rest => simp [Found.seen, Found.all, List.any_eq_true, and_assoc]

/-- A line with `OUTGOING` as its fifth field and `BEGIN(1)` as its eleventh is at least
26 bytes long: 16 bytes of the two words and ten spaces. -/
theorem length_of_isBegin {line : Bytes} (h : isBegin line) : 26 ≤ line.length := by
  simp only [isBegin, field4, decide_eq_true_eq] at h
  obtain ⟨hlen, h4, h10⟩ := h
  have hsum := length_add_one_splitOn line 32
  match hsplit : line.splitOn 32, hlen, h4, h10 with
  | a0 :: a1 :: a2 :: a3 :: a4 :: a5 :: a6 :: a7 :: a8 :: a9 :: a10 :: rest, _, h4, h10 =>
    simp only [hsplit, List.map_cons, List.sum_cons] at hsum
    simp only [List.getD_cons_succ, List.getD_cons_zero] at h4 h10
    have : a4.length = 8 := by rw [h4]; rfl
    have : a10.length = 8 := by rw [h10]; rfl
    omega

theorem length_of_gotData {stdout : Bytes} (h : gotData stdout = true) : 26 ≤ stdout.length := by
  obtain ⟨⟨line, hline, hbegin⟩, -, -⟩ := (gotData_iff stdout).1 h
  exact (length_of_isBegin hbegin).trans (mem_scanLines hline).2.2.length_le

/-! ## `browseTB` -/

/-- What one attempt did: `clean()` failed with an error, or the browser ran and printed
`stdout` and `stderr`. -/
inductive Attempt where
  | cleanFailed (err : String)
  | ran (stdout stderr : Bytes)
  deriving DecidableEq, Repr

/-- The errors `browseTB` returns: that of `clean()`, or "didn't get enough data while
attempting to browse" with the browser's output (part_002:396-397). -/
inductive BrowseError where
  | clean (err : String)
  | notEnoughData (stdout stderr : Bytes)
  deriving DecidableEq, Repr

/-- The attempts from the `i`-th on, `n` of them left, `err` being the error so far
(part_002:376-407). -/
def browseLoop (run : Nat → Attempt) (i : Nat) :
    Nat → Option BrowseError → Bytes × Option BrowseError
  | 0, err => ([], err)
  | n + 1, _ =>
    match run i with
    | .cleanFailed e => browseLoop run (i + 1) n (some (.clean e))
    | .ran stdout stderr =>
      if gotData stdout then (stdout, none)
      else browseLoop run (i + 1) n (some (.notEnoughData stdout stderr))

/-- mirrors part_002:375-408; `for i := 0; i < *attempts; i++` runs `attempts.toNat` times -/
def browseTB (attempts : Int) (run : Nat → Attempt) : Bytes × Option BrowseError :=
  browseLoop run 0 attempts.toNat none

/-- The result the worker sends back with its next `Work` call (part_002:366-370). -/
def report (attempts : Int) (run : Nat → Attempt) (browse : Browse) : Browse :=
  let (data, err) := browseTB attempts run
  { browse with data := if err.isSome then ascii "none" else data }

/-- The output of attempt `i`, if it ran and `gotData` accepted it. -/
def acceptedOutput (run : Nat → Attempt) (i : Nat) : Option Bytes :=
  match run i with
  | .cleanFailed _ => none
  | .ran stdout _ => if gotData stdout then some stdout else none

theorem acceptedOutput_gotData {run : Nat → Attempt} {i : Nat} {out : Bytes}
    (h : acceptedOutput run i = some out) : gotData out = true := by
  unfold acceptedOutput at h
  split at h
  · cases h
  · split at h
    · cases h; assumption
    · cases h

/-- An attempt that is accepted ends the loop with its output. -/
theorem browseLoop_found (run : Nat → Attempt) {out : Bytes} :
    ∀ (i n : Nat) (err : Option BrowseError),
      (List.range' i n).findSome? (acceptedOutput run) = some out →
      browseLoop run i n err = (out, none)
  | i, 0, _, h => by simp at h
  | i, n + 1, _, h => by
    rw [List.range'_succ, List.findSome?_cons] at h
    cases hrun : run i with
    | cleanFailed e =>
      simp only [acceptedOutput, hrun] at h
      simpa [browseLoop, hrun] using browseLoop_found run (i + 1) n (some (.clean e)) h
    | ran stdout stderr =>
      by_cases hgot : gotData stdout
      · simp_all [acceptedOutput, browseLoop]
      · simp only [acceptedOutput, hrun, hgot, Bool.false_eq_true, if_false] at h
        simpa [browseLoop, hrun, hgot] using
          browseLoop_found run (i + 1) n (some (.notEnoughData stdout stderr)) h

/-- With no attempt accepted, the loop returns no data, and an error if it ran at all. -/
theorem browseLoop_none (run : Nat → Attempt) :
    ∀ (i n : Nat) (err : Option BrowseError),
      (List.range' i n).findSome? (acceptedOutput run) = none →
      (browseLoop run i n err).1 = [] ∧
        (browseLoop run i n err).2.isSome = (decide (0 < n) || err.isSome)
  | i, 0, _, _ => by simp [browseLoop]
  | i, n + 1, _, h => by
    rw [List.range'_succ, List.findSome?_cons] at h
    cases hrun : run i with
    | cleanFailed e =>
      simp only [acceptedOutput, hrun] at h
      simpa [browseLoop, hrun] using browseLoop_none run (i + 1) n (some (.clean e)) h
    | ran stdout stderr =>
      by_cases hgot : gotData stdout
      · simp [acceptedOutput, hrun, hgot] at h
      · simp only [acceptedOutput, hrun, hgot, Bool.false_eq_true, if_false] at h
        simpa [browseLoop, hrun, hgot] using
          browseLoop_none run (i + 1) n (some (.notEnoughData stdout stderr)) h

theorem report_data (attempts : Int) (run : Nat → Attempt) (browse : Browse) :
    (report attempts run browse).data =
      match (List.range attempts.toNat).findSome? (acceptedOutput run) with
      | some out => out
      | none => if 0 < attempts then ascii "none" else [] := by
  rw [List.range_eq_range']
  simp only [report, browseTB]
  cases h : (List.range' 0 attempts.toNat).findSome? (acceptedOutput run) with
  | some out => simp [browseLoop_found run 0 _ none h]
  | none =>
    obtain ⟨hdata, herr⟩ := browseLoop_none run 0 attempts.toNat none h
    simp only [herr, hdata, Option.isSome_none, Bool.or_false, decide_eq_true_eq, Int.lt_toNat,
      Nat.cast_zero]

/-- The worker reports either an accepted output, or `none`, or nothing. -/
theorem report_data_cases (attempts : Int) (run : Nat → Attempt) (browse : Browse) :
    (∃ i < attempts.toNat, acceptedOutput run i = some (report attempts run browse).data) ∨
      ((∀ i < attempts.toNat, acceptedOutput run i = none) ∧
        (report attempts run browse).data.length ≤ 4) := by
  rw [report_data]
  split
  · rename_i out h
    obtain ⟨i, hi, hout⟩ := List.exists_of_findSome?_eq_some h
    exact .inl ⟨i, List.mem_range.1 hi, hout⟩
  · rename_i h
    refine .inr ⟨fun i hi => List.findSome?_eq_none_iff.1 h i (List.mem_range.2 hi), ?_⟩
    split <;> decide

theorem report_accepted_iff (cfg : Config) (h4 : 4 < cfg.minDataLen) (h26 : cfg.minDataLen ≤ 26)
    (attempts : Int) (run : Nat → Attempt) (browse : Browse) :
    accepted cfg (report attempts run browse) ↔
      ∃ i < attempts.toNat, (acceptedOutput run i).isSome := by
  unfold accepted
  rcases report_data_cases attempts run browse with ⟨i, hi, hout⟩ | ⟨hnone, hlen⟩
  · have := length_of_gotData (acceptedOutput_gotData hout)
    exact iff_of_true (by omega) ⟨i, hi, by simp [hout]⟩
  · exact iff_of_false (by omega) fun ⟨i, hi, hsome⟩ => by simp [hnone i hi] at hsome

/-- A browser output with the three lines `gotData` looks for. -/
def demoStdout : Bytes :=
  ascii "a b c d Bootstrapped 100%: done\na b c d DNSRESOLVED e\n" ++
    ascii "a b c d OUTGOING f g h i j BEGIN(1)\n"

theorem report_accepted_iff_demo :
    (4 < ({} : Config).minDataLen ∧ ({} : Config).minDataLen ≤ 26) ∧
      (accepted {} (report 2 (fun _ => .ran demoStdout []) {}) ↔
        ∃ i < (2 : Int).toNat, (acceptedOutput (fun _ => .ran demoStdout []) i).isSome) :=
  ⟨by decide, report_accepted_iff {} (by decide) (by decide) 2 (fun _ => .ran demoStdout []) {}⟩

end Defector.Client
