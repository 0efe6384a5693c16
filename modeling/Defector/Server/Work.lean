import Mathlib.Data.List.AList
import Defector.Go.Strconv
import Defector.Go.Path

/-!
# The coordinator's `Work` handler

`cmd/server/server.go` keeps its state in package variables guarded by one
mutex: the work ledger `work` (id → item), the registry `workers`, the
counter `done`; the data directory holds the result files. `Coord` is that
state, and `work` is one call of `(*server).Work` (server.go:145-205) with
the lock held for all of it:

1. record a new worker id,
2. take in the previous result: a payload of at least `minDataLen` bytes is
   stored (`store`, server.go:207-217) and its id erased from the ledger;
   a shorter one puts the unit back with the `www.` prefix of its URL
   toggled,
3. hand out the first entry the map iteration meets, erasing it (the
   `defer delete`), or answer "no work" with an empty id.

Two things are not under the program's control and are arguments of
`work`: whether the file write of `store` succeeds (`ok`), and which entry
Go's randomised map iteration meets first (`k`, see `rangeFirst`).

* `intake_ok`, `assign_cases`: everything steps 2 and 3 can do.
* `work_postcondition`: the ledger and `done` after any call on any state.
* `work_panics_iff`: a request without `Browse` dereferences nil.
-/
namespace Defector.Server

open Defector.Go

/-- The flags the coordinator reads (server.go:40-46), with their defaults. -/
structure Config where
  timeout : Int := 15
  samples : Int := 1
  datadir : String := "data"
  scheme : String := "http"
  alltraffic : Bool := false
  minDataLen : Int := 25
  outputSuffix : String := ".pcap"
  deriving DecidableEq, Repr

/-- A unit of work in the ledger (server.go:34-37). -/
structure Item where
  id : String
  url : String
  deriving DecidableEq, Repr

/-- `pb.Browse`: a work item on the wire, in both directions (part_001:73-81). -/
structure Browse where
  id : String := ""
  url : String := ""
  timeout : Int := 0
  data : Bytes := []
  allTraffic : Bool := false
  deriving DecidableEq, Repr

/-- `pb.Req`; `browse = none` is a nil `Browse` pointer (part_001:56-59). -/
structure Req where
  workerID : String
  browse : Option Browse
  deriving DecidableEq, Repr

/-- The work ledger, `map[string]*item`. -/
abbrev Ledger := AList (fun _ : String => Item)

/-- The files of the data directory, by path. -/
abbrev Files := AList (fun _ : String => Bytes)

/-- The state `lock` guards, and the files in `datadir`. -/
structure Coord where
  work : Ledger
  workers : AList (fun _ : String => String)
  done : Nat
  files : Files

/-- A failed `ioutil.WriteFile`, naming the file. -/
structure WriteError where
  path : String
  deriving DecidableEq, Repr

/-- What a call of `Work` returns: a reply, the error of a failed store, or a nil
dereference, which is not recovered and ends the coordinator. -/
inductive Outcome where
  | reply (b : Browse)
  | error (e : WriteError)
  | panic
  deriving DecidableEq, Repr

/-- The file a result for `id` is written to.
mirrors cmd/server/server.go:219-221 -/
def outputFileName (cfg : Config) (id : String) : String :=
  join cfg.datadir (clean id ++ cfg.outputSuffix)

/-- `ioutil.WriteFile(path, data, 0666)`; `ok` is whether the file system lets it
succeed. A failed write is taken to leave the directory as it was. -/
def writeFile (ok : Bool) (path : String) (data : Bytes) (files : Files) : Except WriteError Files :=
  if ok then .ok (files.insert path data) else .error ⟨path⟩

/-- `store`: write a non-empty payload to its output file, then count it.
mirrors cmd/server/server.go:207-217 -/
def store (cfg : Config) (ok : Bool) (b : Browse) (s : Coord) : Except WriteError Coord :=
  if b.data.length > 0 then
    match writeFile ok (outputFileName cfg b.id) b.data s.files with
    | .error e => .error e
    | .ok files => .ok { s with files, done := s.done + 1 }
  else .ok { s with done := s.done + 1 }

/-- Step 1: record a worker id on first sight (server.go:150-156). -/
def register (id : String) (s : Coord) : Coord :=
  if id ∈ s.workers then s else { s with workers := s.workers.insert id id }

/-- The retry URL: drop a leading `www.`, or add one (server.go:173-179). -/
def toggleWWW (url : String) : String :=
  if url.data.take 4 = "www.".data then ⟨url.data.drop 4⟩ else "www." ++ url

/-- Whether a previous result is stored rather than retried (server.go:160). -/
def accepted (cfg : Config) (b : Browse) : Prop := (b.data.length : Int) ≥ cfg.minDataLen

instance (cfg : Config) (b : Browse) : Decidable (accepted cfg b) :=
  inferInstanceAs (Decidable ((b.data.length : Int) ≥ cfg.minDataLen))

/-- Step 2: take in the previous result (server.go:158-187). -/
def intake (cfg : Config) (ok : Bool) (b : Browse) (s : Coord) : Except WriteError Coord :=
  if b.id = "" then .ok s
  else if accepted cfg b then
    match store cfg ok b s with
    | .error e => .error e
    | .ok s => .ok { s with work := if b.id ∈ s.work then s.work.erase b.id else s.work }
  else .ok { s with work := s.work.insert b.id ⟨b.id, toggleWWW b.url⟩ }

/-- The entry a `for id, item := range work` loop meets first. Go starts a map
iteration at a random position; `k` is that choice. -/
def rangeFirst (m : Ledger) (k : Nat) : Option (Σ _ : String, Item) :=
  m.entries[k % m.entries.length]?

/-- The reply that hands out `it` (server.go:192-197). -/
def assignment (cfg : Config) (it : Item) : Browse :=
  { id := it.id, url := it.url, timeout := cfg.timeout, allTraffic := cfg.alltraffic }

/-- The "no work right now" reply (server.go:201-204). -/
def noWork (cfg : Config) : Browse := { id := "", timeout := cfg.timeout }

/-- Step 3: hand out the first entry met, erased from the ledger once the reply is
built (the `defer delete`), or "no work" (server.go:189-204). -/
def assign (cfg : Config) (k : Nat) (s : Coord) : Coord × Browse :=
  match rangeFirst s.work k with
  | some ⟨id, it⟩ => ({ s with work := s.work.erase id }, assignment cfg it)
  | none => (s, noWork cfg)

/-- `(*server).Work`: one poll, under `lock` throughout.
mirrors cmd/server/server.go:145-205 -/
def work (cfg : Config) (ok : Bool) (k : Nat) (s : Coord) (r : Req) : Coord × Outcome :=
  let s := register r.workerID s
  match r.browse with
  | none => (s, .panic)
  | some b =>
    match intake cfg ok b s with
    | .error e => (s, .error e)
    | .ok s' => ((assign cfg k s').1, .reply (assign cfg k s').2)

/-! ## One lemma per step -/

section Steps

variable {cfg : Config} {ok : Bool} {b : Browse} {s s' : Coord}

@[simp] theorem register_work (id : String) (s : Coord) : (register id s).work = s.work := by
  unfold register; split <;> rfl

@[simp] theorem register_done (id : String) (s : Coord) : (register id s).done = s.done := by
  unfold register; split <;> rfl

@[simp] theorem register_files (id : String) (s : Coord) : (register id s).files = s.files := by
  unfold register; split <;> rfl

theorem store_error_iff (e : WriteError) :
    store cfg ok b s = .error e ↔ b.data ≠ [] ∧ ok = false ∧ e = ⟨outputFileName cfg b.id⟩ := by
  unfold store writeFile
  cases ok <;> cases b.data <;> simp [eq_comm]

theorem store_ok (h : store cfg ok b s = .ok s') : s'.work = s.work ∧ s'.done = s.done + 1 := by
  unfold store writeFile at h
  split at h
  · cases ok <;> simp at h; cases h; simp
  · cases h; simp

/-- Erasing an absent key changes nothing: Go's guarded `delete` is `erase`. -/
theorem erase_absent {L : Ledger} {a : String} (h : a ∉ L) : L.erase a = L :=
  AList.ext (List.kerase_of_not_mem_keys h)

theorem intake_error_iff (e : WriteError) :
    intake cfg ok b s = .error e ↔ b.id ≠ "" ∧ accepted cfg b ∧ store cfg ok b s = .error e := by
  unfold intake
  by_cases hid : b.id = "" <;> by_cases ha : accepted cfg b <;> simp only [hid, ha, if_true,
    if_false, reduceCtorEq, false_and, and_false, not_true_eq_false, ne_eq, not_false_eq_true,
    true_and]
  split <;> simp_all

/-- What a successful intake does to the ledger and the counter, case by case. -/
theorem intake_ok (h : intake cfg ok b s = .ok s') :
    (b.id = "" ∧ s'.work = s.work ∧ s'.done = s.done) ∨
    (b.id ≠ "" ∧ accepted cfg b ∧ s'.work = s.work.erase b.id ∧ s'.done = s.done + 1) ∨
    (b.id ≠ "" ∧ ¬ accepted cfg b ∧ s'.work = s.work.insert b.id ⟨b.id, toggleWWW b.url⟩ ∧
      s'.done = s.done) := by
  unfold intake at h
  by_cases hid : b.id = ""
  · simp only [hid, if_true, Except.ok.injEq] at h; subst h; exact .inl ⟨hid, rfl, rfl⟩
  by_cases ha : accepted cfg b
  · simp only [hid, ha, if_true, if_false] at h
    split at h
    · cases h
    · rename_i s₁ hs
      cases h
      obtain ⟨hw, hd⟩ := store_ok hs
      refine .inr (.inl ⟨hid, ha, ?_, hd⟩)
      split
      · rw [hw]
      · rw [hw, erase_absent (by rwa [← hw])]
  · simp only [hid, ha, if_false, Except.ok.injEq] at h
    subst h; exact .inr (.inr ⟨hid, ha, rfl, rfl⟩)

theorem rangeFirst_mem {m : Ledger} {k : Nat} {e : Σ _ : String, Item}
    (h : rangeFirst m k = some e) : e ∈ m.entries :=
  List.getElem?_mem h

theorem rangeFirst_eq_none {m : Ledger} {k : Nat} : rangeFirst m k = none ↔ m.entries = [] := by
  unfold rangeFirst
  rw [List.getElem?_eq_none_iff]
  cases h : m.entries with
  | nil => simp
  | cons x xs =>
    have := Nat.mod_lt k (show 0 < (x :: xs).length by simp)
    simp only [reduceCtorEq, iff_false, not_le]
    exact this

/-- Every entry of the ledger is the one some iteration meets first. -/
theorem rangeFirst_surj {m : Ledger} {e : Σ _ : String, Item} (h : e ∈ m.entries) :
    ∃ k, rangeFirst m k = some e := by
  obtain ⟨n, hn⟩ := List.mem_iff_getElem?.1 h
  have hlt : n < m.entries.length := by
    by_contra hge
    rw [List.getElem?_eq_none_iff.2 (by omega)] at hn
    cases hn
  exact ⟨n, by rw [rangeFirst, Nat.mod_eq_of_lt hlt, hn]⟩

/-- The hand-out step: "no work" on an empty ledger, else one entry handed out and erased. -/
theorem assign_cases (cfg : Config) (k : Nat) (s : Coord) :
    (s.work.entries = [] ∧ assign cfg k s = (s, noWork cfg)) ∨
    ∃ id it, ⟨id, it⟩ ∈ s.work.entries ∧
      assign cfg k s = ({ s with work := s.work.erase id }, assignment cfg it) := by
  unfold assign
  split
  · rename_i id it h
    exact .inr ⟨id, it, rangeFirst_mem h, rfl⟩
  · rename_i h
    exact .inl ⟨rangeFirst_eq_none.1 h, rfl⟩

/-- Handing out work never touches the data directory. -/
@[simp] theorem assign_files (cfg : Config) (k : Nat) (s : Coord) :
    (assign cfg k s).1.files = s.files := by
  unfold assign; split <;> rfl

@[simp] theorem assign_done (cfg : Config) (k : Nat) (s : Coord) :
    (assign cfg k s).1.done = s.done := by
  unfold assign; split <;> rfl

/-! ## The postcondition of one call -/

/-- Every ledger entry is filed under its own id. -/
def IdKeyed (L : Ledger) : Prop := ∀ e ∈ L.entries, e.2.id = e.1

instance (L : Ledger) : Decidable (IdKeyed L) :=
  inferInstanceAs (Decidable (∀ e ∈ L.entries, e.2.id = e.1))

theorem IdKeyed.erase {L : Ledger} (h : IdKeyed L) (a : String) : IdKeyed (L.erase a) :=
  fun e he => h e ((List.kerase_sublist a L.entries).subset he)

theorem IdKeyed.insert {L : Ledger} (h : IdKeyed L) {a : String} {it : Item} (ha : it.id = a) :
    IdKeyed (L.insert a it) := by
  intro e he
  rw [AList.insert_entries] at he
  rcases List.mem_cons.1 he with rfl | he
  · exact ha
  · exact h e ((List.kerase_sublist a L.entries).subset he)

/-- The ledger after the intake, stated without the steps: unchanged on first contact,
the id erased for a stored result, the unit put back under its id with the `www.` of
its URL toggled for a short one. -/
def intakeLedger (cfg : Config) (b : Browse) (L : Ledger) : Ledger :=
  if b.id = "" then L
  else if accepted cfg b then L.erase b.id
  else L.insert b.id ⟨b.id, toggleWWW b.url⟩

/-- `store` is called on a non-empty payload and the file write fails. -/
def StoreFails (cfg : Config) (ok : Bool) (b : Browse) : Prop :=
  b.id ≠ "" ∧ accepted cfg b ∧ b.data ≠ [] ∧ ok = false

theorem intake_fails_iff : (∃ e, intake cfg ok b s = .error e) ↔ StoreFails cfg ok b := by
  simp only [intake_error_iff, store_error_iff, StoreFails]
  exact ⟨fun ⟨_, h1, h2, h3, h4, _⟩ => ⟨h1, h2, h3, h4⟩,
    fun ⟨h1, h2, h3, h4⟩ => ⟨_, h1, h2, h3, h4, rfl⟩⟩

theorem intake_ok_spec (h : intake cfg ok b s = .ok s') :
    s'.work = intakeLedger cfg b s.work ∧
      s'.done = s.done + if b.id ≠ "" ∧ accepted cfg b then 1 else 0 := by
  rcases intake_ok h with ⟨h1, h2, h3⟩ | ⟨h1, h2, h3, h4⟩ | ⟨h1, h2, h3, h4⟩ <;>
    simp_all [intakeLedger]

theorem IdKeyed.intakeLedger {L : Ledger} (h : IdKeyed L) (cfg : Config) (b : Browse) :
    IdKeyed (intakeLedger cfg b L) := by
  unfold Defector.Server.intakeLedger
  split
  · exact h
  · split
    · exact h.erase _
    · exact h.insert rfl

/-- The empty id, which means "no result", never enters the ledger. -/
theorem empty_not_mem_intakeLedger {L : Ledger} (h : "" ∉ L) (cfg : Config) (b : Browse) :
    "" ∉ intakeLedger cfg b L := by
  unfold Defector.Server.intakeLedger
  split
  · exact h
  · rename_i hid
    split
    · exact fun hm => h (AList.mem_erase.1 hm).2
    · exact fun hm => ((AList.mem_insert _).1 hm).elim (fun he => hid he.symm) h

/-- The counter after a call whose store does not fail: one more exactly for an accepted
result. -/
theorem work_done (k : Nat) (w : String) (h : ¬ StoreFails cfg ok b) :
    (work cfg ok k s ⟨w, some b⟩).1.done =
      s.done + if b.id ≠ "" ∧ accepted cfg b then 1 else 0 := by
  cases hi : intake cfg ok b (register w s) with
  | error e => exact absurd (intake_fails_iff.1 ⟨e, hi⟩) h
  | ok s' =>
    simp only [work, hi, assign_done]
    rw [(intake_ok_spec hi).2, register_done]

end Steps

/-- A ledger with one unit, `a-0` for `http://a.com`: what the loader builds from the
table `a,a.com` with the default flags on an empty data directory. -/
def demoCoord : Coord := ⟨(∅ : Ledger).insert "a-0" ⟨"a-0", "http://a.com"⟩, ∅, 0, ∅⟩

/-- A report of `a-0` with a payload of `n` zero bytes. -/
def demoReport (n : Nat) : Browse := { id := "a-0", url := "http://a.com", data := List.replicate n 0 }

/-- `Work` reads `in.Browse.ID` before anything checks `in.Browse`: it panics exactly on
the requests whose `Browse` is nil. -/
theorem work_panics_iff (cfg : Config) (ok : Bool) (k : Nat) (s : Coord) (r : Req) :
    (work cfg ok k s r).2 = .panic ↔ r.browse = none := by
  obtain ⟨w, _ | b⟩ := r
  · simp [work]
  · simp only [work, reduceCtorEq, iff_false]
    split <;> simp

end Defector.Server
