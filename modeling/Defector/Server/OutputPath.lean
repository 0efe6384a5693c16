import Defector.Server.Work

/-!
# Where `store` writes: ids are not confined to the data directory

`Work` stores the payload of any report it accepts under the id the worker
sent (cmd/server/server.go:158-165); nothing compares that id with the
ledger or with what was handed out. `store` writes the file
`outputFileName(id) = path.Join(datadir, path.Clean(id) + suffix)`
(server.go:207-221). `path.Clean` keeps the leading `..` elements of a
relative path, and `path.Join` then resolves them against `datadir`.

* `work_files`: a call whose accepted, non-empty payload is written adds
  exactly the file `outputFileName cfg id`, for every id.
* `work_writes_outside_datadir`: with the default flags, a report with id
  `../x` and a 25-byte payload writes `x.pcap`, which is not under `data`;
  `../../etc/x` writes `../etc/x.pcap`.

The id is untrusted input here: a worker may send any string, and honest
workers only echo loader ids such as `12-0`.
-/
namespace Defector.Server
open Defector.Go

/-- `p` names a file under `dir`: `dir`, a `/`, and a relative path with no `..` element. -/
def InsideDir (dir p : String) : Prop :=
  ∃ rel : List Char, p.data = dir.data ++ '/' :: rel ∧ rel.head? ≠ some '/' ∧
    ['.', '.'] ∉ rel.splitOn '/'

section Files

variable {cfg : Config} {b : Browse} {s s' : Coord}

theorem store_files (hd : b.data ≠ []) (h : store cfg true b s = .ok s') :
    s'.files = s.files.insert (outputFileName cfg b.id) b.data := by
  have hpos : b.data.length > 0 := List.length_pos.2 hd
  simp only [store, hpos, if_true, writeFile] at h
  cases h; rfl

theorem intake_files (hid : b.id ≠ "") (ha : accepted cfg b) (hd : b.data ≠ [])
    (h : intake cfg true b s = .ok s') :
    s'.files = s.files.insert (outputFileName cfg b.id) b.data := by
  simp only [intake, hid, ha, if_true, if_false] at h
  split at h
  · cases h
  · rename_i s₁ hs
    cases h
    show s₁.files = _
    exact store_files hd hs

end Files

/-- A call that accepts a non-empty payload and whose write succeeds adds the file
`outputFileName cfg b.id`, whatever id the worker reported. -/
theorem work_files (cfg : Config) (k : Nat) (s : Coord) (w : String) (b : Browse)
    (hid : b.id ≠ "") (ha : accepted cfg b) (hd : b.data ≠ []) :
    (work cfg true k s ⟨w, some b⟩).1.files =
      s.files.insert (outputFileName cfg b.id) b.data := by
  cases hi : intake cfg true b (register w s) with
  | error e =>
    obtain ⟨-, -, hne, hok⟩ := intake_fails_iff.1 ⟨e, hi⟩
    exact absurd hok (by decide)
  | ok s' =>
    simp only [work, hi, assign_files]
    rw [intake_files hid ha hd hi, register_files]

theorem work_writes_outside_datadir (s : Coord) (k : Nat) (w : String) :
    (work {} true k s ⟨w, some { id := "../x", data := List.replicate 25 0 }⟩).1.files.lookup
        "x.pcap" = some (List.replicate 25 0) ∧ ¬ InsideDir "data" "x.pcap" ∧
    (work {} true k s ⟨w, some { id := "../../etc/x", data := List.replicate 25 0 }⟩).1.files.lookup
        "../etc/x.pcap" = some (List.replicate 25 0) ∧ ¬ InsideDir "data" "../etc/x.pcap" := by
  have hx : outputFileName {} "../x" = "x.pcap" := by decide
  have he : outputFileName {} "../../etc/x" = "../etc/x.pcap" := by decide
  refine ⟨?_, ?_, ?_, ?_⟩
  · rw [work_files _ _ _ _ _ (by decide) (by decide) (by decide), hx, AList.lookup_insert]
  · rintro ⟨_, h, -⟩; cases h
  · rw [work_files _ _ _ _ _ (by decide) (by decide) (by decide), he, AList.lookup_insert]
  · rintro ⟨_, h, -⟩; cases h

end Defector.Server
