import Defector.Server.Work
import Defector.Go.Url

/-!
# The Target Loader

Before serving, `main` (cmd/server/server.go:66-103) reads the table of
`(identifier, target)` rows, exits if a target does not parse as a URL, and
then, for every sample index `s < samples` and every row, derives the id
`identifier-s` and calls `os.Stat` on the id's output file: when the error
satisfies `os.IsNotExist`, a unit with the target's URL (default scheme
added) goes into the ledger; otherwise the pair counts as done. The
progress reporter waits for `done` to reach `len(pages) * samples`
(server.go:123).

"Otherwise" covers more than an existing file: `Stat` also fails with
`ENOTDIR` when a file stands where the path needs a directory, and with
`ENAMETOOLONG` or `EACCES`. So the outcome of `Stat` is an argument of the
loops (`Stat`); `statIn` is its value in a file system whose regular files
are the data directory's `files`.

* `workID_inj`: `identifier-s` determines the identifier and `s`, for every
  identifier string, since `Itoa` never writes a `-`.
* `load_counts`: for every parsed table and every outcome of `Stat`, with
  distinct identifiers the loops account for every pair once, as done when
  `Stat` does not report "not exist" and as a ledger entry filed under its
  id when it does, and `done0 + |ledger0| = len(pages) * samples`.
* `load_counts_enotdir`: the rows `a` and `a-0.pcap/b` with `a-0` captured:
  `done0` is 2 while one output file exists, since the second path runs
  through the file `data/a-0.pcap`.
* `load_error_iff`: `main` exits before serving exactly when a target does
  not parse, with the `url.Error` of the first such row, which
  `parseFailure` prints.
* `createWork_loaded`: the ledger the loops build holds loader ids filed
  under themselves (`Loaded`), which is where the fleet's runs start.
-/
namespace Defector.Server

open Defector.Go

/-- A row of the pages table: `pages[i][0]` and `pages[i][1]`. -/
structure Row where
  ident : String
  target : String
  deriving DecidableEq, Repr

/-- The id of sample `s` of a row (server.go:92). -/
def workID (ident : String) (s : Nat) : String := ident ++ "-" ++ itoa s

/-- The pairs the two loops visit, in their order: samples outer, rows inner
(server.go:86-87). -/
def loopPairs {α : Type} (pages : List α) : Nat → List (α × Nat)
  | 0 => []
  | s + 1 => loopPairs pages s ++ pages.map (·, s)

/-- Every id the loader derives from identifiers `idents` and `samples`. -/
def loaderIds (idents : List String) (samples : Nat) : List String :=
  (loopPairs idents samples).map fun p => workID p.1 p.2

/-- The validation loop: the parsed URL of every row, or the first parse error, which
is fatal (server.go:76-81). -/
def parsePages : List Row → Except URL.Error (List (String × URL))
  | [] => .ok []
  | r :: rs =>
    match parse r.target with
    | .error e => .error e
    | .ok u => (parsePages rs).map ((r.ident, u) :: ·)

/-- The line `log.Fatalf` prints for the first target that does not parse (server.go:79),
`tables` being strconv's printable runes above U+00FF. -/
def parseFailure (tables : Nat → Bool) (e : URL.Error) : String :=
  "failed to parse page as URL (" ++ e.text tables ++ ")"

/-- The URL stored for a parsed target, with the default scheme if it has none
(server.go:88-91, 97). -/
def ledgerURL (cfg : Config) (page : URL) : String :=
  urlString (if page.scheme = "" then { page with scheme := cfg.scheme } else page)

/-- What `os.Stat` tells the loader about an output file: it is there, the error
satisfies `os.IsNotExist`, or the call fails another way (`ENOTDIR`, `ENAMETOOLONG`,
`EACCES`). -/
inductive Stat where
  | found
  | notExist
  | failed
  deriving DecidableEq, Repr

/-- The directories a path runs through: its prefixes that end before a `/`. -/
def dirsOf (p : String) : List String :=
  (p.data.enum.filter fun q => q.2 = '/').map fun q => ⟨p.data.take q.1⟩

/-- `os.Stat` in a file system whose regular files are `files`, under clean paths, and
whose directories are those the files sit in: the path is a file or a directory; or
the walk meets a file where it needs a directory (`ENOTDIR`); or nothing is there.
Permissions and name lengths are left out. -/
def statIn (files : Files) (p : String) : Stat :=
  if p ∈ files ∨ files.keys.any (fun q => decide (p ∈ dirsOf q)) then .found
  else if (dirsOf p).any (fun d => decide (d ∈ files)) then .failed
  else .notExist

/-- One iteration of the inner loop (server.go:88-101): a unit when `Stat` says the
output file does not exist, `done++` otherwise. -/
def createStep (cfg : Config) (stat : String → Stat) (acc : Ledger × Nat)
    (p : (String × URL) × Nat) : Ledger × Nat :=
  let id := workID p.1.1 p.2
  if stat (outputFileName cfg id) = .notExist then (acc.1.insert id ⟨id, ledgerURL cfg p.1.2⟩, acc.2)
  else (acc.1, acc.2 + 1)

/-- The `create work` loops (server.go:84-103): the ledger and `done`. -/
def createWork (cfg : Config) (stat : String → Stat) (pages : List (String × URL))
    (samples : Nat) : Ledger × Nat :=
  (loopPairs pages samples).foldl (createStep cfg stat) (∅, 0)

/-- `main`'s start-up on a data directory holding `files`: parse the targets (fatal on the
first failure), create the work; the registry starts empty. -/
def load (cfg : Config) (files : Files) (rows : List Row) : Except URL.Error Coord := do
  let pages ← parsePages rows
  let (work, done) := createWork cfg (statIn files) pages cfg.samples.toNat
  return { work, workers := ∅, done, files }

/-! ## Ids -/

/-- A separator that occurs in neither tail splits a list at one place only. -/
theorem append_sep_inj {xs xs' ys ys' : List Char} {c : Char} (hy : c ∉ ys) (hy' : c ∉ ys')
    (h : xs ++ c :: ys = xs' ++ c :: ys') : xs = xs' ∧ ys = ys' := by
  induction xs generalizing xs' with
  | nil =>
    cases xs' with
    | nil => simpa using h
    | cons x xs' =>
      simp only [List.nil_append, List.cons_append, List.cons.injEq] at h
      exact absurd (h.2 ▸ List.mem_append_right _ (List.mem_cons_self c ys')) hy
  | cons x xs ih =>
    cases xs' with
    | nil =>
      simp only [List.nil_append, List.cons_append, List.cons.injEq] at h
      exact absurd (h.2 ▸ List.mem_append_right _ (List.mem_cons_self c ys)) hy'
    | cons x' xs' =>
      simp only [List.cons_append, List.cons.injEq] at h
      obtain ⟨h1, h2⟩ := ih h.2
      exact ⟨by rw [h.1, h1], h2⟩

/-- `identifier-s` determines the identifier and the sample index. -/
theorem workID_inj {a b : String} {s t : Nat} (h : workID a s = workID b t) : a = b ∧ s = t := by
  have h' : a.data ++ '-' :: (itoa s).data = b.data ++ '-' :: (itoa t).data := by
    simpa [workID] using congrArg String.data h
  obtain ⟨h1, h2⟩ := append_sep_inj (minus_not_mem_itoa s) (minus_not_mem_itoa t) h'
  exact ⟨String.ext h1, itoa_injective (String.ext h2)⟩

theorem workID_ne_empty (a : String) (s : Nat) : workID a s ≠ "" := fun h => by
  simpa [workID] using congrArg (fun x => x.data.length) h

theorem empty_not_mem_loaderIds (idents : List String) (S : Nat) : "" ∉ loaderIds idents S := by
  simp only [loaderIds, List.mem_map, not_exists, not_and]
  exact fun p _ => workID_ne_empty p.1 p.2

theorem mem_loopPairs {α : Type} {pages : List α} {a : α} {s S : Nat} :
    (a, s) ∈ loopPairs pages S ↔ a ∈ pages ∧ s < S := by
  induction S with
  | zero => simp [loopPairs]
  | succ S ih =>
    simp only [loopPairs, List.mem_append, ih, List.mem_map, Prod.mk.injEq]
    constructor
    · rintro (⟨h1, h2⟩ | ⟨a', h1, rfl, rfl⟩) <;> exact ⟨by assumption, by omega⟩
    · rintro ⟨h1, h2⟩
      rcases Nat.lt_succ_iff_lt_or_eq.1 h2 with h | rfl
      · exact .inl ⟨h1, h⟩
      · exact .inr ⟨a, h1, rfl, rfl⟩

theorem length_loopPairs {α : Type} (pages : List α) (S : Nat) :
    (loopPairs pages S).length = pages.length * S := by
  induction S with
  | zero => rfl
  | succ S ih => simp [loopPairs, ih, Nat.mul_succ]

theorem loopPairs_map {α β : Type} (f : α → β) (pages : List α) (S : Nat) :
    (loopPairs pages S).map (fun p => (f p.1, p.2)) = loopPairs (pages.map f) S := by
  induction S with
  | zero => rfl
  | succ S ih => simp [loopPairs, ih]

/-- Distinct identifiers give distinct ids. -/
theorem loaderIds_nodup {idents : List String} (hd : idents.Nodup) (S : Nat) :
    (loaderIds idents S).Nodup := by
  induction S with
  | zero => exact List.nodup_nil
  | succ S ih =>
    simp only [loaderIds, loopPairs, List.map_append, List.map_map] at ih ⊢
    refine List.nodup_append.2 ⟨ih, hd.map fun a b h => (workID_inj h).1, ?_⟩
    intro x hx hy
    simp only [List.mem_map, Function.comp, Prod.exists] at hx hy
    obtain ⟨a, s, hs, rfl⟩ := hx
    obtain ⟨b, -, hb⟩ := hy
    exact absurd (workID_inj hb).2 (by have := (mem_loopPairs.1 hs).2; omega)

theorem parsePages_fst {rows : List Row} {pages : List (String × URL)}
    (h : parsePages rows = .ok pages) : pages.map Prod.fst = rows.map Row.ident := by
  induction rows generalizing pages with
  | nil => cases h; rfl
  | cons r rs ih =>
    simp only [parsePages] at h
    split at h
    · cases h
    · cases hp : parsePages rs with
      | error e => rw [hp] at h; cases h
      | ok ps => rw [hp] at h; cases h; simp [ih hp]

/-- The validation loop stops at the first row, in file order, whose target does not
parse, with that target's error. -/
theorem parsePages_error_iff (rows : List Row) (e : URL.Error) :
    parsePages rows = .error e ↔ ∃ pre r post, rows = pre ++ r :: post ∧
      (∀ r' ∈ pre, ∃ u, parse r'.target = .ok u) ∧ parse r.target = .error e := by
  induction rows with
  | nil => simp [parsePages]
  | cons r rs ih =>
    simp only [parsePages]
    cases hr : parse r.target with
    | error e' =>
      constructor
      · rintro ⟨⟩
        exact ⟨[], r, rs, rfl, by simp, hr⟩
      · rintro ⟨pre, r₀, post, hrows, hpre, he⟩
        cases pre with
        | nil =>
          obtain ⟨rfl, -⟩ := List.cons.inj hrows
          rw [hr] at he
          exact he ▸ rfl
        | cons x pre =>
          obtain ⟨rfl, -⟩ := List.cons.inj hrows
          obtain ⟨u, hu⟩ := hpre r (List.mem_cons_self _ _)
          rw [hr] at hu
          cases hu
    | ok u =>
      have hmap : (parsePages rs).map ((r.ident, u) :: ·) = .error e ↔ parsePages rs = .error e := by
        cases parsePages rs <;> simp [Except.map]
      rw [hmap, ih]
      constructor
      · rintro ⟨pre, r₀, post, rfl, hpre, he⟩
        refine ⟨r :: pre, r₀, post, rfl, fun r' h => ?_, he⟩
        rcases List.mem_cons.1 h with rfl | h
        · exact ⟨u, hr⟩
        · exact hpre r' h
      · rintro ⟨pre, r₀, post, hrows, hpre, he⟩
        cases pre with
        | nil =>
          obtain ⟨rfl, -⟩ := List.cons.inj hrows
          rw [hr] at he
          cases he
        | cons x pre =>
          obtain ⟨-, rfl⟩ := List.cons.inj hrows
          exact ⟨pre, r₀, post, rfl, fun r' h => hpre r' (List.mem_cons_of_mem _ h), he⟩

/-! ## The create-work loops -/

section Create

variable (cfg : Config) (stat : String → Stat)

/-- The id of a visited pair. -/
def pairID (p : (String × URL) × Nat) : String := workID p.1.1 p.2

/-- Whether the loops create a unit for `id`: `Stat` reports its output file missing. -/
def Fresh (id : String) : Prop := stat (outputFileName cfg id) = .notExist

instance (id : String) : Decidable (Fresh cfg stat id) :=
  inferInstanceAs (Decidable (stat (outputFileName cfg id) = .notExist))

theorem createStep_fresh (acc : Ledger × Nat) {p : (String × URL) × Nat}
    (h : Fresh cfg stat (pairID p)) :
    createStep cfg stat acc p = (acc.1.insert (pairID p) ⟨pairID p, ledgerURL cfg p.1.2⟩, acc.2) :=
  if_pos h

theorem createStep_done (acc : Ledger × Nat) {p : (String × URL) × Nat}
    (h : ¬ Fresh cfg stat (pairID p)) : createStep cfg stat acc p = (acc.1, acc.2 + 1) :=
  if_neg h

theorem createStep_fold (P : List ((String × URL) × Nat)) (acc : Ledger × Nat)
    (hP : (P.map pairID).Nodup) (hfresh : ∀ p ∈ P, pairID p ∉ acc.1) (hk : IdKeyed acc.1) :
    IdKeyed (P.foldl (createStep cfg stat) acc).1 ∧
    (P.foldl (createStep cfg stat) acc).2 =
      acc.2 + ((P.map pairID).filter fun id => ¬ Fresh cfg stat id).length ∧
    (P.foldl (createStep cfg stat) acc).1.keys.Perm
      (acc.1.keys ++ (P.map pairID).filter fun id => Fresh cfg stat id) := by
  induction P generalizing acc with
  | nil => simp [hk]
  | cons p P ih =>
    simp only [List.map_cons, List.nodup_cons, List.mem_map] at hP
    have hp := hfresh p (List.mem_cons_self p P)
    have hrest := fun q hq => hfresh q (List.mem_cons_of_mem p hq)
    rw [List.foldl_cons]
    by_cases hm : Fresh cfg stat (pairID p)
    · obtain ⟨h1, h2, h3⟩ := ih (acc.1.insert (pairID p) ⟨pairID p, ledgerURL cfg p.1.2⟩, acc.2)
        hP.2 (fun q hq => by
          rw [AList.mem_insert, not_or]; exact ⟨fun h => hP.1 ⟨q, hq, h⟩, hrest q hq⟩)
        (hk.insert rfl)
      rw [createStep_fresh cfg stat acc hm]
      refine ⟨h1, by simpa [hm] using h2, ?_⟩
      rw [AList.keys_insert, List.erase_of_not_mem hp] at h3
      exact h3.trans (by simpa [hm] using List.perm_middle.symm)
    · obtain ⟨h1, h2, h3⟩ := ih (acc.1, acc.2 + 1) hP.2 hrest hk
      rw [createStep_done cfg stat acc hm]
      exact ⟨h1, by rw [h2]; simp [hm, Nat.add_assoc, Nat.add_comm 1], by simpa [hm] using h3⟩

/-- Whatever the table, the ledger holds loader ids filed under themselves. -/
theorem createStep_fold_keys (ids : List String) (P : List ((String × URL) × Nat))
    (acc : Ledger × Nat) (hP : ∀ p ∈ P, pairID p ∈ ids) (hacc : ∀ k ∈ acc.1.keys, k ∈ ids)
    (hk : IdKeyed acc.1) :
    IdKeyed (P.foldl (createStep cfg stat) acc).1 ∧
      ∀ k ∈ (P.foldl (createStep cfg stat) acc).1.keys, k ∈ ids := by
  induction P generalizing acc with
  | nil => exact ⟨hk, hacc⟩
  | cons p P ih =>
    rw [List.foldl_cons]
    refine ih _ (fun q hq => hP q (List.mem_cons_of_mem p hq)) ?_ ?_ <;>
      by_cases hm : Fresh cfg stat (pairID p)
    · intro k hk'
      rw [createStep_fresh cfg stat acc hm, AList.keys_insert] at hk'
      rcases List.mem_cons.1 hk' with rfl | hk'
      · exact hP p (List.mem_cons_self p P)
      · exact hacc k (List.mem_of_mem_erase hk')
    · rw [createStep_done cfg stat acc hm]; exact hacc
    · rw [createStep_fresh cfg stat acc hm]; exact hk.insert rfl
    · rw [createStep_done cfg stat acc hm]; exact hk

theorem map_pairID_loopPairs (pages : List (String × URL)) (S : Nat) :
    (loopPairs pages S).map pairID = loaderIds (pages.map Prod.fst) S := by
  rw [loaderIds, ← loopPairs_map, List.map_map]; rfl

/-- What the loader guarantees of the ledger it serves from, for the table's identifiers
`idents`: every entry is filed under its own id, and that id is a loader id. -/
structure Loaded (idents : List String) (samples : Nat) (L : Ledger) : Prop where
  keyed : IdKeyed L
  known : ∀ k ∈ L.keys, k ∈ loaderIds idents samples

theorem createWork_loaded (pages : List (String × URL)) (S : Nat) :
    Loaded (pages.map Prod.fst) S (createWork cfg stat pages S).1 := by
  obtain ⟨hk, hids⟩ := createStep_fold_keys cfg stat _ _ (∅, 0)
    (fun q hq => map_pairID_loopPairs pages S ▸ List.mem_map_of_mem _ hq) (by simp)
    (by simp [IdKeyed])
  exact ⟨hk, hids⟩

end Create

theorem load_loaded {cfg : Config} {files : Files} {rows : List Row} {c : Coord}
    (h : load cfg files rows = .ok c) : Loaded (rows.map Row.ident) cfg.samples.toNat c.work := by
  simp only [load] at h
  cases hp : parsePages rows with
  | error e => rw [hp] at h; cases h
  | ok pages =>
    rw [hp] at h
    cases h
    exact parsePages_fst hp ▸ createWork_loaded cfg (statIn files) pages _

/-- `main` exits before serving exactly when a target does not parse, with the error of
the first such row. -/
theorem load_error_iff (cfg : Config) (files : Files) (rows : List Row) (e : URL.Error) :
    load cfg files rows = .error e ↔ ∃ pre r post, rows = pre ++ r :: post ∧
      (∀ r' ∈ pre, ∃ u, parse r'.target = .ok u) ∧ parse r.target = .error e := by
  rw [← parsePages_error_iff]
  simp only [load]
  cases parsePages rows <;> simp [bind, Except.bind, pure, Except.pure]

/-- The spec's one-row table `a,a.com`. -/
def demoRows : List Row := [⟨"a", "a.com"⟩]

/-- The data directory once `a-0` has been captured. -/
def capturedA : Files := (∅ : Files).insert "data/a-0.pcap" (List.replicate 25 0)

/-- The rows `a` and `a-0.pcap/b`: the second's output file would sit under the first's. -/
def nestedRows : List Row := [⟨"a", "a.com"⟩, ⟨"a-0.pcap/b", "b.com"⟩]

/-- The parsed `nestedRows`: targets without a scheme are paths. -/
def nestedPages : List (String × URL) := [("a", { path := "a.com" }), ("a-0.pcap/b", { path := "b.com" })]

/-- **The loader's accounting.** For any parsed table, any `samples ≥ 0` and any outcome
of `os.Stat` on the output files: `identifier-s` determines the identifier and `s`; and
when identifiers are pairwise distinct, every derived id is counted once, in `done` when
`Stat` does not report its output file missing and as a ledger entry filed under it when
it does, and `done + |ledger| = len(pages) * samples`. -/
theorem load_counts :
    (∀ (a b : String) (s t : Nat), workID a s = workID b t → a = b ∧ s = t) ∧
    ∀ (cfg : Config) (stat : String → Stat) (pages : List (String × URL)),
      0 ≤ cfg.samples → (pages.map Prod.fst).Nodup →
      IdKeyed (createWork cfg stat pages cfg.samples.toNat).1 ∧
      (createWork cfg stat pages cfg.samples.toNat).2 =
        ((loaderIds (pages.map Prod.fst) cfg.samples.toNat).filter
          fun id => stat (outputFileName cfg id) ≠ .notExist).length ∧
      (createWork cfg stat pages cfg.samples.toNat).1.keys.Perm
        ((loaderIds (pages.map Prod.fst) cfg.samples.toNat).filter
          fun id => stat (outputFileName cfg id) = .notExist) ∧
      ((createWork cfg stat pages cfg.samples.toNat).2 +
        (createWork cfg stat pages cfg.samples.toNat).1.entries.length : Int) =
          pages.length * cfg.samples := by
  refine ⟨fun a b s t h => workID_inj h, fun cfg stat pages hS hd => ?_⟩
  have hids := map_pairID_loopPairs pages cfg.samples.toNat
  obtain ⟨h1, h2, h3⟩ := createStep_fold cfg stat (loopPairs pages cfg.samples.toNat) (∅, 0)
    (hids ▸ loaderIds_nodup hd _) (by simp) (by simp [IdKeyed])
  rw [hids] at h2 h3
  simp only [AList.keys_empty, List.nil_append, Nat.zero_add] at h2 h3
  refine ⟨h1, h2, h3, ?_⟩
  have hlen := h3.length_eq
  simp only [AList.keys, List.keys, List.length_map] at hlen
  have htot := List.length_eq_length_filter_add
    (l := loaderIds (pages.map Prod.fst) cfg.samples.toNat) fun id => Fresh cfg stat id
  simp only [loaderIds, List.length_map, length_loopPairs] at htot hlen h2
  simp only [createWork]
  rw [h2, hlen]
  have : ((pages.length * cfg.samples.toNat : Nat) : Int) = pages.length * cfg.samples := by
    push_cast; rw [Int.toNat_of_nonneg hS]
  simp only [Fresh, decide_not] at htot ⊢
  omega

theorem load_counts_witness :
    parsePages nestedRows = .ok nestedPages ∧ (0 : Int) ≤ ({} : Config).samples ∧
    (nestedPages.map Prod.fst).Nodup ∧
    (IdKeyed (createWork {} (statIn capturedA) nestedPages ({} : Config).samples.toNat).1 ∧
      (createWork {} (statIn capturedA) nestedPages ({} : Config).samples.toNat).2 =
        ((loaderIds (nestedPages.map Prod.fst) ({} : Config).samples.toNat).filter
          fun id => statIn capturedA (outputFileName {} id) ≠ .notExist).length ∧
      (createWork {} (statIn capturedA) nestedPages ({} : Config).samples.toNat).1.keys.Perm
        ((loaderIds (nestedPages.map Prod.fst) ({} : Config).samples.toNat).filter
          fun id => statIn capturedA (outputFileName {} id) = .notExist) ∧
      ((createWork {} (statIn capturedA) nestedPages ({} : Config).samples.toNat).2 +
        (createWork {} (statIn capturedA) nestedPages ({} : Config).samples.toNat).1.entries.length
          : Int) = nestedPages.length * ({} : Config).samples) :=
  ⟨rfl, by decide, by decide, load_counts.2 {} (statIn capturedA) nestedPages (by decide) (by decide)⟩

/-- `done0` counts a pair whose output file does not exist: with `a-0` captured, `Stat`
of `data/a-0.pcap/b-0.pcap` fails with `ENOTDIR`, so the loader counts both pairs as done
and creates no work, while one output file exists. -/
theorem load_counts_enotdir :
    loaderIds (nestedRows.map Row.ident) 1 = ["a-0", "a-0.pcap/b-0"] ∧
    outputFileName {} "a-0.pcap/b-0" = "data/a-0.pcap/b-0.pcap" ∧
    statIn capturedA "data/a-0.pcap/b-0.pcap" = .failed ∧
    load {} capturedA nestedRows = .ok ⟨∅, ∅, 2, capturedA⟩ ∧
    ((loaderIds (nestedRows.map Row.ident) 1).filter
      fun id => outputFileName {} id ∈ capturedA).length = 1 :=
  ⟨by decide, by decide, by decide, rfl, by decide⟩

end Defector.Server
