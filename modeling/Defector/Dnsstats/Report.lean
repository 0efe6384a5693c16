import Mathlib.Data.List.AList
import Mathlib.Data.List.Dedup
import Defector.Dns.Read

/-!
# `dnsstats`: the report of the most requested domains

`dnsstats` (cmd/dnsstats/dnsstats.go) reads a data set of `.dns` samples
per site and, in its loop over the data (dnsstats.go:138-160), records for
every domain the sites it was requested on (`seen`, through `appendIfNew`,
dnsstats.go:456-463) and the largest number of such sites
(`mostSeenCount`). At the end of its report (dnsstats.go:329-350) it puts
each domain in the bucket `seenList[len(seen[domain])]` of a slice of
`mostSeenCount + 1` buckets, then walks the buckets down from the top
until it has shown `maxShow` (flag `-m`, default 5) non-empty ones:

```
for i := 0; shown < *maxShow; i++ {
    if len(seenList[maxIndex-i]) > 0 { shown++; ... }
}
```

The loop has no other exit: when fewer than `maxShow` buckets are
non-empty it reaches `seenList[-1]` and panics. The other statistics of the
report are left out; only `seen` and `mostSeenCount` feed this loop.

* `seenIs_computeSeen`: `seen[d]` lists each site with a request for `d`
  once, and `mostSeenCount` bounds every list.
* `buildSeenList_eq`: filling the buckets stays in range, and bucket `k`
  holds the domains requested on `k` sites.
* `mostFrequent_panics_iff`: the report panics, always at index `-1`,
  exactly when the data set has fewer than `maxShow` distinct numbers of
  sites per domain; a data set of one site, or none, makes the default
  report panic.
-/
namespace Defector.Dnsstats
open Defector.Go Defector.Dns

/-- `data`: the samples of each site, as one `range` over the map visits them. -/
abbrev Data := List (Int × List Sample)

/-- `appendIfNew`. mirrors cmd/dnsstats/dnsstats.go:456-463 -/
def appendIfNew (data : List Int) (item : Int) : List Int :=
  if item ∈ data then data else data ++ [item]

/-- What the loop over the data keeps for the report of the most requested domains. -/
structure SeenState where
  seen : AList (fun _ : Bytes => List Int)
  mostSeenCount : Nat

/-- One request of a sample of `site` (dnsstats.go:149-155). -/
def seenStep (site : Int) (st : SeenState) (request : Request) : SeenState :=
  let sites := appendIfNew ((st.seen.lookup request.domain).getD []) site
  { seen := st.seen.insert request.domain sites
    mostSeenCount := if sites.length > st.mostSeenCount then sites.length else st.mostSeenCount }

/-- `seen` and `mostSeenCount` after the loop over the data (dnsstats.go:138-160). -/
def computeSeen (data : Data) : SeenState :=
  data.foldl (fun st e => e.2.foldl (fun st s => s.requests.foldl (seenStep e.1) st) st) ⟨∅, 0⟩

/-- A run-time panic `index out of range [index]`. -/
structure IndexOutOfRange where
  index : Int
  deriving DecidableEq, Repr

/-- `seenList[len(c)] = append(seenList[len(c)], site)`, checked as Go checks it. -/
def bucket (seenList : List (List Bytes)) (e : Σ _ : Bytes, List Int) :
    Except IndexOutOfRange (List (List Bytes)) :=
  if e.2.length < seenList.length then .ok (seenList.modify (· ++ [e.1]) e.2.length)
  else .error ⟨e.2.length⟩

/-- The buckets: `make([][]string, mostSeenCount+1)` filled by the `range seen` loop
(dnsstats.go:329-332). -/
def buildSeenList (mostSeenCount : Nat) (seen : AList (fun _ : Bytes => List Int)) :
    Except IndexOutOfRange (List (List Bytes)) :=
  seen.entries.foldlM bucket (List.replicate (mostSeenCount + 1) [])

/-- The loop over the buckets (dnsstats.go:335-350) on `seenList[maxIndex-i]` down to
`seenList[0]`, reversed: the head of `b :: rest` is `seenList[rest.length]`, and after the
last one the index is `-1`. The result is the indices of the buckets shown. -/
def showLoop (maxShow : Int) (shown : Nat) :
    List (List Bytes) → Except IndexOutOfRange (List Nat)
  | [] => if (shown : Int) < maxShow then .error ⟨-1⟩ else .ok []
  | b :: rest =>
    if (shown : Int) < maxShow then
      if b.length > 0 then (rest.length :: ·) <$> showLoop maxShow (shown + 1) rest
      else showLoop maxShow shown rest
    else .ok []

/-- The report of the most requested domains: the site counts it shows.
mirrors cmd/dnsstats/dnsstats.go:138-160, 329-350 -/
def mostFrequent (maxShow : Int) (data : Data) : Except IndexOutOfRange (List Nat) := do
  let st := computeSeen data
  let seenList ← buildSeenList st.mostSeenCount st.seen
  showLoop maxShow 0 seenList.reverse

/-! ## The data, without the loop -/

/-- Site `site` has a sample with a request for `d`. -/
def RequestedOn (data : Data) (site : Int) (d : Bytes) : Prop :=
  ∃ samples, (site, samples) ∈ data ∧ ∃ s ∈ samples, ∃ r ∈ s.requests, r.domain = d

/-- The sites with a request for `d`, each once. -/
def sitesOf (data : Data) (d : Bytes) : List Int :=
  ((data.filter fun e => e.2.any fun s => s.requests.any (·.domain == d)).map Prod.fst).dedup

/-- The domains requested in `data`, each once. -/
def domainsOf (data : Data) : List Bytes :=
  (data.flatMap fun e => e.2.flatMap fun s => s.requests.map (·.domain)).dedup

/-- The distinct numbers of sites the requested domains are requested on. -/
def siteCounts (data : Data) : List Nat :=
  ((domainsOf data).map fun d => (sitesOf data d).length).dedup

theorem mem_sitesOf {data : Data} {d : Bytes} {x : Int} :
    x ∈ sitesOf data d ↔ RequestedOn data x d := by
  simp [sitesOf, RequestedOn]

theorem mem_domainsOf {data : Data} {d : Bytes} : d ∈ domainsOf data ↔ ∃ x, RequestedOn data x d := by
  simp only [domainsOf, RequestedOn, List.mem_dedup, List.mem_flatMap, List.mem_map]
  constructor
  · rintro ⟨⟨x, samples⟩, he, s, hs, r, hr, rfl⟩
    exact ⟨x, samples, he, s, hs, r, hr, rfl⟩
  · rintro ⟨x, samples, he, s, hs, r, hr, rfl⟩
    exact ⟨⟨x, samples⟩, he, s, hs, r, hr, rfl⟩

/-! ## `seen` and `mostSeenCount` -/

theorem mem_appendIfNew {sites : List Int} {site x : Int} :
    x ∈ appendIfNew sites site ↔ x ∈ sites ∨ x = site := by
  unfold appendIfNew
  split <;> simp_all [or_iff_left_of_imp]

theorem nodup_appendIfNew {sites : List Int} (h : sites.Nodup) (site : Int) :
    (appendIfNew sites site).Nodup := by
  unfold appendIfNew
  split
  · exact h
  · exact h.append (List.nodup_singleton _) (List.disjoint_singleton.2 ‹_›)

/-- `seen` lists, for every domain `d`, exactly the sites `P · d`, each once, no list is
empty, and `mostSeenCount` bounds every list. -/
structure SeenIs (st : SeenState) (P : Int → Bytes → Prop) : Prop where
  mem : ∀ d x, x ∈ (st.seen.lookup d).getD [] ↔ P x d
  nodup : ∀ d, ((st.seen.lookup d).getD []).Nodup
  ne_nil : ∀ d, st.seen.lookup d ≠ some []
  bound : ∀ d, ((st.seen.lookup d).getD []).length ≤ st.mostSeenCount

theorem SeenIs.congr {st : SeenState} {P Q : Int → Bytes → Prop} (h : SeenIs st P)
    (hPQ : ∀ x d, P x d ↔ Q x d) : SeenIs st Q :=
  ⟨fun d x => (h.mem d x).trans (hPQ x d), h.nodup, h.ne_nil, h.bound⟩

theorem seenIs_empty : SeenIs ⟨∅, 0⟩ fun _ _ => False :=
  ⟨by simp, by simp, by simp, by simp⟩

theorem lookup_seenStep_self (site : Int) (st : SeenState) (req : Request) :
    (seenStep site st req).seen.lookup req.domain =
      some (appendIfNew ((st.seen.lookup req.domain).getD []) site) :=
  AList.lookup_insert _

theorem lookup_seenStep_ne {d : Bytes} {req : Request} (hd : d ≠ req.domain) (site : Int)
    (st : SeenState) : (seenStep site st req).seen.lookup d = st.seen.lookup d :=
  AList.lookup_insert_ne hd

/-- One request adds its site to its domain's list. -/
theorem SeenIs.step {st : SeenState} {P : Int → Bytes → Prop} (h : SeenIs st P) (site : Int)
    (req : Request) :
    SeenIs (seenStep site st req) fun x d => P x d ∨ (x = site ∧ d = req.domain) := by
  have hle : st.mostSeenCount ≤ (seenStep site st req).mostSeenCount := by
    simp only [seenStep]; split <;> omega
  have hnew : (appendIfNew ((st.seen.lookup req.domain).getD []) site).length ≤
      (seenStep site st req).mostSeenCount := by
    simp only [seenStep]; split <;> omega
  refine ⟨fun d x => ?_, fun d => ?_, fun d => ?_, fun d => ?_⟩ <;>
    by_cases hd : d = req.domain
  · subst hd
    rw [lookup_seenStep_self, Option.getD_some, mem_appendIfNew, h.mem]
    simp
  · rw [lookup_seenStep_ne hd, h.mem]
    simp [hd]
  · subst hd
    rw [lookup_seenStep_self, Option.getD_some]
    exact nodup_appendIfNew (h.nodup _) site
  · rw [lookup_seenStep_ne hd]
    exact h.nodup d
  · subst hd
    rw [lookup_seenStep_self]
    intro he
    have := (@mem_appendIfNew ((st.seen.lookup req.domain).getD []) site site).2 (.inr rfl)
    rw [Option.some.inj he] at this
    exact List.not_mem_nil _ this
  · rw [lookup_seenStep_ne hd]
    exact h.ne_nil d
  · subst hd
    rw [lookup_seenStep_self, Option.getD_some]
    exact hnew
  · rw [lookup_seenStep_ne hd]
    exact (h.bound d).trans hle

theorem SeenIs.requests {st : SeenState} {P : Int → Bytes → Prop} (h : SeenIs st P) (site : Int) :
    ∀ reqs : List Request, SeenIs (reqs.foldl (seenStep site) st)
      fun x d => P x d ∨ (x = site ∧ ∃ r ∈ reqs, r.domain = d)
  | [] => h.congr fun x d => by simp
  | r :: reqs => by
    refine ((h.step site r).requests site reqs).congr fun x d => ?_
    simp only [List.mem_cons, exists_eq_or_imp]
    constructor
    · rintro ((hp | ⟨rfl, rfl⟩) | ⟨rfl, hr⟩)
      exacts [.inl hp, .inr ⟨rfl, .inl rfl⟩, .inr ⟨rfl, .inr hr⟩]
    · rintro (hp | ⟨rfl, rfl | hr⟩)
      exacts [.inl (.inl hp), .inl (.inr ⟨rfl, rfl⟩), .inr ⟨rfl, hr⟩]

theorem SeenIs.samples {st : SeenState} {P : Int → Bytes → Prop} (h : SeenIs st P) (site : Int) :
    ∀ samples : List Sample,
      SeenIs (samples.foldl (fun st s => s.requests.foldl (seenStep site) st) st)
        fun x d => P x d ∨ (x = site ∧ ∃ s ∈ samples, ∃ r ∈ s.requests, r.domain = d)
  | [] => h.congr fun x d => by simp
  | s :: samples => by
    refine ((h.requests site s.requests).samples site samples).congr fun x d => ?_
    simp only [List.mem_cons, exists_eq_or_imp]
    constructor
    · rintro ((hp | ⟨rfl, hr⟩) | ⟨rfl, hs⟩)
      exacts [.inl hp, .inr ⟨rfl, .inl hr⟩, .inr ⟨rfl, .inr hs⟩]
    · rintro (hp | ⟨rfl, hr | hs⟩)
      exacts [.inl (.inl hp), .inl (.inr ⟨rfl, hr⟩), .inr ⟨rfl, hs⟩]

theorem seenIs_computeSeen (data : Data) : SeenIs (computeSeen data) (RequestedOn data) := by
  suffices ∀ (st : SeenState) (P : Int → Bytes → Prop), SeenIs st P →
      SeenIs (data.foldl (fun st e => e.2.foldl (fun st s => s.requests.foldl (seenStep e.1) st) st)
        st) fun x d => P x d ∨ RequestedOn data x d from
    (this _ _ seenIs_empty).congr fun x d => by simp
  induction data with
  | nil => intro st P h; simpa [RequestedOn] using h
  | cons e data ih =>
    intro st P h
    refine (ih _ _ (h.samples e.1 e.2)).congr fun x d => ?_
    obtain ⟨site, samples⟩ := e
    simp only [RequestedOn, List.mem_cons, Prod.mk.injEq]
    constructor
    · rintro ((hp | ⟨rfl, hs⟩) | ⟨smp, hm, hs⟩)
      exacts [.inl hp, .inr ⟨samples, .inl ⟨rfl, rfl⟩, hs⟩, .inr ⟨smp, .inr hm, hs⟩]
    · rintro (hp | ⟨smp, ⟨rfl, rfl⟩ | hm, hs⟩)
      exacts [.inl (.inl hp), .inl (.inr ⟨rfl, hs⟩), .inr ⟨smp, hm, hs⟩]

/-- `seen[d]` has one entry per site with a request for `d`. -/
theorem length_lookup_computeSeen (data : Data) (d : Bytes) :
    (((computeSeen data).seen.lookup d).getD []).length = (sitesOf data d).length := by
  have h := seenIs_computeSeen data
  have hnd : (sitesOf data d).Nodup := List.nodup_dedup _
  refine ((List.perm_ext_iff_of_nodup (h.nodup d) hnd).2 fun x => ?_).length_eq
  rw [h.mem, mem_sitesOf]

/-- The lengths of `seen`'s lists are the numbers of sites of the requested domains. -/
theorem length_dedup_seen (data : Data) :
    ((computeSeen data).seen.entries.map (·.2.length)).dedup.length = (siteCounts data).length := by
  have h := seenIs_computeSeen data
  refine ((List.perm_ext_iff_of_nodup (List.nodup_dedup _) (List.nodup_dedup _)).2
    fun n => ?_).length_eq
  simp only [siteCounts, List.mem_dedup, List.mem_map, mem_domainsOf]
  constructor
  · rintro ⟨⟨d, sites⟩, he, rfl⟩
    have hl : (computeSeen data).seen.lookup d = some sites := AList.mem_lookup_iff.2 he
    obtain ⟨x, hx⟩ := List.exists_mem_of_ne_nil sites fun h0 => h.ne_nil d (h0 ▸ hl)
    refine ⟨d, ⟨x, (h.mem d x).1 (by rw [hl]; exact hx)⟩, ?_⟩
    rw [← length_lookup_computeSeen, hl, Option.getD_some]
  · rintro ⟨d, ⟨x, hx⟩, rfl⟩
    have hmem := (h.mem d x).2 hx
    cases hl : (computeSeen data).seen.lookup d with
    | none => rw [hl] at hmem; exact absurd hmem (List.not_mem_nil _)
    | some sites =>
      refine ⟨⟨d, sites⟩, AList.mem_lookup_iff.1 hl, ?_⟩
      rw [← length_lookup_computeSeen, hl, Option.getD_some]

/-! ## The buckets -/

theorem modify_map_range (f : List Bytes → List Bytes) (g : Nat → List Bytes) (m n : Nat) :
    ((List.range m).map g).modify f n =
      (List.range m).map fun k => if k = n then f (g k) else g k := by
  refine List.ext_getElem (by simp) fun k h1 h2 => ?_
  simp [List.getElem_modify, eq_comm]

/-- Filling buckets `g` of indices below `m` from entries whose lengths are below `m`. -/
theorem foldlM_bucket (m : Nat) :
    ∀ (entries : List (Σ _ : Bytes, List Int)) (g : Nat → List Bytes),
      (∀ e ∈ entries, e.2.length < m) →
      entries.foldlM bucket ((List.range m).map g) =
        .ok ((List.range m).map fun k => g k ++ (entries.filter (·.2.length = k)).map (·.1))
  | [], g, _ => by simp; rfl
  | e :: entries, g, h => by
    have he : e.2.length < ((List.range m).map g).length := by
      simpa using h e (List.mem_cons_self _ _)
    rw [List.foldlM_cons, bucket, if_pos he, modify_map_range]
    refine (foldlM_bucket m entries _ fun e' he' => h e' (List.mem_cons_of_mem _ he')).trans ?_
    congr 2
    funext k
    by_cases hk : k = e.2.length <;> simp [hk, List.filter_cons, eq_comm]

/-- The buckets stay in range, and bucket `k` holds the domains of the lists of length `k`. -/
theorem buildSeenList_eq {mostSeenCount : Nat} {seen : AList (fun _ : Bytes => List Int)}
    (h : ∀ e ∈ seen.entries, e.2.length ≤ mostSeenCount) :
    buildSeenList mostSeenCount seen = .ok ((List.range (mostSeenCount + 1)).map fun k =>
      (seen.entries.filter (·.2.length = k)).map (·.1)) := by
  have hrep : List.replicate (mostSeenCount + 1) ([] : List Bytes) =
      (List.range (mostSeenCount + 1)).map fun _ => [] := by simp
  rw [buildSeenList, hrep, foldlM_bucket _ _ _ fun e he => Nat.lt_succ_of_le (h e he)]
  simp

/-- The non-empty buckets are as many as the distinct lengths. -/
theorem length_filter_buckets (entries : List (Σ _ : Bytes, List Int)) (m : Nat)
    (h : ∀ e ∈ entries, e.2.length < m) :
    (((List.range m).map fun k => (entries.filter (·.2.length = k)).map (·.1)).filter
      (· ≠ [])).length = (entries.map (·.2.length)).dedup.length := by
  rw [List.filter_map, List.length_map]
  refine ((List.perm_ext_iff_of_nodup ((List.nodup_range m).filter _) (List.nodup_dedup _)).2
    fun k => ?_).length_eq
  simp only [List.mem_filter, List.mem_range, Function.comp_apply, ne_eq, List.map_eq_nil_iff,
    List.filter_eq_nil_iff, decide_eq_true_eq, not_forall, not_not, List.mem_dedup, List.mem_map]
  constructor
  · rintro ⟨-, e, he, hk⟩
    exact ⟨e, he, hk⟩
  · rintro ⟨e, he, rfl⟩
    exact ⟨h e he, e, he, rfl⟩

/-! ## The loop over the buckets -/

theorem map_eq_error {α β ε : Type} (f : α → β) (x : Except ε α) (e : ε) :
    f <$> x = .error e ↔ x = .error e := by
  cases x <;> simp [Functor.map, Except.map]

/-- The loop panics, at `-1`, exactly when it runs out of buckets before `maxShow` non-empty
ones are shown. -/
theorem showLoop_error_iff (maxShow : Int) (e : IndexOutOfRange) :
    ∀ (buckets : List (List Bytes)) (shown : Nat), showLoop maxShow shown buckets = .error e ↔
      e = ⟨-1⟩ ∧ ((shown + (buckets.filter (· ≠ [])).length : Nat) : Int) < maxShow
  | [], shown => by
    by_cases h : (shown : Int) < maxShow <;> simp [showLoop, h, eq_comm]
  | b :: rest, shown => by
    rw [showLoop]
    by_cases h : (shown : Int) < maxShow
    · rw [if_pos h]
      by_cases hb : b.length > 0
      · have hb' : b ≠ [] := List.ne_nil_of_length_pos hb
        rw [if_pos hb, map_eq_error, showLoop_error_iff maxShow e rest (shown + 1),
          List.filter_cons_of_pos (by simpa using hb'), List.length_cons, Nat.add_right_comm,
          Nat.add_assoc]
      · have hb' : b = [] := List.eq_nil_of_length_eq_zero (by omega)
        rw [if_neg hb, showLoop_error_iff maxShow e rest shown]
        simp [hb']
    · rw [if_neg h]
      simp only [reduceCtorEq, false_iff, not_and]
      exact fun _ hlt => h (lt_of_le_of_lt (by exact_mod_cast Nat.le_add_right _ _) hlt)

theorem mostFrequent_panics_iff (maxShow : Int) (data : Data) (e : IndexOutOfRange) :
    mostFrequent maxShow data = .error e ↔
      e = ⟨-1⟩ ∧ ((siteCounts data).length : Int) < maxShow := by
  have h := seenIs_computeSeen data
  have hbound : ∀ x ∈ (computeSeen data).seen.entries, x.2.length ≤ (computeSeen data).mostSeenCount :=
    fun x hx => by
      have hl : (computeSeen data).seen.lookup x.1 = some x.2 := AList.mem_lookup_iff.2 hx
      simpa [hl] using h.bound x.1
  simp only [mostFrequent, buildSeenList_eq hbound, bind, Except.bind, showLoop_error_iff,
    List.filter_reverse, List.length_reverse, Nat.zero_add,
    length_filter_buckets _ _ fun x hx => Nat.lt_succ_of_le (hbound x hx), length_dedup_seen]

/-- One site with one domain: one non-empty bucket, so the default report panics, and a
report of one bucket shows the domains seen on one site. -/
example : mostFrequent 5 [(1, [⟨[⟨[97], 60, []⟩]⟩])] = .error ⟨-1⟩ := rfl
example : mostFrequent 1 [(1, [⟨[⟨[97], 60, []⟩]⟩])] = .ok [1] := rfl

end Defector.Dnsstats
