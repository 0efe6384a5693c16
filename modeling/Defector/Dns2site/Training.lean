import Mathlib.Data.List.AList
import Defector.Dns.Read

/-!
# `dns2site` training: unique and common domains

`training` (part_002:122-133) builds a site's fingerprint from the samples
not held out for testing: the domains only one monitored site requests
(`getUniqueDomainsToSite`, cmd/dns2site/helpers.go:73-118), and, for the
monitored sites without such a domain, the domains common to their
training samples (`getCommonDomains`, helpers.go:120-152).

A Go map that is ranged over is the list of its entries in the order of
that range; every theorem here is over every such list, so over every
iteration order. A `mapset` set is the list of its elements in the order
they were added, and what is proved about sets is about membership and
multiplicity only.

* `seenIs_getSeenSites`: `seen[d]` lists exactly the sites with a training
  request for `d`, and is never empty.
* `unique_domains_spec`: `uniqueDomainToSite[d] = s` exactly when some
  training sample requests `d`, all of them are samples of `s`, and `s` is
  monitored; `siteHasUnique` holds exactly the sites in its image.
* `getCommonDomains_first_sample`: the common domains of a site are those
  of its first training sample, each once: `Intersect`'s result is
  assigned to `domains` (helpers.go:139), which is never read again.
-/
namespace Defector.Dns2site
open Defector.Go Defector.Dns

/-- `data`: the samples of each site, as one `range` over the map visits them. -/
abbrev Data := List (Int × List Sample)

/-- The map `seen`: domain to the sites a training request for it was seen on. -/
abbrev Seen := AList (fun _ : Bytes => List Int)

/-- `seen[domain] = append(seen[domain], site)`. -/
def appendSite (seen : Seen) (domain : Bytes) (site : Int) : Seen :=
  seen.insert domain ((seen.lookup domain).getD [] ++ [site])

/-- `getSeenSites`: every training request of every sample adds its site to its domain.
mirrors cmd/dns2site/helpers.go:73-87 -/
def getSeenSites (data : Data) (forTesting : Int → Nat → Bool) : Seen :=
  data.foldl (fun seen ⟨site, samples⟩ =>
    samples.enum.foldl (fun seen ⟨samp, s⟩ =>
      s.requests.foldl (fun seen req =>
        if !forTesting site samp then appendSite seen req.domain site else seen) seen) seen) ∅

/-- The site a domain seen on `sites` is mapped to: `sites[0]`, if it is monitored and
every entry equals it (helpers.go:99-111). `seen` holds no empty list
(`seenIs_getSeenSites`), so the first case, where Go would panic, is never met. -/
def uniqueSite (unmonitored : Int → Bool) : List Int → Option Int
  | [] => none
  | s0 :: sites => if !unmonitored s0 && (s0 :: sites).all (· == s0) then some s0 else none

/-- One iteration of the `range seen` loop (helpers.go:97-112). -/
def insertUnique (unmonitored : Int → Bool) (u : AList (fun _ : Bytes => Int))
    (e : Σ _ : Bytes, List Int) : AList (fun _ : Bytes => Int) :=
  match uniqueSite unmonitored e.2 with
  | some site => u.insert e.1 site
  | none => u

/-- `getUniqueDomainsToSite`: `uniqueDomainToSite` and `siteHasUnique`.
mirrors cmd/dns2site/helpers.go:89-118 -/
def getUniqueDomainsToSite (data : Data) (forTesting : Int → Nat → Bool)
    (unmonitored : Int → Bool) : AList (fun _ : Bytes => Int) × AList (fun _ : Int => Bool) :=
  let seen := getSeenSites data forTesting
  let uniqueDomainToSite := seen.entries.foldl (insertUnique unmonitored) ∅
  let siteHasUnique := uniqueDomainToSite.entries.foldl (fun h e => h.insert e.2 true) ∅
  (uniqueDomainToSite, siteHasUnique)

/-- `domains.Add(req.domain)`. -/
def addDomain (set : List Bytes) (req : Request) : List Bytes :=
  if req.domain ∈ set then set else set ++ [req.domain]

/-- `mapset.NewSet()` and `Add` for every request: the distinct domains of a sample. -/
def domainSet (s : Sample) : List Bytes := s.requests.foldl addDomain []

/-- One iteration of the loop over the samples of a site, on `c` and `first`
(helpers.go:131-142). After the first training sample, `domains = domains.Intersect(c)`
leaves `c` as it is. -/
def commonStep (forTesting : Int → Nat → Bool) (site : Int) (st : List Bytes × Bool)
    (e : Nat × Sample) : List Bytes × Bool :=
  if !forTesting site e.1 then (if st.2 then (domainSet e.2, false) else st) else st

/-- The loop over the samples of one site (helpers.go:129-143). -/
def commonLoop (forTesting : Int → Nat → Bool) (site : Int) (samples : List Sample) :
    List Bytes × Bool :=
  samples.enum.foldl (commonStep forTesting site) ([], true)

/-- `common[site] = append(common[site], domain)`. -/
def appendDomain (common : AList (fun _ : Int => List Bytes)) (site : Int) (domain : Bytes) :
    AList (fun _ : Int => List Bytes) :=
  common.insert site ((common.lookup site).getD [] ++ [domain])

/-- One iteration of the `range data` loop (helpers.go:126-149): a monitored site without
a unique domain appends the domains of its `c`. -/
def addCommon (hasUnique : AList (fun _ : Int => Bool)) (forTesting : Int → Nat → Bool)
    (unmonitored : Int → Bool) (common : AList (fun _ : Int => List Bytes))
    (e : Int × List Sample) : AList (fun _ : Int => List Bytes) :=
  if !unmonitored e.1 && e.1 ∉ hasUnique then
    (commonLoop forTesting e.1 e.2).1.foldl (fun common d => appendDomain common e.1 d) common
  else common

/-- `getCommonDomains`: for every monitored site without a unique domain, the domains of
`c`. mirrors cmd/dns2site/helpers.go:120-152 -/
def getCommonDomains (data : Data) (hasUnique : AList (fun _ : Int => Bool))
    (forTesting : Int → Nat → Bool) (unmonitored : Int → Bool) :
    AList (fun _ : Int => List Bytes) :=
  data.foldl (addCommon hasUnique forTesting unmonitored) ∅

/-- The fingerprints of one fold. mirrors part_002:28-31 -/
structure Fingerprints where
  uniqueDomainToSite : AList (fun _ : Bytes => Int)
  commonDomains : AList (fun _ : Int => List Bytes)

/-- `training`: common domains only with `-common`. mirrors part_002:122-133 -/
def training (useCommon : Bool) (data : Data) (forTesting : Int → Nat → Bool)
    (unmonitored : Int → Bool) : Fingerprints :=
  let (uniqueDomainToSite, siteHasUnique) := getUniqueDomainsToSite data forTesting unmonitored
  { uniqueDomainToSite
    commonDomains :=
      if useCommon then getCommonDomains data siteHasUnique forTesting unmonitored else ∅ }

/-! ## `seen` -/

/-- Sample `samp` of `site` is a training sample and requests `d`. -/
def TrainedOn (data : Data) (forTesting : Int → Nat → Bool) (site : Int) (d : Bytes) : Prop :=
  ∃ samples, (site, samples) ∈ data ∧ ∃ samp s, samples[samp]? = some s ∧
    forTesting site samp = false ∧ ∃ req ∈ s.requests, req.domain = d

/-- `seen` lists, for every domain `d`, exactly the sites `P · d`, and no list is empty. -/
structure SeenIs (seen : Seen) (P : Int → Bytes → Prop) : Prop where
  mem : ∀ d x, x ∈ (seen.lookup d).getD [] ↔ P x d
  ne_nil : ∀ d, seen.lookup d ≠ some []

theorem SeenIs.congr {seen : Seen} {P Q : Int → Bytes → Prop} (h : SeenIs seen P)
    (hPQ : ∀ x d, P x d ↔ Q x d) : SeenIs seen Q :=
  ⟨fun d x => (h.mem d x).trans (hPQ x d), h.ne_nil⟩

theorem seenIs_empty : SeenIs ∅ fun _ _ => False :=
  ⟨fun _ _ => by simp, fun _ => by simp⟩

theorem SeenIs.add {seen : Seen} {P : Int → Bytes → Prop} (h : SeenIs seen P)
    (domain : Bytes) (site : Int) :
    SeenIs (appendSite seen domain site) fun x d => P x d ∨ (x = site ∧ d = domain) := by
  constructor
  all_goals intro d
  all_goals by_cases hd : d = domain
  · subst hd
    simp [appendSite, ← h.mem d]
  · simp [appendSite, AList.lookup_insert_ne hd, hd, h.mem d]
  · subst hd
    simp [appendSite]
  · simpa [appendSite, AList.lookup_insert_ne hd] using h.ne_nil d

/-- The loop over the requests of sample `samp` of `site`. -/
theorem SeenIs.requests {seen : Seen} {P : Int → Bytes → Prop} (h : SeenIs seen P)
    (forTesting : Int → Nat → Bool) (site : Int) (samp : Nat) (reqs : List Request) :
    SeenIs (reqs.foldl (fun seen req =>
        if !forTesting site samp then appendSite seen req.domain site else seen) seen)
      fun x d => P x d ∨
        (x = site ∧ forTesting site samp = false ∧ ∃ req ∈ reqs, req.domain = d) := by
  induction reqs generalizing seen P with
  | nil => simpa using h
  | cons r reqs ih =>
    by_cases ht : forTesting site samp = true
    · rw [List.foldl_cons, if_neg (by simp [ht])]
      simpa [ht] using ih h
    · rw [List.foldl_cons, if_pos (by simpa using ht)]
      refine (ih (h.add r.domain site)).congr fun x d => ?_
      simp only [ht, List.mem_cons, exists_eq_or_imp, true_and, @eq_comm _ r.domain d,
        and_or_left, or_assoc]

/-- The loop over the samples of `site`, indices from `n`. -/
theorem SeenIs.samples {seen : Seen} {P : Int → Bytes → Prop} (h : SeenIs seen P)
    (forTesting : Int → Nat → Bool) (site : Int) (samples : List Sample) (n : Nat) :
    SeenIs ((samples.enumFrom n).foldl (fun seen (e : Nat × Sample) =>
        e.2.requests.foldl (fun seen req =>
          if !forTesting site e.1 then appendSite seen req.domain site else seen) seen) seen)
      fun x d => P x d ∨ (x = site ∧ ∃ i s, samples[i]? = some s ∧
        forTesting site (n + i) = false ∧ ∃ req ∈ s.requests, req.domain = d) := by
  induction samples generalizing seen P n with
  | nil => simpa using h
  | cons s samples ih =>
    rw [List.enumFrom_cons, List.foldl_cons]
    refine (ih (h.requests forTesting site n s.requests) (n + 1)).congr fun x d => ?_
    constructor
    · rintro ((h1 | ⟨rfl, ht, hr⟩) | ⟨rfl, i, s', hi, ht, hr⟩)
      · exact .inl h1
      · exact .inr ⟨rfl, 0, s, List.getElem?_cons_zero, ht, hr⟩
      · exact .inr ⟨rfl, i + 1, s', by rwa [List.getElem?_cons_succ],
          by rwa [Nat.add_right_comm] at ht, hr⟩
    · rintro (h1 | ⟨rfl, _ | i, s', hi, ht, hr⟩)
      · exact .inl (.inl h1)
      · rw [List.getElem?_cons_zero, Option.some_inj] at hi
        subst hi
        exact .inl (.inr ⟨rfl, ht, hr⟩)
      · rw [List.getElem?_cons_succ] at hi
        exact .inr ⟨rfl, i, s', hi, by rwa [Nat.add_right_comm], hr⟩

theorem seenIs_getSeenSites (data : Data) (forTesting : Int → Nat → Bool) :
    SeenIs (getSeenSites data forTesting) (TrainedOn data forTesting) := by
  suffices ∀ (seen : Seen) (P : Int → Bytes → Prop), SeenIs seen P →
      SeenIs (data.foldl (fun seen (e : Int × List Sample) =>
        e.2.enum.foldl (fun seen (p : Nat × Sample) =>
          p.2.requests.foldl (fun seen req =>
            if !forTesting e.1 p.1 then appendSite seen req.domain e.1 else seen) seen) seen) seen)
        fun x d => P x d ∨ TrainedOn data forTesting x d from
    (this ∅ _ seenIs_empty).congr fun x d => by simp
  induction data with
  | nil => intro seen P h; simpa [TrainedOn] using h
  | cons e data ih =>
    intro seen P h
    rw [List.foldl_cons]
    refine (ih _ _ (h.samples forTesting e.1 e.2 0)).congr fun x d => ?_
    obtain ⟨site, samples⟩ := e
    simp only [TrainedOn, List.mem_cons, Prod.mk.injEq, Nat.zero_add, or_and_right, exists_or,
      and_assoc, exists_and_left, exists_eq_left, or_assoc]
    exact or_congr_right (or_congr_left (and_congr_right fun hx => by rw [hx]))

/-! ## `uniqueDomainToSite` and `siteHasUnique` -/

theorem uniqueSite_eq_some (unmonitored : Int → Bool) (sites : List Int) (s : Int) :
    uniqueSite unmonitored sites = some s ↔
      sites ≠ [] ∧ (∀ x ∈ sites, x = s) ∧ unmonitored s = false := by
  cases sites with
  | nil => simp [uniqueSite]
  | cons s0 sites =>
    simp only [uniqueSite, List.all_eq_true, beq_iff_eq, Bool.and_eq_true, Bool.not_eq_true',
      decide_eq_true_eq]
    split
    · rename_i hc
      simp only [Option.some.injEq, ne_eq, reduceCtorEq, not_false_eq_true, true_and]
      constructor
      · rintro rfl; exact ⟨hc.2, hc.1⟩
      · rintro ⟨hx, -⟩; exact hx s0 (List.mem_cons_self _ _)
    · rename_i hc
      simp only [reduceCtorEq, false_iff, ne_eq, not_false_eq_true, true_and, not_and]
      intro hx hs
      have h0 : s0 = s := hx s0 (List.mem_cons_self _ _)
      subst h0
      exact hc ⟨hs, hx⟩

/-- The `range seen` loop, over entries with distinct keys in any order: the entry of a
domain decides alone what it maps to. -/
theorem lookup_foldl_insertUnique (unmonitored : Int → Bool) :
    ∀ (l : List (Σ _ : Bytes, List Int)), l.NodupKeys → ∀ u d,
      (l.foldl (insertUnique unmonitored) u).lookup d =
        ((l.dlookup d).bind (uniqueSite unmonitored)).or (u.lookup d)
  | [], _, u, d => by simp
  | ⟨k, v⟩ :: l, hl, u, d => by
    rw [List.nodupKeys_cons] at hl
    rw [List.foldl_cons, lookup_foldl_insertUnique unmonitored l hl.2]
    by_cases hd : d = k
    · subst hd
      rw [List.dlookup_eq_none.2 hl.1, List.dlookup_cons_eq]
      simp only [insertUnique]
      split <;> simp_all
    · rw [List.dlookup_cons_ne _ _ hd]
      simp only [insertUnique]
      split <;> simp [AList.lookup_insert_ne hd]

/-- The `range uniqueDomainToSite` loop: a site is marked exactly when it is a value. -/
theorem lookup_foldl_mark :
    ∀ (l : List (Σ _ : Bytes, Int)) (h : AList (fun _ : Int => Bool)) (s : Int),
      (l.foldl (fun h e => h.insert e.2 true) h).lookup s =
        if ∃ e ∈ l, e.2 = s then some true else h.lookup s
  | [], h, s => by simp
  | e :: l, h, s => by
    rw [List.foldl_cons, lookup_foldl_mark l]
    by_cases he : e.2 = s
    · subst he; simp
    · have hcons : (∃ e' ∈ e :: l, e'.2 = s) ↔ ∃ e' ∈ l, e'.2 = s := by simp [he]
      rw [if_congr hcons rfl rfl, AList.lookup_insert_ne (Ne.symm he)]

theorem unique_domains_spec (data : Data) (forTesting : Int → Nat → Bool)
    (unmonitored : Int → Bool) :
    (∀ d s, (getUniqueDomainsToSite data forTesting unmonitored).1.lookup d = some s ↔
      (∃ site, TrainedOn data forTesting site d) ∧
        (∀ site, TrainedOn data forTesting site d → site = s) ∧ unmonitored s = false) ∧
    ∀ s, ((getUniqueDomainsToSite data forTesting unmonitored).2.lookup s).getD false = true ↔
      ∃ d, (getUniqueDomainsToSite data forTesting unmonitored).1.lookup d = some s := by
  have hseen := seenIs_getSeenSites data forTesting
  have hu : ∀ d, (getUniqueDomainsToSite data forTesting unmonitored).1.lookup d =
      ((getSeenSites data forTesting).lookup d).bind (uniqueSite unmonitored) := fun d => by
    simpa using lookup_foldl_insertUnique unmonitored _ (getSeenSites data forTesting).nodupKeys ∅ d
  refine ⟨fun d s => ?_, fun s => ?_⟩
  · rw [hu]
    have hmem := hseen.mem d
    cases hl : (getSeenSites data forTesting).lookup d with
    | none =>
      simp only [hl, Option.getD_none, List.not_mem_nil, false_iff] at hmem
      simp [hmem]
    | some sites =>
      simp only [hl, Option.getD_some] at hmem
      have hne : sites ≠ [] := fun h => hseen.ne_nil d (h ▸ hl)
      rw [Option.some_bind, uniqueSite_eq_some]
      simp only [← hmem]
      exact and_congr ⟨fun _ => List.exists_mem_of_ne_nil _ hne,
        fun _ => hne⟩ Iff.rfl
  · simp only [getUniqueDomainsToSite, lookup_foldl_mark]
    split
    · rename_i he
      simp only [Option.getD_some, true_iff]
      obtain ⟨⟨d, s'⟩, hm, rfl⟩ := he
      exact ⟨d, AList.mem_lookup_iff.2 hm⟩
    · rename_i he
      simp only [AList.lookup_empty, Option.getD_none, Bool.false_eq_true, false_iff,
        not_exists]
      exact fun d hd => he ⟨⟨d, s⟩, AList.mem_lookup_iff.1 hd, rfl⟩

/-! ## `common` -/

theorem mem_addDomain {set : List Bytes} {req : Request} {d : Bytes} :
    d ∈ addDomain set req ↔ d ∈ set ∨ req.domain = d := by
  unfold addDomain
  split <;> simp_all [eq_comm]

theorem nodup_addDomain {set : List Bytes} (h : set.Nodup) (req : Request) :
    (addDomain set req).Nodup := by
  unfold addDomain
  split
  · exact h
  · exact h.append (List.nodup_singleton _) (by simpa using ‹_›)

/-- `Add` over a list of requests, from the set `set`. -/
theorem foldl_addDomain (reqs : List Request) {set : List Bytes} (h : set.Nodup) :
    (reqs.foldl addDomain set).Nodup ∧
      ∀ d, d ∈ reqs.foldl addDomain set ↔ d ∈ set ∨ ∃ req ∈ reqs, req.domain = d := by
  induction reqs generalizing set with
  | nil => simpa using h
  | cons r reqs ih =>
    obtain ⟨h1, h2⟩ := ih (nodup_addDomain h r)
    refine ⟨h1, fun d => ?_⟩
    rw [List.foldl_cons, h2, mem_addDomain]
    simp only [List.mem_cons, exists_eq_or_imp, or_assoc]

/-- A sample's set holds each of its domains once. -/
theorem domainSet_spec (s : Sample) :
    (domainSet s).Nodup ∧ ∀ d, d ∈ domainSet s ↔ ∃ req ∈ s.requests, req.domain = d := by
  simpa using foldl_addDomain s.requests List.nodup_nil

/-- Once `first` is false, `c` never changes. -/
theorem foldl_commonStep_done (forTesting : Int → Nat → Bool) (site : Int) :
    ∀ (samples : List Sample) (n : Nat) (c : List Bytes),
      (samples.enumFrom n).foldl (commonStep forTesting site) (c, false) = (c, false)
  | [], _, _ => rfl
  | s :: samples, n, c => by
    rw [List.enumFrom_cons, List.foldl_cons]
    have : commonStep forTesting site (c, false) (n, s) = (c, false) := by
      unfold commonStep; split <;> rfl
    rw [this, foldl_commonStep_done forTesting site samples]

/-- `c` is the set of the first training sample, from index `n` on. -/
theorem foldl_commonStep_first (forTesting : Int → Nat → Bool) (site : Int) (smp : Sample) :
    ∀ (samples : List Sample) (n i : Nat) (c : List Bytes), samples[i]? = some smp →
      forTesting site (n + i) = false → (∀ j < i, forTesting site (n + j) = true) →
      (samples.enumFrom n).foldl (commonStep forTesting site) (c, true) = (domainSet smp, false)
  | [], _, _, _, hi, _, _ => by simp at hi
  | s :: samples, n, 0, c, hi, ht, _ => by
    rw [List.getElem?_cons_zero, Option.some_inj] at hi
    subst hi
    rw [List.enumFrom_cons, List.foldl_cons, commonStep, if_pos (by simpa using ht), if_pos rfl,
      foldl_commonStep_done]
  | s :: samples, n, i + 1, c, hi, ht, hfirst => by
    rw [List.getElem?_cons_succ] at hi
    have h0 : forTesting site n = true := by simpa using hfirst 0 (Nat.succ_pos i)
    rw [List.enumFrom_cons, List.foldl_cons, commonStep, if_neg (by simp [h0])]
    exact foldl_commonStep_first forTesting site smp samples (n + 1) i c hi
      (by rwa [show n + 1 + i = n + (i + 1) by omega])
      fun j hj => by rw [show n + 1 + j = n + (j + 1) by omega]; exact hfirst (j + 1) (by omega)

/-- Appending domains to `common[site]` touches that entry only. -/
theorem foldl_appendDomain (site : Int) :
    ∀ (ds : List Bytes) (common : AList (fun _ : Int => List Bytes)),
      ((ds.foldl (fun common d => appendDomain common site d) common).lookup site).getD [] =
        (common.lookup site).getD [] ++ ds ∧
      ∀ t ≠ site, (ds.foldl (fun common d => appendDomain common site d) common).lookup t =
        common.lookup t
  | [], common => by simp
  | d :: ds, common => by
    obtain ⟨h1, h2⟩ := foldl_appendDomain site ds (appendDomain common site d)
    refine ⟨?_, fun t ht => ?_⟩
    · rw [List.foldl_cons, h1]
      simp [appendDomain]
    · rw [List.foldl_cons, h2 t ht, appendDomain, AList.lookup_insert_ne ht]

/-- The entries of other sites leave `common[t]` alone. -/
theorem lookup_foldl_addCommon (hasUnique : AList (fun _ : Int => Bool))
    (forTesting : Int → Nat → Bool) (unmonitored : Int → Bool) (t : Int) :
    ∀ (data : Data) (common : AList (fun _ : Int => List Bytes)), t ∉ data.map Prod.fst →
      (data.foldl (addCommon hasUnique forTesting unmonitored) common).lookup t =
        common.lookup t
  | [], _, _ => rfl
  | e :: data, common, ht => by
    simp only [List.map_cons, List.mem_cons, not_or] at ht
    rw [List.foldl_cons, lookup_foldl_addCommon hasUnique forTesting unmonitored t data _ ht.2,
      addCommon]
    split
    · exact (foldl_appendDomain e.1 _ common).2 t ht.1
    · rfl

theorem getCommonDomains_first_sample (data : Data) (hasUnique : AList (fun _ : Int => Bool))
    (forTesting : Int → Nat → Bool) (unmonitored : Int → Bool)
    (hkeys : (data.map Prod.fst).Nodup) (site : Int) (samples : List Sample)
    (hmem : (site, samples) ∈ data) (hmon : unmonitored site = false) (hu : site ∉ hasUnique)
    (i : Nat) (smp : Sample) (hi : samples[i]? = some smp) (ht : forTesting site i = false)
    (hfirst : ∀ j < i, forTesting site j = true) :
    (((getCommonDomains data hasUnique forTesting unmonitored).lookup site).getD []).Nodup ∧
    ∀ d, d ∈ ((getCommonDomains data hasUnique forTesting unmonitored).lookup site).getD [] ↔
      ∃ req ∈ smp.requests, req.domain = d := by
  obtain ⟨pre, post, rfl⟩ := List.append_of_mem hmem
  simp only [List.map_append, List.map_cons, List.nodup_append, List.nodup_cons,
    List.disjoint_cons_right] at hkeys
  have hloop : (commonLoop forTesting site samples).1 = domainSet smp := by
    rw [commonLoop, List.enum, foldl_commonStep_first forTesting site smp samples 0 i [] hi
      (by simpa using ht) (by simpa using hfirst)]
  have hc : ((getCommonDomains (pre ++ (site, samples) :: post) hasUnique forTesting
      unmonitored).lookup site).getD [] = domainSet smp := by
    rw [getCommonDomains, List.foldl_append, List.foldl_cons,
      lookup_foldl_addCommon _ _ _ site post _ hkeys.2.1.1, addCommon,
      if_pos (by simp [hmon, hu]), (foldl_appendDomain site _ _).1,
      lookup_foldl_addCommon _ _ _ site pre _ hkeys.2.2.1, hloop]
    rfl
  rw [hc]
  exact domainSet_spec smp

/-- A sample requesting `a` and `b`, and one requesting `a` only. -/
def sampleAB : Sample := ⟨[⟨[97], 60, []⟩, ⟨[98], 60, []⟩]⟩

def sampleA : Sample := ⟨[⟨[97], 60, []⟩]⟩

/-- Site 1 with the training samples `{a, b}` and `{a}`. -/
def twoSamples : Data := [(1, [sampleAB, sampleA])]

theorem getCommonDomains_first_sample_witness :
    (twoSamples.map Prod.fst).Nodup ∧ (1, [sampleAB, sampleA]) ∈ twoSamples ∧
    (fun _ => false : Int → Bool) 1 = false ∧ (1 : Int) ∉ (∅ : AList (fun _ : Int => Bool)) ∧
    [sampleAB, sampleA][0]? = some sampleAB ∧ (fun _ _ => false : Int → Nat → Bool) 1 0 = false ∧
    (∀ j < 0, (fun _ _ => false : Int → Nat → Bool) 1 j = true) ∧
    ((((getCommonDomains twoSamples ∅ (fun _ _ => false) (fun _ => false)).lookup 1).getD
        []).Nodup ∧
      ∀ d, d ∈ ((getCommonDomains twoSamples ∅ (fun _ _ => false) (fun _ => false)).lookup
          1).getD [] ↔ ∃ req ∈ sampleAB.requests, req.domain = d) :=
  ⟨by decide, by decide, rfl, by simp, rfl, rfl, fun j hj => absurd hj (Nat.not_lt_zero j),
    getCommonDomains_first_sample twoSamples ∅ (fun _ _ => false) (fun _ => false) (by decide) 1
      [sampleAB, sampleA] (by decide) rfl (by simp) 0 sampleAB rfl rfl
      fun j hj => absurd hj (Nat.not_lt_zero j)⟩

/-- `b` is listed as common to site 1, though its second sample does not request it. -/
example : (getCommonDomains twoSamples ∅ (fun _ _ => false) (fun _ => false)).lookup 1 =
    some [[97], [98]] := by decide

end Defector.Dns2site
