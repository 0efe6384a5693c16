import Defector.Dnsstats.Report

/-!
# `dnsstats`: the domains unique to one site

Once `seen` is built (dnsstats.go:138-160), `dnsstats` ranges over the data
again (dnsstats.go:175-202). For each request of a site it checks whether
every site in `seen[domain]` is that site; if so the domain is unique to
the site: it is listed once in `uniqueDomains[site]` (through the per-site
map `counted`) and the request's TTL is appended to
`uniqueDomainsTTL[site]` and to `uniqueTTLs`. The loop that follows
(dnsstats.go:209-232) walks the sites `1..len(sites)`: it counts the
unique domains of each and takes the least TTL of its unique requests,
starting from the sentinel `-1`.

The second `range data` may visit the sites in another order than the
first, so the results hold for every order `order ~ data`, given that the
sites are the keys of a map (`(data.map Prod.fst).Nodup`).

* `uniqueDomains_spec`: `uniqueDomains[site]` lists, each once, the
  domains requested on `site` and on no other site, and
  `uniqueDomainsTTL[site]` has the TTLs of the site's requests for them,
  in the order of its samples.
* `uniqueStats_spec`: when no TTL is negative (with the default `-t` every
  TTL is at least 60), `uniqueCount` has the number of unique domains of
  each site, `uniqueMinTTL` the least TTL of each site that has one, and
  the two counters count the minima below `torMinTTL` and above
  `torMaxTTL`. The hypothesis is needed because a TTL of `-1` is taken as
  "no TTL yet".
-/
namespace Defector.Dnsstats
open Defector.Go Defector.Dns

/-- What the loop of dnsstats.go:175-202 builds. -/
structure UniqueState where
  uniqueDomains : AList (fun _ : Int => List Bytes)
  uniqueDomainsTTL : AList (fun _ : Int => List Int)
  uniqueTTLs : List Int

/-- What the state holds for site `x`: `uniqueDomains[x]` and `uniqueDomainsTTL[x]`. -/
def UniqueState.at (st : UniqueState) (x : Int) : List Bytes × List Int :=
  ((st.uniqueDomains.lookup x).getD [], (st.uniqueDomainsTTL.lookup x).getD [])

/-- The `range seenSites` loop and its `break` (dnsstats.go:185-190). -/
def allSame (site : Int) : List Int → Bool
  | [] => true
  | s :: rest => if s ≠ site then false else allSame site rest

/-- `counted[domain] = true` and `uniqueDomains[site] = append(uniqueDomains[site], domain)`,
unless `domain` is counted already (dnsstats.go:192-196). -/
def countDomain (site : Int) (acc : AList (fun _ : Int => List Bytes) × List Bytes)
    (domain : Bytes) : AList (fun _ : Int => List Bytes) × List Bytes :=
  if domain ∈ acc.2 then acc
  else (acc.1.insert site ((acc.1.lookup site).getD [] ++ [domain]), acc.2 ++ [domain])

/-- One request of a sample of `site`, with `counted` as the second component
(dnsstats.go:182-200). -/
def uniqueStep (seen : AList (fun _ : Bytes => List Int)) (site : Int)
    (acc : UniqueState × List Bytes) (request : Request) : UniqueState × List Bytes :=
  if allSame site ((seen.lookup request.domain).getD []) then
    let counted := countDomain site (acc.1.uniqueDomains, acc.2) request.domain
    ({ uniqueDomains := counted.1
       uniqueDomainsTTL := acc.1.uniqueDomainsTTL.insert site
         ((acc.1.uniqueDomainsTTL.lookup site).getD [] ++ [request.ttl])
       uniqueTTLs := acc.1.uniqueTTLs ++ [request.ttl] }, counted.2)
  else acc

/-- The samples of one site, with a fresh `counted` (dnsstats.go:180-201). -/
def uniqueSite (seen : AList (fun _ : Bytes => List Int)) (st : UniqueState)
    (e : Int × List Sample) : UniqueState :=
  (e.2.foldl (fun acc s => s.requests.foldl (uniqueStep seen e.1) acc) (st, [])).1

/-- `uniqueDomains`, `uniqueDomainsTTL` and `uniqueTTLs`, the sites visited in `order`.
mirrors cmd/dnsstats/dnsstats.go:175-202 -/
def computeUnique (seen : AList (fun _ : Bytes => List Int)) (order : Data) : UniqueState :=
  order.foldl (uniqueSite seen) ⟨∅, ∅, []⟩

/-- The `minTTL` loop from the sentinel `-1` (dnsstats.go:212-220). -/
def minTTLLoop (minTTL : Int) : List Int → Int
  | [] => minTTL
  | ttl :: rest => minTTLLoop (if minTTL = -1 ∨ ttl < minTTL then ttl else minTTL) rest

/-- What the loop of dnsstats.go:209-232 builds. -/
structure UniqueStats where
  uniqueCount : List Nat
  uniqueMinTTL : List Int
  uniqueMinBelowTorMinTTL : Nat
  uniqueMinAboveTorMaxTTL : Nat
  deriving DecidableEq, Repr

/-- Site `i + 1` (dnsstats.go:210-231). -/
def statsStep (st : UniqueState) (acc : UniqueStats) (i : Nat) : UniqueStats :=
  let uniqueCount := acc.uniqueCount ++ [((st.uniqueDomains.lookup ((i : Int) + 1)).getD []).length]
  let minTTL := match st.uniqueDomainsTTL.lookup ((i : Int) + 1) with
    | some ttls => minTTLLoop (-1) ttls
    | none => -1
  if minTTL > -1 then
    { uniqueCount
      uniqueMinTTL := acc.uniqueMinTTL ++ [minTTL]
      uniqueMinBelowTorMinTTL :=
        if minTTL < torMinTTL then acc.uniqueMinBelowTorMinTTL + 1 else acc.uniqueMinBelowTorMinTTL
      uniqueMinAboveTorMaxTTL :=
        if minTTL > torMaxTTL then acc.uniqueMinAboveTorMaxTTL + 1 else acc.uniqueMinAboveTorMaxTTL }
  else { acc with uniqueCount }

/-- The statistics of the unique domains of the sites `1..sites`.
mirrors cmd/dnsstats/dnsstats.go:209-232 -/
def uniqueStats (st : UniqueState) (sites : Nat) : UniqueStats :=
  (List.range sites).foldl (statsStep st) ⟨[], [], 0, 0⟩

/-! ## What the loops compute -/

/-- The domains requested on `site` and on no other site. -/
def uniqueDomainsOf (data : Data) (site : Int) : List Bytes :=
  (domainsOf data).filter fun d => sitesOf data d = [site]

/-- The TTLs of the requests of `site` for its unique domains, in the order of its samples. -/
def uniqueTTLsOf (data : Data) (site : Int) : List Int :=
  ((((data.lookup site).getD []).flatMap (·.requests)).filter
    fun r => sitesOf data r.domain = [site]).map (·.ttl)

theorem allSame_iff (site : Int) : ∀ l : List Int, allSame site l = true ↔ ∀ s ∈ l, s = site
  | [] => by simp [allSame]
  | s :: rest => by
    by_cases hs : s = site <;> simp [allSame, hs, allSame_iff site rest]

/-! ## One site -/

section Site

variable (seen : AList (fun _ : Bytes => List Int)) (site : Int)

/-- `seen` says that `d` is unique to `site`. -/
def uniqueHere (d : Bytes) : Bool := allSame site ((seen.lookup d).getD [])

theorem uniqueStep_at_ne {x : Int} (hx : x ≠ site) (acc : UniqueState × List Bytes)
    (r : Request) : (uniqueStep seen site acc r).1.at x = acc.1.at x := by
  unfold uniqueStep countDomain
  split_ifs <;> simp [UniqueState.at, AList.lookup_insert_ne hx]

theorem uniqueStep_ttl (acc : UniqueState × List Bytes) (r : Request) :
    ((uniqueStep seen site acc r).1.at site).2 =
      (acc.1.at site).2 ++ if uniqueHere seen site r.domain then [r.ttl] else [] := by
  unfold uniqueStep uniqueHere
  split <;> simp [UniqueState.at, *]

/-- While the samples of `site` are scanned, `counted` is `uniqueDomains[site]`, lists each
domain once, and holds the domains `D`. -/
structure Counted (acc : UniqueState × List Bytes) (D : Bytes → Prop) : Prop where
  eq : (acc.1.at site).1 = acc.2
  nodup : acc.2.Nodup
  mem : ∀ d, d ∈ acc.2 ↔ D d

/-- What `uniqueDomains[site]` and `uniqueDomainsTTL[site]` are once the samples of `site`
are scanned: the unique domains of its requests, each once, and their TTLs. -/
structure SiteIs (samples : List Sample) (p : List Bytes × List Int) : Prop where
  nodup : p.1.Nodup
  mem : ∀ d, d ∈ p.1 ↔ ∃ r ∈ samples.flatMap (·.requests), uniqueHere seen site r.domain ∧
    r.domain = d
  ttl : p.2 = ((samples.flatMap (·.requests)).filter fun r => uniqueHere seen site r.domain).map
    (·.ttl)

variable {seen site}

theorem Counted.congr {acc : UniqueState × List Bytes} {D E : Bytes → Prop}
    (h : Counted site acc D) (hDE : ∀ d, D d ↔ E d) : Counted site acc E :=
  ⟨h.eq, h.nodup, fun d => (h.mem d).trans (hDE d)⟩

theorem Counted.step {acc : UniqueState × List Bytes} {D : Bytes → Prop}
    (h : Counted site acc D) (r : Request) :
    Counted site (uniqueStep seen site acc r)
      fun d => D d ∨ (uniqueHere seen site r.domain ∧ r.domain = d) := by
  unfold uniqueStep
  by_cases hu : uniqueHere seen site r.domain
  · rw [uniqueHere] at hu
    simp only [hu, if_true, countDomain]
    by_cases hin : r.domain ∈ acc.2
    · simp only [hin, if_true]
      refine ⟨h.eq, h.nodup, fun d => (h.mem d).trans ⟨.inl, ?_⟩⟩
      rintro (hd | ⟨-, rfl⟩)
      exacts [hd, (h.mem _).1 hin]
    · simp only [hin, if_false]
      refine ⟨?_, h.nodup.append (List.nodup_singleton _) (List.disjoint_singleton.2 hin),
        fun d => ?_⟩
      · simpa [UniqueState.at] using h.eq
      · simp [h.mem, uniqueHere, hu, eq_comm]
  · simp only [uniqueHere] at hu
    simp only [hu, if_false]
    exact h.congr fun d => by simp [uniqueHere, hu]

theorem Counted.requests {acc : UniqueState × List Bytes} {D : Bytes → Prop}
    (h : Counted site acc D) : ∀ reqs : List Request,
    Counted site (reqs.foldl (uniqueStep seen site) acc)
      fun d => D d ∨ ∃ r ∈ reqs, uniqueHere seen site r.domain ∧ r.domain = d
  | [] => h.congr fun d => by simp
  | r :: reqs => by
    refine ((h.step r).requests reqs).congr fun d => ?_
    simp only [List.mem_cons, exists_eq_or_imp, or_assoc]

theorem foldl_uniqueStep_at_ne {x : Int} (hx : x ≠ site) :
    ∀ (reqs : List Request) (acc : UniqueState × List Bytes),
      (reqs.foldl (uniqueStep seen site) acc).1.at x = acc.1.at x
  | [], _ => rfl
  | r :: reqs, acc => (foldl_uniqueStep_at_ne hx reqs _).trans (uniqueStep_at_ne seen site hx acc r)

theorem foldl_uniqueStep_ttl : ∀ (reqs : List Request) (acc : UniqueState × List Bytes),
    ((reqs.foldl (uniqueStep seen site) acc).1.at site).2 =
      (acc.1.at site).2 ++ (reqs.filter fun r => uniqueHere seen site r.domain).map (·.ttl)
  | [], _ => by simp
  | r :: reqs, acc => by
    rw [List.foldl_cons, foldl_uniqueStep_ttl reqs, uniqueStep_ttl, List.filter_cons]
    split <;> simp [*]

theorem uniqueSite_eq (st : UniqueState) (samples : List Sample) :
    uniqueSite seen st (site, samples) =
      ((samples.flatMap (·.requests)).foldl (uniqueStep seen site) (st, [])).1 := by
  simp only [uniqueSite, List.flatMap_def, List.foldl_flatten, List.foldl_map]

theorem uniqueSite_at_ne {x : Int} (st : UniqueState) (e : Int × List Sample) (hx : x ≠ e.1) :
    (uniqueSite seen st e).at x = st.at x := by
  obtain ⟨y, samples⟩ := e
  rw [uniqueSite_eq]
  exact foldl_uniqueStep_at_ne hx _ _

theorem uniqueSite_at (st : UniqueState) (samples : List Sample) (h : st.at site = ([], [])) :
    SiteIs seen site samples ((uniqueSite seen st (site, samples)).at site) := by
  have hc : Counted site (st, ([] : List Bytes)) fun _ => False :=
    ⟨by simp [h], List.nodup_nil, by simp⟩
  have := @Counted.requests seen site _ _ hc (samples.flatMap (·.requests))
  rw [uniqueSite_eq]
  refine ⟨this.eq ▸ this.nodup, fun d => ?_, ?_⟩
  · rw [this.eq, this.mem]; simp
  · rw [foldl_uniqueStep_ttl]; simp [h]

end Site

/-! ## Every site, in any order -/

theorem foldl_uniqueSite_at_ne (seen : AList (fun _ : Bytes => List Int)) {x : Int} :
    ∀ (l : Data) (st : UniqueState), (∀ e ∈ l, e.1 ≠ x) →
      (l.foldl (uniqueSite seen) st).at x = st.at x
  | [], _, _ => rfl
  | e :: l, st, h => by
    rw [List.foldl_cons,
      foldl_uniqueSite_at_ne seen l _ fun e' he' => h e' (List.mem_cons_of_mem _ he'),
      uniqueSite_at_ne st e fun hx => h e (List.mem_cons_self _ _) hx.symm]

theorem computeUnique_at_not_mem (seen : AList (fun _ : Bytes => List Int)) {order : Data} {x : Int}
    (h : ∀ e ∈ order, e.1 ≠ x) : (computeUnique seen order).at x = ([], []) :=
  (foldl_uniqueSite_at_ne seen order _ h).trans (by simp [UniqueState.at])

theorem ne_of_not_mem_keys {l : Data} {x : Int} (h : x ∉ l.map Prod.fst) : ∀ e ∈ l, e.1 ≠ x :=
  fun _ he hes => h (hes ▸ List.mem_map_of_mem Prod.fst he)

theorem computeUnique_at_mem (seen : AList (fun _ : Bytes => List Int)) {order : Data}
    (hkeys : (order.map Prod.fst).Nodup) {site : Int} {samples : List Sample}
    (h : (site, samples) ∈ order) : SiteIs seen site samples ((computeUnique seen order).at site) := by
  obtain ⟨pre, post, rfl⟩ := List.append_of_mem h
  simp only [List.map_append, List.map_cons, List.nodup_append, List.nodup_cons] at hkeys
  obtain ⟨-, ⟨hpost, -⟩, hdis⟩ := hkeys
  rw [computeUnique, List.foldl_append, List.foldl_cons,
    foldl_uniqueSite_at_ne seen post _ (ne_of_not_mem_keys hpost)]
  refine uniqueSite_at _ samples
    ((foldl_uniqueSite_at_ne seen pre _ ?_).trans (by simp [UniqueState.at]))
  exact ne_of_not_mem_keys fun hs => hdis hs (List.mem_cons_self _ _)

/-! ## In terms of the data -/

/-- A duplicate-free list holding `a` has no other element exactly when it is `[a]`. -/
theorem forall_eq_iff_eq_singleton {l : List Int} {a : Int} (hl : l.Nodup) (ha : a ∈ l) :
    (∀ x ∈ l, x = a) ↔ l = [a] := by
  refine ⟨fun h => ?_, by rintro rfl; simp⟩
  have hrep := List.eq_replicate_iff.2 ⟨rfl, h⟩
  rw [hrep] at hl
  have h1 := List.nodup_replicate.1 hl
  have h0 := List.length_pos_of_mem ha
  rw [hrep, show l.length = 1 by omega]
  rfl

theorem uniqueHere_iff {data : Data} {site : Int} {d : Bytes} (hd : RequestedOn data site d) :
    uniqueHere (computeSeen data).seen site d = true ↔ sitesOf data d = [site] := by
  rw [uniqueHere, allSame_iff,
    ← @forall_eq_iff_eq_singleton (sitesOf data d) site (List.nodup_dedup _) (mem_sitesOf.2 hd)]
  simp only [(seenIs_computeSeen data).mem, mem_sitesOf]

theorem requestedOn_of_mem {data : Data} {site : Int} {samples : List Sample}
    (h : (site, samples) ∈ data) {r : Request} (hr : r ∈ samples.flatMap (·.requests)) :
    RequestedOn data site r.domain := by
  obtain ⟨s, hs, hr⟩ := List.mem_flatMap.1 hr
  exact ⟨samples, h, s, hs, r, hr, rfl⟩

/-- The sites of `data` are the keys of a map: a site has one list of samples. -/
theorem samples_unique {data : Data} (hkeys : (data.map Prod.fst).Nodup) {site : Int}
    {a b : List Sample} (ha : (site, a) ∈ data) (hb : (site, b) ∈ data) : a = b := by
  simpa using List.inj_on_of_nodup_map hkeys ha hb rfl

theorem requestedOn_of_sitesOf {data : Data} {site : Int} {d : Bytes}
    (hd : sitesOf data d = [site]) : RequestedOn data site d :=
  mem_sitesOf.1 (hd ▸ List.mem_singleton_self site)

theorem lookup_of_mem {data : Data} (hkeys : (data.map Prod.fst).Nodup) {site : Int}
    {samples : List Sample} (h : (site, samples) ∈ data) : data.lookup site = some samples := by
  obtain ⟨pre, post, rfl⟩ := List.append_of_mem h
  simp only [List.map_append, List.map_cons, List.nodup_append] at hkeys
  refine List.lookup_eq_some_iff.2 ⟨pre, post, rfl, fun p hp => bne_iff_ne.2 (Ne.symm ?_)⟩
  exact ne_of_not_mem_keys (fun hs => hkeys.2.2 hs (List.mem_cons_self _ _)) p hp

/-- The unique domains of `site` and their TTLs, as the two loops leave them. -/
theorem computeUnique_at (data order : Data) (hkeys : (data.map Prod.fst).Nodup)
    (horder : order.Perm data) (site : Int) :
    let p := (computeUnique (computeSeen data).seen order).at site
    p.1.Nodup ∧ (∀ d, d ∈ p.1 ↔ sitesOf data d = [site]) ∧ p.2 = uniqueTTLsOf data site := by
  by_cases hs : ∃ samples, (site, samples) ∈ data
  · obtain ⟨samples, hmem⟩ := hs
    have hS := computeUnique_at_mem (computeSeen data).seen
      ((horder.map Prod.fst).nodup_iff.2 hkeys) (horder.symm.subset hmem)
    refine ⟨hS.nodup, fun d => ?_, ?_⟩
    · rw [hS.mem]
      constructor
      · rintro ⟨r, hr, hu, rfl⟩
        exact (uniqueHere_iff (requestedOn_of_mem hmem hr)).1 hu
      · intro hd
        obtain ⟨samples', hmem', s, hs, r, hr, rfl⟩ := requestedOn_of_sitesOf hd
        obtain rfl := samples_unique hkeys hmem' hmem
        exact ⟨r, List.mem_flatMap.2 ⟨s, hs, hr⟩,
          (uniqueHere_iff (requestedOn_of_sitesOf hd)).2 hd, rfl⟩
    · rw [hS.ttl, uniqueTTLsOf, lookup_of_mem hkeys hmem, Option.getD_some]
      congr 1
      refine List.filter_congr fun r hr => ?_
      rw [Bool.eq_iff_iff, uniqueHere_iff (requestedOn_of_mem hmem hr), decide_eq_true_iff]
  · have hnot : ∀ e ∈ order, e.1 ≠ site := fun e he hes =>
      hs ⟨e.2, by rw [← hes]; exact horder.subset he⟩
    have hnone : data.lookup site = none :=
      List.lookup_eq_none_iff.2 fun p hp =>
        bne_iff_ne.2 fun hps : site = p.1 => hs ⟨p.2, by rw [hps]; exact hp⟩
    rw [computeUnique_at_not_mem _ hnot]
    refine ⟨List.nodup_nil, fun d => ⟨fun h => absurd h (List.not_mem_nil d), fun hd => ?_⟩, ?_⟩
    · obtain ⟨samples, hmem, -⟩ := requestedOn_of_sitesOf hd
      exact absurd ⟨samples, hmem⟩ hs
    · simp [uniqueTTLsOf, hnone]

theorem uniqueDomains_spec (data order : Data) (hkeys : (data.map Prod.fst).Nodup)
    (horder : order.Perm data) (site : Int) :
    let st := computeUnique (computeSeen data).seen order
    ((st.uniqueDomains.lookup site).getD []).Nodup ∧
      (∀ d, d ∈ (st.uniqueDomains.lookup site).getD [] ↔ sitesOf data d = [site]) ∧
      (st.uniqueDomainsTTL.lookup site).getD [] = uniqueTTLsOf data site :=
  computeUnique_at data order hkeys horder site

/-- Two sites; `a` is requested on both, `b` only on site 1, twice. -/
def demoData : Data :=
  [(1, [⟨[⟨[97], 60, []⟩, ⟨[98], 90, []⟩]⟩, ⟨[⟨[98], 70, []⟩]⟩]),
    (2, [⟨[⟨[97], 80, []⟩]⟩])]

theorem uniqueDomains_spec_demo :
    ((demoData.map Prod.fst).Nodup ∧ demoData.reverse.Perm demoData) ∧
      let st := computeUnique (computeSeen demoData).seen demoData.reverse
      ((st.uniqueDomains.lookup 1).getD []).Nodup ∧
        (∀ d, d ∈ (st.uniqueDomains.lookup 1).getD [] ↔ sitesOf demoData d = [1]) ∧
        (st.uniqueDomainsTTL.lookup 1).getD [] = uniqueTTLsOf demoData 1 :=
  ⟨⟨by decide, List.reverse_perm _⟩,
    uniqueDomains_spec demoData demoData.reverse (by decide) (List.reverse_perm _) 1⟩

/-! ## The statistics -/

/-- From a non-negative minimum, the sentinel is never met again. -/
theorem minTTLLoop_of_nonneg : ∀ {m : Int} (ttls : List Int), 0 ≤ m → (∀ t ∈ ttls, 0 ≤ t) →
    minTTLLoop m ttls = ttls.foldl min m
  | _, [], _, _ => rfl
  | m, t :: rest, hm, h => by
    have hstep : (if m = -1 ∨ t < m then t else m) = min m t := by
      rw [min_def]; split_ifs <;> omega
    rw [minTTLLoop, List.foldl_cons, hstep]
    exact minTTLLoop_of_nonneg rest (le_min hm (h t (List.mem_cons_self _ _)))
      fun t' ht' => h t' (List.mem_cons_of_mem _ ht')

theorem minTTLLoop_eq (ttls : List Int) (h : ∀ t ∈ ttls, 0 ≤ t) :
    minTTLLoop (-1) ttls = ttls.min?.getD (-1) := by
  cases ttls with
  | nil => rfl
  | cons t rest =>
    rw [List.min?_cons', Option.getD_some, minTTLLoop, if_pos (.inl rfl)]
    exact minTTLLoop_of_nonneg rest (h t (List.mem_cons_self _ _))
      fun t' ht' => h t' (List.mem_cons_of_mem _ ht')

/-- One site of the statistics loop, when its TTLs are not negative. -/
theorem statsStep_eq (st : UniqueState) (acc : UniqueStats) (i : Nat)
    (h : ∀ t ∈ (st.at (i + 1)).2, 0 ≤ t) :
    statsStep st acc i =
      let mins := (st.at (i + 1)).2.min?.toList
      ⟨acc.uniqueCount ++ [(st.at (i + 1)).1.length], acc.uniqueMinTTL ++ mins,
        acc.uniqueMinBelowTorMinTTL + (mins.filter (· < torMinTTL)).length,
        acc.uniqueMinAboveTorMaxTTL + (mins.filter (· > torMaxTTL)).length⟩ := by
  have hmin : (match st.uniqueDomainsTTL.lookup ((i : Int) + 1) with
      | some ttls => minTTLLoop (-1) ttls
      | none => -1) = (st.at (i + 1)).2.min?.getD (-1) := by
    rw [← minTTLLoop_eq _ h, UniqueState.at]
    cases st.uniqueDomainsTTL.lookup ((i : Int) + 1) <;> rfl
  simp only [statsStep, hmin]
  cases hm : (st.at (i + 1)).2.min? with
  | none => simp [UniqueState.at]
  | some m =>
    have : 0 ≤ m := h m (List.min?_mem min_choice hm)
    simp only [Option.getD_some, Option.toList_some, List.filter_cons, List.filter_nil,
      show m > -1 by omega, if_true, UniqueState.at]
    split_ifs <;> simp_all <;> omega

theorem filterMap_cons_eq {α β : Type} (f : α → Option β) (a : α) (l : List α) :
    (a :: l).filterMap f = (f a).toList ++ l.filterMap f := by
  cases h : f a <;> simp [List.filterMap_cons, h]

theorem foldl_statsStep (st : UniqueState) :
    ∀ (is : List Nat) (acc : UniqueStats), (∀ i ∈ is, ∀ t ∈ (st.at (i + 1)).2, 0 ≤ t) →
      is.foldl (statsStep st) acc =
        let mins := is.filterMap fun i : Nat => (st.at (i + 1)).2.min?
        ⟨acc.uniqueCount ++ is.map (fun i : Nat => (st.at (i + 1)).1.length),
          acc.uniqueMinTTL ++ mins,
          acc.uniqueMinBelowTorMinTTL + (mins.filter (· < torMinTTL)).length,
          acc.uniqueMinAboveTorMaxTTL + (mins.filter (· > torMaxTTL)).length⟩
  | [], acc, _ => by simp
  | i :: is, acc, h => by
    rw [List.foldl_cons, statsStep_eq st acc i (h i (List.mem_cons_self _ _)),
      foldl_statsStep st is _ fun j hj => h j (List.mem_cons_of_mem _ hj)]
    simp only [filterMap_cons_eq, List.map_cons, List.append_assoc, List.singleton_append,
      List.filter_append, List.length_append, Nat.add_assoc]

theorem length_uniqueDomainsOf {data : Data} {site : Int} {l : List Bytes} (hl : l.Nodup)
    (hmem : ∀ d, d ∈ l ↔ sitesOf data d = [site]) :
    l.length = (uniqueDomainsOf data site).length := by
  have hnd : (uniqueDomainsOf data site).Nodup := (List.nodup_dedup _).filter _
  refine ((List.perm_ext_iff_of_nodup hl hnd).2 fun d => ?_).length_eq
  rw [hmem, uniqueDomainsOf, List.mem_filter, mem_domainsOf, decide_eq_true_iff]
  exact ⟨fun hd => ⟨⟨site, requestedOn_of_sitesOf hd⟩, hd⟩, And.right⟩

theorem uniqueStats_spec (data order : Data) (hkeys : (data.map Prod.fst).Nodup)
    (horder : order.Perm data) (hnonneg : ∀ e ∈ data, ∀ s ∈ e.2, ∀ r ∈ s.requests, 0 ≤ r.ttl)
    (sites : Nat) :
    let stats := uniqueStats (computeUnique (computeSeen data).seen order) sites
    stats.uniqueCount =
        (List.range sites).map (fun i : Nat => (uniqueDomainsOf data (i + 1)).length) ∧
      stats.uniqueMinTTL =
        (List.range sites).filterMap (fun i : Nat => (uniqueTTLsOf data (i + 1)).min?) ∧
      stats.uniqueMinBelowTorMinTTL = (stats.uniqueMinTTL.filter (· < torMinTTL)).length ∧
      stats.uniqueMinAboveTorMaxTTL = (stats.uniqueMinTTL.filter (· > torMaxTTL)).length := by
  have hat := computeUnique_at data order hkeys horder
  have hnn : ∀ x, ∀ t ∈ ((computeUnique (computeSeen data).seen order).at x).2, 0 ≤ t := by
    intro x t ht
    rw [(hat x).2.2, uniqueTTLsOf] at ht
    obtain ⟨r, hr, rfl⟩ := List.mem_map.1 ht
    obtain ⟨s, hs, hr⟩ := List.mem_flatMap.1 (List.mem_filter.1 hr).1
    cases hl : data.lookup x with
    | none => simp [hl] at hs
    | some samples =>
      obtain ⟨pre, post, hdata, -⟩ := List.lookup_eq_some_iff.1 hl
      rw [hl, Option.getD_some] at hs
      exact hnonneg (x, samples) (by simp [hdata]) s hs r hr
  simp only [uniqueStats, foldl_statsStep _ _ _ fun i _ => hnn _, List.nil_append, Nat.zero_add,
    and_true]
  refine ⟨List.map_congr_left fun i _ => length_uniqueDomainsOf (hat _).1 (hat _).2.1, ?_⟩
  simp only [(hat _).2.2]

/-- `demoData` with no negative TTL. -/
theorem uniqueStats_spec_demo :
    ((demoData.map Prod.fst).Nodup ∧ demoData.reverse.Perm demoData ∧
      ∀ e ∈ demoData, ∀ s ∈ e.2, ∀ r ∈ s.requests, 0 ≤ r.ttl) ∧
      let stats := uniqueStats (computeUnique (computeSeen demoData).seen demoData.reverse) 2
      stats.uniqueCount =
          (List.range 2).map (fun i : Nat => (uniqueDomainsOf demoData (i + 1)).length) ∧
        stats.uniqueMinTTL =
          (List.range 2).filterMap (fun i : Nat => (uniqueTTLsOf demoData (i + 1)).min?) ∧
        stats.uniqueMinBelowTorMinTTL = (stats.uniqueMinTTL.filter (· < torMinTTL)).length ∧
        stats.uniqueMinAboveTorMaxTTL = (stats.uniqueMinTTL.filter (· > torMaxTTL)).length :=
  ⟨⟨by decide, List.reverse_perm _, by decide⟩,
    uniqueStats_spec demoData demoData.reverse (by decide) (List.reverse_perm _) (by decide) 2⟩

end Defector.Dnsstats
