import Defector.Dnsstats.Report
import Defector.Dns.Extract

/-!
# `dnsstats`: the sites' primary domains

`sites` is what `readAlexa` returned: the first `len(data)` rows of the
Alexa file (dnsstats.go:119, 420-432). Column 1 of row `i` is the primary
domain of site `i+1`. Two loops read it.

The first (dnsstats.go:163-173) looks each primary domain up in `ttlmap`,
the TTLs of every request for a domain. The loop over the data fills
`ttlmap` (dnsstats.go:155). The first loop adds the TTLs it finds to
`primaryDomainTTLs` and counts the domains it misses in
`missingPrimaryDomain`. The report prints that count as "incomplete pcaps
out of `len(data)*sampleCount`" (dnsstats.go:288-289).

The second (dnsstats.go:243-262) looks at every IP of every request. For
each CloudFlare IPv4 block containing the IP, it marks the site in
`sitesWithCF`. It also marks it in `primarySitesWithCF` when the request
is for the site's primary domain:

```
if strings.EqualFold(r.domain, sites[site-1][1]) { primarySitesWithCF[site] = true }
sitesWithCF[site] = true
```

The site numbers come from the names of the `.dns` files
(dnsstats.go:72-73), so nothing makes them `1..len(data)`. Which IP lies
in which block is the `net` package's business (`ParseIP`, `ParseCIDR`,
`Contains`), so it is an argument, `inNet`; so is `strings.EqualFold`,
`fold` (see `Dns.Fold`).

* `primaryLoop_spec`: for every order of the `range` over the data map,
  `primaryDomainTTLs` is a permutation of the TTLs of every request for a
  primary domain. `missingPrimaryDomain` is the number of rows whose domain
  no sample of any site requested, byte for byte. So it counts sites, at
  most `len(data)` of them, not pcaps.
* `cloudflare_spec`: take a file of rows with at least two fields. The
  CloudFlare loop panics exactly when some site with an IP in a block has a
  number outside `1..len(sites)`. Otherwise `sitesWithCF` holds the sites
  with such an IP, and `primarySitesWithCF` those among them where it
  answered a request for the site's primary domain, up to `fold`. This
  holds for every order of the loop and every comparison `fold`.
-/
namespace Defector.Dnsstats
open Defector.Go Defector.Dns

/-- `xs[i]`, checked as Go checks it. -/
def index {α : Type} (xs : List α) (i : Int) : Except IndexOutOfRange α :=
  if 0 ≤ i then
    match xs[i.toNat]? with
    | some x => .ok x
    | none => .error ⟨i⟩
  else .error ⟨i⟩

/-- `sites[site-1][1]`, the primary domain of a site. -/
def primaryOf (sites : List (List Bytes)) (site : Int) : Except IndexOutOfRange Bytes := do
  let row ← index sites (site - 1)
  index row 1

/-! ## `ttlmap` and the primary domains -/

/-- The requests of the data, in the order of the loop over it. -/
def requestsOf (data : Data) : List Request := data.flatMap fun e => e.2.flatMap (·.requests)

/-- The TTLs of the requests for `d`, in the order of the loop over the data. -/
def ttlsOf (data : Data) (d : Bytes) : List Int :=
  ((requestsOf data).filter (·.domain == d)).map (·.ttl)

/-- `ttlmap[request.domain] = append(ttlmap[request.domain], request.ttl)` (dnsstats.go:155). -/
def ttlStep (ttlmap : AList (fun _ : Bytes => List Int)) (r : Request) :
    AList (fun _ : Bytes => List Int) :=
  ttlmap.insert r.domain (((ttlmap.lookup r.domain).getD []) ++ [r.ttl])

/-- `ttlmap` after the loop over the data (dnsstats.go:138-160). -/
def computeTTLMap (data : Data) : AList (fun _ : Bytes => List Int) :=
  data.foldl (fun m e => e.2.foldl (fun m s => s.requests.foldl ttlStep m) m) ∅

/-- One row of the loop over `sites` (dnsstats.go:166-172). -/
def primaryStep (ttlmap : AList (fun _ : Bytes => List Int)) (acc : List Int × Nat)
    (row : List Bytes) : Except IndexOutOfRange (List Int × Nat) := do
  let d ← index row 1
  return match ttlmap.lookup d with
    | some t => (acc.1 ++ t, acc.2)
    | none => (acc.1, acc.2 + 1)

/-- `primaryDomainTTLs` and `missingPrimaryDomain`.
mirrors cmd/dnsstats/dnsstats.go:163-173 -/
def primaryLoop (ttlmap : AList (fun _ : Bytes => List Int)) (sites : List (List Bytes)) :
    Except IndexOutOfRange (List Int × Nat) :=
  sites.foldlM (primaryStep ttlmap) ([], 0)

/-- The two sets the loop fills (dnsstats.go:244-245). -/
structure CFState where
  primarySitesWithCF : AList (fun _ : Int => Bool)
  sitesWithCF : AList (fun _ : Int => Bool)

/-- The body for an IP of a request for `domain` of `site` that lies in a
block (dnsstats.go:253-256). -/
def markCF (fold : Fold) (sites : List (List Bytes)) (site : Int) (domain : Bytes) (st : CFState) :
    Except IndexOutOfRange CFState := do
  let primary ← primaryOf sites site
  let st := if fold.eq domain primary then
    { st with primarySitesWithCF := st.primarySitesWithCF.insert site true } else st
  return { st with sitesWithCF := st.sitesWithCF.insert site true }

section Loop

variable {ν : Type} (inNet : ν → Bytes → Bool) (networks : List ν) (fold : Fold)

/-- The loop over the data, its samples, requests, IPs and the blocks.
mirrors cmd/dnsstats/dnsstats.go:244-262 -/
def cloudflare (sites : List (List Bytes)) (data : Data) : Except IndexOutOfRange CFState :=
  data.foldlM (fun st e =>
    e.2.foldlM (fun st s =>
      s.requests.foldlM (fun st r =>
        r.ips.foldlM (fun st p =>
          networks.foldlM (fun st n =>
            if inNet n p then markCF fold sites e.1 r.domain st else pure st) st) st) st) st) ⟨∅, ∅⟩

/-- Each time the loop finds an IP in a block: the site and the request's domain. -/
def hits (data : Data) : List (Int × Bytes) :=
  data.flatMap fun e => e.2.flatMap fun s => s.requests.flatMap fun r =>
    r.ips.flatMap fun p => (networks.filter fun n => inNet n p).map fun _ => (e.1, r.domain)

/-- Site `site` has a request for `d` with an IP in a block. -/
def HitOn (data : Data) (site : Int) (d : Bytes) : Prop :=
  ∃ samples, (site, samples) ∈ data ∧ ∃ s ∈ samples, ∃ r ∈ s.requests, r.domain = d ∧
    ∃ p ∈ r.ips, ∃ n ∈ networks, inNet n p = true

theorem mem_hits {data : Data} {site : Int} {d : Bytes} :
    (site, d) ∈ hits inNet networks data ↔ HitOn inNet networks data site d := by
  simp only [hits, HitOn, List.mem_flatMap, List.mem_map, List.mem_filter, Prod.mk.injEq]
  constructor
  · rintro ⟨⟨x, samples⟩, he, s, hs, r, hr, p, hp, n, ⟨hn, hin⟩, rfl, rfl⟩
    exact ⟨samples, he, s, hs, r, hr, rfl, p, hp, n, hn, hin⟩
  · rintro ⟨samples, he, s, hs, r, hr, rfl, p, hp, n, hn, hin⟩
    exact ⟨⟨site, samples⟩, he, s, hs, r, hr, p, hp, n, ⟨hn, hin⟩, rfl, rfl⟩

end Loop

/-! ## One loop over the hits -/

section Monad

variable {m : Type → Type} [Monad m] [LawfulMonad m] {α β γ : Type}

theorem foldlM_flatMap (f : β → γ → m β) (g : α → List γ) :
    ∀ (l : List α) (b : β), (l.flatMap g).foldlM f b = l.foldlM (fun b a => (g a).foldlM f b) b
  | [], _ => rfl
  | a :: l, b => by
    simp only [List.flatMap_cons, List.foldlM_append, List.foldlM_cons, foldlM_flatMap f g l]

theorem foldlM_filter (p : γ → Bool) (f : β → γ → m β) :
    ∀ (l : List γ) (b : β),
      (l.filter p).foldlM f b = l.foldlM (fun b c => if p c then f b c else pure b) b
  | [], _ => rfl
  | c :: l, b => by
    by_cases hc : p c <;> simp [List.filter_cons, hc, foldlM_filter p f l]

end Monad

theorem cloudflare_eq {ν : Type} (inNet : ν → Bytes → Bool) (networks : List ν) (fold : Fold)
    (sites : List (List Bytes)) (data : Data) :
    cloudflare inNet networks fold sites data =
      (hits inNet networks data).foldlM (fun st h => markCF fold sites h.1 h.2 st) ⟨∅, ∅⟩ := by
  simp only [cloudflare, hits, foldlM_flatMap, List.foldlM_map, foldlM_filter]

/-! ## The body -/

theorem index_error_iff {α : Type} (xs : List α) (i : Int) :
    (∃ e, index xs i = .error e) ↔ ¬ (0 ≤ i ∧ i < xs.length) := by
  unfold index
  split
  · split
    · rename_i x hx
      have := (List.getElem?_eq_some_iff.1 hx).1
      simp only [reduceCtorEq, exists_false, false_iff, not_not]; omega
    · rename_i hx
      have := List.getElem?_eq_none_iff.1 hx
      simp only [exists_apply_eq_apply', true_iff]; omega
  · simp only [exists_apply_eq_apply', true_iff]; omega

theorem index_one {row : List Bytes} (h : 2 ≤ row.length) : index row 1 = .ok (row.getD 1 []) := by
  simp [index, List.getD_eq_getElem?_getD, List.getElem?_eq_getElem (show 1 < row.length by omega)]

/-! ## `primaryDomainTTLs` and `missingPrimaryDomain` -/

theorem lookup_foldl_ttlStep (d : Bytes) : ∀ (rs : List Request) (m : AList (fun _ : Bytes => List Int)),
    (rs.foldl ttlStep m).lookup d =
      if rs.any (·.domain == d) then
        some ((m.lookup d).getD [] ++ ((rs.filter (·.domain == d)).map (·.ttl)))
      else m.lookup d
  | [], _ => rfl
  | r :: rs, m => by
    rw [List.foldl_cons, lookup_foldl_ttlStep d rs]
    by_cases hr : r.domain = d
    · subst hr
      split <;> simp_all [ttlStep, AList.lookup_insert]
    · have hne : d ≠ r.domain := Ne.symm hr
      simp [ttlStep, AList.lookup_insert_ne hne, hr]

theorem lookup_computeTTLMap (data : Data) (d : Bytes) :
    (computeTTLMap data).lookup d =
      if (requestsOf data).any (·.domain == d) then some (ttlsOf data d) else none := by
  have : computeTTLMap data = (requestsOf data).foldl ttlStep ∅ := by
    simp only [computeTTLMap, requestsOf, List.flatMap_def, List.foldl_flatten, List.foldl_map]
  rw [this, lookup_foldl_ttlStep]
  simp [ttlsOf]

theorem any_requestsOf_iff {data : Data} {d : Bytes} :
    (requestsOf data).any (·.domain == d) ↔ d ∈ domainsOf data := by
  simp only [requestsOf, domainsOf, List.any_eq_true, List.mem_flatMap, List.mem_dedup, List.mem_map,
    beq_iff_eq]
  constructor
  · rintro ⟨r, ⟨e, he, s, hs, hr⟩, rfl⟩; exact ⟨e, he, s, hs, r, hr, rfl⟩
  · rintro ⟨e, he, s, hs, r, hr, rfl⟩; exact ⟨r, ⟨e, he, s, hs, hr⟩, rfl⟩

/-- The loop over the rows, each with at least two fields. -/
theorem foldlM_primaryStep (ttlmap : AList (fun _ : Bytes => List Int)) :
    ∀ (sites : List (List Bytes)) (acc : List Int × Nat), (∀ row ∈ sites, 2 ≤ row.length) →
      sites.foldlM (primaryStep ttlmap) acc =
        .ok (acc.1 ++ sites.flatMap (fun row => (ttlmap.lookup (row.getD 1 [])).getD []),
          acc.2 + (sites.filter fun row => (ttlmap.lookup (row.getD 1 [])).isNone).length)
  | [], acc, _ => by simp [pure, Except.pure]
  | row :: sites, acc, h => by
    simp only [List.mem_cons, forall_eq_or_imp] at h
    simp only [List.foldlM_cons, primaryStep, index_one h.1, bind, Except.bind, pure, Except.pure]
    rw [foldlM_primaryStep ttlmap sites _ h.2]
    cases hl : ttlmap.lookup (row.getD 1 []) with
    | none => simp [List.filter_cons, hl]; omega
    | some t => simp [List.filter_cons, hl]

theorem perm_requestsOf {data order : Data} (horder : order.Perm data) :
    (requestsOf order).Perm (requestsOf data) :=
  horder.flatMap_right _

/-- `ttlmap[d]` is the TTLs of the requests for `d`, in the loop's order. -/
theorem getD_lookup_computeTTLMap (data : Data) (d : Bytes) :
    ((computeTTLMap data).lookup d).getD [] = ttlsOf data d := by
  rw [lookup_computeTTLMap]
  split
  · rfl
  · rename_i hd
    simp only [Bool.not_eq_true, List.any_eq_false, beq_iff_eq] at hd
    simp only [ttlsOf]
    rw [List.filter_eq_nil_iff.2 (by simpa using hd)]
    rfl

/-- `ttlmap` misses exactly the domains no sample requested. -/
theorem isNone_lookup_computeTTLMap (data : Data) (d : Bytes) :
    ((computeTTLMap data).lookup d).isNone ↔ d ∉ domainsOf data := by
  rw [lookup_computeTTLMap, ← any_requestsOf_iff]
  by_cases h : (requestsOf data).any (·.domain == d) = true
  · rw [if_pos h]; exact ⟨fun hc => (by cases hc), fun hn => absurd h hn⟩
  · rw [if_neg h]; exact ⟨fun _ => h, fun _ => rfl⟩

theorem mem_domainsOf_perm {data order : Data} (horder : order.Perm data) {d : Bytes} :
    d ∈ domainsOf order ↔ d ∈ domainsOf data := by
  simp only [mem_domainsOf, RequestedOn, horder.mem_iff]

theorem primaryLoop_spec (data order : Data) (horder : order.Perm data) (sites : List (List Bytes))
    (hrows : ∀ row ∈ sites, 2 ≤ row.length) :
    ∃ ttls, primaryLoop (computeTTLMap order) sites =
        .ok (ttls, (sites.filter fun row => row.getD 1 [] ∉ domainsOf data).length) ∧
      ttls.Perm (sites.flatMap fun row => ttlsOf data (row.getD 1 [])) := by
  have hfilter : sites.filter (fun row => ((computeTTLMap order).lookup (row.getD 1 [])).isNone) =
      sites.filter (fun row => row.getD 1 [] ∉ domainsOf data) :=
    List.filter_congr fun (row : List Bytes) _ => Bool.eq_iff_iff.2 <|
      (isNone_lookup_computeTTLMap order _).trans <|
        (not_congr (mem_domainsOf_perm horder)).trans decide_eq_true_iff.symm
  refine ⟨sites.flatMap fun row => ((computeTTLMap order).lookup (row.getD 1 [])).getD [], ?_,
    List.Perm.flatMap_left sites fun row _ => by
      rw [getD_lookup_computeTTLMap]; exact ((perm_requestsOf horder).filter _).map _⟩
  rw [primaryLoop, foldlM_primaryStep _ sites ([], 0) hrows, hfilter, List.nil_append, Nat.zero_add]

/-- Two sites; the primary domain of the second is requested nowhere. -/
def demoSitesData : Data :=
  [(1, [⟨[⟨ascii "a.com", 60, []⟩, ⟨ascii "cdn.net", 30, []⟩]⟩]), (2, [⟨[⟨ascii "cdn.net", 90, []⟩]⟩])]

def demoSites : List (List Bytes) := [[ascii "1", ascii "a.com"], [ascii "2", ascii "b.com"]]

theorem primaryLoop_spec_demo :
    demoSitesData.reverse.Perm demoSitesData ∧ (∀ row ∈ demoSites, 2 ≤ row.length) ∧
    ∃ ttls, primaryLoop (computeTTLMap demoSitesData.reverse) demoSites =
        .ok (ttls, (demoSites.filter fun row => row.getD 1 [] ∉ domainsOf demoSitesData).length) ∧
      ttls.Perm (demoSites.flatMap fun row => ttlsOf demoSitesData (row.getD 1 [])) :=
  ⟨List.reverse_perm _, by decide,
    primaryLoop_spec demoSitesData demoSitesData.reverse (List.reverse_perm _) demoSites (by decide)⟩

/-- With rows of at least two fields, `sites[site-1][1]` fails exactly when the
row is out of range. -/
theorem primaryOf_error_iff {sites : List (List Bytes)} (hrows : ∀ row ∈ sites, 2 ≤ row.length)
    (site : Int) : (∃ e, primaryOf sites site = .error e) ↔ ¬ (1 ≤ site ∧ site ≤ sites.length) := by
  rw [show (¬ (1 ≤ site ∧ site ≤ sites.length)) ↔ ¬ (0 ≤ site - 1 ∧ site - 1 < sites.length) by omega,
    ← index_error_iff]
  unfold primaryOf
  cases hrow : index sites (site - 1) with
  | error e => simp [bind, Except.bind]
  | ok row =>
    have hmem : row ∈ sites := by
      unfold index at hrow
      split at hrow
      · split at hrow
        · cases hrow
          obtain ⟨hlt, rfl⟩ := List.getElem?_eq_some_iff.1 ‹_›
          exact List.getElem_mem hlt
        · cases hrow
      · cases hrow
    simp only [bind, Except.bind, reduceCtorEq, exists_false, iff_false]
    rw [index_error_iff]
    have := hrows row hmem
    omega

theorem markCF_error {fold : Fold} {sites : List (List Bytes)} {site : Int} {d : Bytes} {st : CFState}
    {e : IndexOutOfRange} (h : primaryOf sites site = .error e) :
    markCF fold sites site d st = .error e := by
  simp [markCF, h, bind, Except.bind]

theorem markCF_ok {fold : Fold} {sites : List (List Bytes)} {site : Int} {d primary : Bytes} {st : CFState}
    (h : primaryOf sites site = .ok primary) :
    markCF fold sites site d st = .ok
      { primarySitesWithCF := if fold.eq d primary then st.primarySitesWithCF.insert site true
          else st.primarySitesWithCF
        sitesWithCF := st.sitesWithCF.insert site true } := by
  simp only [markCF, h, bind, Except.bind, pure, Except.pure]
  split <;> rfl

/-! ## The loop over the hits -/

/-- The loop fails exactly when one of the hits has no primary domain. -/
theorem foldlM_markCF_error_iff (fold : Fold) (sites : List (List Bytes)) :
    ∀ (hs : List (Int × Bytes)) (st : CFState),
      (∃ e, hs.foldlM (fun st h => markCF fold sites h.1 h.2 st) st = .error e) ↔
        ∃ h ∈ hs, ∃ e, primaryOf sites h.1 = .error e
  | [], st => by simp [List.foldlM, pure, Except.pure]
  | h :: hs, st => by
    cases hp : primaryOf sites h.1 with
    | error e =>
      simp only [List.foldlM_cons, markCF_error hp, bind, Except.bind]
      exact ⟨fun _ => ⟨h, List.mem_cons_self _ _, e, hp⟩, fun _ => ⟨e, rfl⟩⟩
    | ok primary =>
      simp only [List.foldlM_cons, markCF_ok hp, bind, Except.bind, foldlM_markCF_error_iff fold sites hs,
        List.mem_cons, exists_eq_or_imp, hp, reduceCtorEq, exists_false, false_or]

/-- What a loop over the hits that does not fail adds to the two sets. -/
theorem foldlM_markCF_ok (fold : Fold) (sites : List (List Bytes)) :
    ∀ (hs : List (Int × Bytes)) (st st' : CFState),
      hs.foldlM (fun st h => markCF fold sites h.1 h.2 st) st = .ok st' →
      (∀ site, site ∈ st'.sitesWithCF ↔ site ∈ st.sitesWithCF ∨ ∃ d, (site, d) ∈ hs) ∧
      (∀ site, site ∈ st'.primarySitesWithCF ↔ site ∈ st.primarySitesWithCF ∨
        ∃ d, (site, d) ∈ hs ∧ ∃ primary, primaryOf sites site = .ok primary ∧
          fold.eq d primary = true)
  | [], st, st', h => by
    cases h
    simp
  | (site, d) :: hs, st, st', h => by
    cases hp : primaryOf sites site with
    | error e => simp [List.foldlM_cons, markCF_error hp, bind, Except.bind] at h
    | ok primary =>
      simp only [List.foldlM_cons, markCF_ok hp, bind, Except.bind] at h
      obtain ⟨hall, hprim⟩ := foldlM_markCF_ok fold sites hs _ st' h
      /- The new hit counts for `site` as a primary one exactly when `d` matches. -/
      have hnew : ∀ x, (x = site ∧ ∃ primary', primaryOf sites x = .ok primary' ∧
          fold.eq d primary' = true) ↔ x = site ∧ fold.eq d primary = true := by
        rintro x
        constructor
        · rintro ⟨rfl, primary', hp', hd⟩
          rw [hp] at hp'; cases hp'; exact ⟨rfl, hd⟩
        · rintro ⟨rfl, hd⟩; exact ⟨rfl, primary, hp, hd⟩
      refine ⟨fun x => ?_, fun x => ?_⟩
      · rw [hall x, AList.mem_insert]
        simp only [List.mem_cons, Prod.mk.injEq, exists_or, exists_and_left, exists_eq, and_true,
          or_assoc]
        exact or_left_comm
      · rw [hprim x]
        simp only [List.mem_cons, Prod.mk.injEq, or_and_right, exists_or, and_assoc,
          exists_and_left, exists_eq_left, hnew x]
        by_cases hd : fold.eq d primary = true
        · simp only [hd, ite_true, AList.mem_insert, and_true, or_assoc]; exact or_left_comm
        · simp only [hd, Bool.false_eq_true, ite_false, and_false, false_or]

/-! ## The whole loop -/

theorem cloudflare_spec {ν : Type} (inNet : ν → Bytes → Bool) (networks : List ν) (fold : Fold)
    (sites : List (List Bytes)) (data : Data) (hrows : ∀ row ∈ sites, 2 ≤ row.length) :
    ((∃ e, cloudflare inNet networks fold sites data = .error e) ↔
      ∃ site d, HitOn inNet networks data site d ∧ ¬ (1 ≤ site ∧ site ≤ sites.length)) ∧
    ∀ st, cloudflare inNet networks fold sites data = .ok st →
      (∀ site, site ∈ st.sitesWithCF ↔ ∃ d, HitOn inNet networks data site d) ∧
      (∀ site, site ∈ st.primarySitesWithCF ↔ ∃ d, HitOn inNet networks data site d ∧
        ∃ primary, primaryOf sites site = .ok primary ∧ fold.eq d primary = true) := by
  rw [cloudflare_eq]
  refine ⟨?_, fun st h => ?_⟩
  · rw [foldlM_markCF_error_iff]
    constructor
    · rintro ⟨⟨site, d⟩, hh, he⟩
      exact ⟨site, d, (mem_hits inNet networks).1 hh, (primaryOf_error_iff hrows site).1 he⟩
    · rintro ⟨site, d, hh, hout⟩
      exact ⟨(site, d), (mem_hits inNet networks).2 hh, (primaryOf_error_iff hrows site).2 hout⟩
  · obtain ⟨hall, hprim⟩ := foldlM_markCF_ok fold sites _ _ st h
    refine ⟨fun site => ?_, fun site => ?_⟩
    · simp only [hall site, AList.mem_keys, AList.keys_empty, List.not_mem_nil, false_or, mem_hits]
    · simp only [hprim site, AList.mem_keys, AList.keys_empty, List.not_mem_nil, false_or, mem_hits]

/-- Site 2 of a data set of one site has an IP in the one block: `sites[1]` panics. -/
theorem cloudflare_spec_demo :
    (∀ row ∈ [[ascii "1", ascii "a.com"]], 2 ≤ row.length) ∧
    ((∃ e, cloudflare (fun (_ : Unit) p => p == ascii "1.1.1.1") [()] Fold.ascii [[ascii "1", ascii "a.com"]]
        [(2, [⟨[⟨ascii "a.com", 60, [ascii "1.1.1.1"]⟩]⟩])] = .error e) ↔
      ∃ site d, HitOn (fun (_ : Unit) p => p == ascii "1.1.1.1") [()]
        [(2, [⟨[⟨ascii "a.com", 60, [ascii "1.1.1.1"]⟩]⟩])] site d ∧
        ¬ (1 ≤ site ∧ site ≤ [[ascii "1", ascii "a.com"]].length)) ∧
    ∀ st, cloudflare (fun (_ : Unit) p => p == ascii "1.1.1.1") [()] Fold.ascii [[ascii "1", ascii "a.com"]]
        [(2, [⟨[⟨ascii "a.com", 60, [ascii "1.1.1.1"]⟩]⟩])] = .ok st →
      (∀ site, site ∈ st.sitesWithCF ↔ ∃ d, HitOn (fun (_ : Unit) p => p == ascii "1.1.1.1") [()]
        [(2, [⟨[⟨ascii "a.com", 60, [ascii "1.1.1.1"]⟩]⟩])] site d) ∧
      (∀ site, site ∈ st.primarySitesWithCF ↔ ∃ d, HitOn (fun (_ : Unit) p => p == ascii "1.1.1.1")
        [()] [(2, [⟨[⟨ascii "a.com", 60, [ascii "1.1.1.1"]⟩]⟩])] site d ∧
        ∃ primary, primaryOf [[ascii "1", ascii "a.com"]] site = .ok primary ∧
          Fold.ascii.eq d primary = true) :=
  ⟨by decide, cloudflare_spec _ _ _ _ _ (by decide)⟩

end Defector.Dnsstats
