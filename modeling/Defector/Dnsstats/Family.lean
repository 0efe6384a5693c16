import Mathlib.Algebra.BigOperators.Group.List
import Defector.Dnsstats.Unique
import Defector.Dns2site.Training

/-!
# `dnsstats`: the report on a family of domains

For each family of keywords (`families`, dnsstats.go:45-52), `printFamily`
(dnsstats.go:372-418) reports on how many sites the family is seen, how
many of its domains there are, and how many "requests" they have. It reads
maps built in the loop over the data (dnsstats.go:138-160): `seen`, and
`domainsPerSite`, the set of the domains of each site.

The first loop counts a site when one of its domains contains a keyword
and not `ocsp`; the second lists every domain of `seen` that contains a
keyword, and adds `len(seen[domain])` to `requests`. Both loops range over
maps and sets, so the results hold for every order they visit them in.

* `printFamily_spec`: the site count is the number of sites requesting a
  domain of the family without `ocsp`; the domains listed are all those of
  the family, `ocsp` ones included; and `requests` is the sum, over those
  domains, of the number of sites requesting them. It is a count of
  (domain, site) pairs: a site that requests a domain of the family many
  times adds one.
-/
namespace Defector.Dnsstats
open Defector.Go Defector.Dns

/-- `"ocsp"` -/
def ocsp : Bytes := ascii "ocsp"

/-- The `range keywords` loop for one domain of a site, which breaks when the domain contains
the keyword and not `ocsp` (dnsstats.go:378-386). -/
def keywordLoop (domain : Bytes) : List Bytes → Bool
  | [] => false
  | name :: rest =>
    if contains domain name ∧ !contains domain ocsp then true else keywordLoop domain rest

/-- The `range domains` loop of one site, which breaks once `sees` is set
(dnsstats.go:377-390). -/
def domainLoop (keywords : List Bytes) : List Bytes → Bool
  | [] => false
  | domain :: rest => if keywordLoop domain keywords then true else domainLoop keywords rest

/-- The `range keywords` loop for one entry of `seen`, which breaks at the first keyword the
domain contains (dnsstats.go:397-404). -/
def familyLoop (e : Σ _ : Bytes, List Int) (acc : List Bytes × Nat) : List Bytes → List Bytes × Nat
  | [] => acc
  | name :: rest =>
    if contains e.1 name then (acc.1 ++ [e.1], acc.2 + e.2.length) else familyLoop e acc rest

/-- What `printFamily` logs, but for the statistics of `ttls` (`miscStats`, floats). -/
structure FamilyReport where
  seesCount : Nat
  seenAtDomains : List Bytes
  requests : Nat
  ttls : List Int
  deriving DecidableEq, Repr

/-- `printFamily`, the maps visited in the orders `seen` and `domainsPerSite`.
mirrors cmd/dnsstats/dnsstats.go:372-418 -/
def printFamily (seen : List (Σ _ : Bytes, List Int)) (domainsPerSite : List (Int × List Bytes))
    (ttlmap : AList (fun _ : Bytes => List Int)) (keywords : List Bytes) : FamilyReport :=
  let seesCount := domainsPerSite.foldl (fun n e => if domainLoop keywords e.2 then n + 1 else n) 0
  let found := seen.foldl (fun acc e => familyLoop e acc keywords) ([], 0)
  { seesCount
    seenAtDomains := found.1
    requests := found.2
    ttls := (found.1.map fun d => (ttlmap.lookup d).getD []).flatten }

/-- `domains[request.domain] = true` for the requests of a site's samples
(dnsstats.go:142-153): the set of its domains, in the order they were added. -/
def siteDomains (samples : List Sample) : List Bytes :=
  samples.foldl (fun ds s => s.requests.foldl Dns2site.addDomain ds) []

/-- `domainsPerSite[site] = domains` (dnsstats.go:159). -/
def domainsPerSite (data : Data) : List (Int × List Bytes) :=
  data.map fun e => (e.1, siteDomains e.2)

/-! ## The loops, without their `break`s -/

/-- A domain of the family: it contains one of the keywords. -/
def inFamily (keywords : List Bytes) (d : Bytes) : Bool := keywords.any (contains d)

theorem keywordLoop_eq (domain : Bytes) (keywords : List Bytes) :
    keywordLoop domain keywords = (inFamily keywords domain && !contains domain ocsp) := by
  induction keywords with
  | nil => rfl
  | cons name rest ih =>
    by_cases h : contains domain name <;> simp [keywordLoop, inFamily, h, ih]

theorem domainLoop_eq (keywords domains : List Bytes) :
    domainLoop keywords domains = domains.any fun d => inFamily keywords d && !contains d ocsp := by
  induction domains with
  | nil => rfl
  | cons d rest ih => by_cases h : keywordLoop d keywords <;> simp_all [domainLoop, keywordLoop_eq]

theorem familyLoop_eq (e : Σ _ : Bytes, List Int) (acc : List Bytes × Nat) (keywords : List Bytes) :
    familyLoop e acc keywords =
      if inFamily keywords e.1 then (acc.1 ++ [e.1], acc.2 + e.2.length) else acc := by
  induction keywords with
  | nil => rfl
  | cons name rest ih => by_cases h : contains e.1 name <;> simp_all [familyLoop, inFamily]

theorem foldl_count {α : Type} (p : α → Bool) :
    ∀ (l : List α) (n : Nat), l.foldl (fun n e => if p e then n + 1 else n) n = n + l.countP p
  | [], n => rfl
  | e :: l, n => by
    rw [List.foldl_cons, foldl_count p l, List.countP_cons]
    split <;> omega

theorem foldl_familyLoop (keywords : List Bytes) :
    ∀ (l : List (Σ _ : Bytes, List Int)) (acc : List Bytes × Nat),
      l.foldl (fun acc e => familyLoop e acc keywords) acc =
        let fam := l.filter fun e => inFamily keywords e.1
        (acc.1 ++ fam.map (·.1), acc.2 + (fam.map (·.2.length)).sum)
  | [], acc => by simp
  | e :: l, acc => by
    rw [List.foldl_cons, foldl_familyLoop keywords l, familyLoop_eq, List.filter_cons]
    split <;> simp [Nat.add_assoc]

/-! ## In terms of the data -/

theorem mem_siteDomains (samples : List Sample) (d : Bytes) :
    d ∈ siteDomains samples ↔ ∃ s ∈ samples, ∃ r ∈ s.requests, r.domain = d := by
  have h := (Dns2site.foldl_addDomain (samples.flatMap (·.requests)) List.nodup_nil).2 d
  simp only [List.flatMap_def, List.foldl_flatten, List.foldl_map] at h
  simp only [siteDomains, h, List.not_mem_nil, false_or, List.mem_flatten, List.mem_map]
  constructor
  · rintro ⟨r, ⟨_, ⟨s, hs, rfl⟩, hr⟩, rfl⟩
    exact ⟨s, hs, r, hr, rfl⟩
  · rintro ⟨s, hs, r, hr, rfl⟩
    exact ⟨r, ⟨_, ⟨s, hs, rfl⟩, hr⟩, rfl⟩

/-- The maps `domainsPerSite` builds: each site's set holds the domains it requests. -/
theorem domainsPerSite_spec (data : Data) (hkeys : (data.map Prod.fst).Nodup) :
    ∀ e ∈ domainsPerSite data, ∀ d, d ∈ e.2 ↔ RequestedOn data e.1 d := by
  intro e he d
  obtain ⟨⟨site, samples⟩, hmem, rfl⟩ := List.mem_map.1 he
  rw [mem_siteDomains]
  constructor
  · rintro ⟨s, hs, r, hr, rfl⟩
    exact ⟨samples, hmem, s, hs, r, hr, rfl⟩
  · rintro ⟨samples', hmem', s, hs, r, hr, rfl⟩
    obtain rfl := samples_unique hkeys hmem' hmem
    exact ⟨s, hs, r, hr, rfl⟩

theorem keys_domainsPerSite (data : Data) : (domainsPerSite data).map Prod.fst = data.map Prod.fst := by
  simp [domainsPerSite]

/-- The keys of `seen` are the requested domains. -/
theorem keys_computeSeen (data : Data) : (computeSeen data).seen.keys.Perm (domainsOf data) := by
  have h := seenIs_computeSeen data
  refine (List.perm_ext_iff_of_nodup (computeSeen data).seen.nodupKeys (List.nodup_dedup _)).2
    fun d => ?_
  show d ∈ (computeSeen data).seen.keys ↔ d ∈ domainsOf data
  rw [← AList.mem_keys, ← AList.lookup_isSome, mem_domainsOf]
  constructor
  · intro hd
    obtain ⟨l, hl⟩ := Option.isSome_iff_exists.1 hd
    obtain ⟨x, hx⟩ := List.exists_mem_of_ne_nil l fun h0 => h.ne_nil d (h0 ▸ hl)
    exact ⟨x, (h.mem d x).1 (by simpa [hl] using hx)⟩
  · rintro ⟨x, hx⟩
    have := (h.mem d x).2 hx
    cases hl : (computeSeen data).seen.lookup d <;> simp_all

theorem printFamily_spec (data : Data) (seen : List (Σ _ : Bytes, List Int))
    (hseen : seen.Perm (computeSeen data).seen.entries) (dps : List (Int × List Bytes))
    (hsites : (dps.map Prod.fst).Perm (data.map Prod.fst))
    (hdom : ∀ e ∈ dps, ∀ d, d ∈ e.2 ↔ RequestedOn data e.1 d)
    (ttlmap : AList (fun _ : Bytes => List Int)) (keywords : List Bytes) :
    let r := printFamily seen dps ttlmap keywords
    let family := (domainsOf data).filter (inFamily keywords)
    r.seesCount = ((data.map Prod.fst).filter fun site =>
        family.any fun d => !contains d ocsp && decide (site ∈ sitesOf data d)).length ∧
      r.seenAtDomains.Perm family ∧
      r.requests = (family.map fun d => (sitesOf data d).length).sum := by
  dsimp only
  set family := (domainsOf data).filter (inFamily keywords)
  have hfam : ((computeSeen data).seen.keys.filter (inFamily keywords)).Perm family :=
    (keys_computeSeen data).filter _
  have hfound := foldl_familyLoop keywords seen ([], 0)
  simp only [List.nil_append, Nat.zero_add] at hfound
  refine ⟨?_, ?_, ?_⟩
  · /- the site count -/
    have hsite : ∀ e ∈ dps, domainLoop keywords e.2 =
        family.any fun d => !contains d ocsp && decide (e.1 ∈ sitesOf data d) := by
      intro e he
      rw [domainLoop_eq, Bool.eq_iff_iff, List.any_eq_true, List.any_eq_true]
      constructor
      · rintro ⟨d, hd, hp⟩
        have hon := (hdom e he d).1 hd
        simp only [Bool.and_eq_true, Bool.not_eq_true'] at hp
        exact ⟨d, List.mem_filter.2 ⟨mem_domainsOf.2 ⟨_, hon⟩, hp.1⟩, by simp [hp.2, mem_sitesOf.2 hon]⟩
      · rintro ⟨d, hd, hp⟩
        simp only [Bool.and_eq_true, Bool.not_eq_true', decide_eq_true_eq] at hp
        exact ⟨d, (hdom e he d).2 (mem_sitesOf.1 hp.2), by simp [(List.mem_filter.1 hd).2, hp.1]⟩
    simp only [printFamily, foldl_count, Nat.zero_add]
    rw [List.countP_congr fun e he => by rw [hsite e he], ← List.countP_eq_length_filter,
      ← hsites.countP_eq, List.countP_map]
    rfl
  · /- the domains -/
    simp only [printFamily, hfound]
    have hkeys : ((computeSeen data).seen.entries.filter fun e => inFamily keywords e.1).map (·.1) =
        (computeSeen data).seen.keys.filter (inFamily keywords) := by
      simp only [AList.keys, List.keys, List.filter_map]; rfl
    exact ((hseen.filter _).map _).trans (hkeys ▸ hfam)
  · /- `requests` -/
    have hlen : ∀ e ∈ (computeSeen data).seen.entries,
        e.2.length = (sitesOf data e.1).length := fun e he => by
      rw [← length_lookup_computeSeen data e.1, AList.mem_lookup_iff.2 he]
      rfl
    simp only [printFamily, hfound]
    calc (((seen.filter fun e => inFamily keywords e.1).map (·.2.length))).sum
        = ((((computeSeen data).seen.entries.filter fun e => inFamily keywords e.1).map
            (·.2.length))).sum := ((hseen.filter _).map _).sum_eq
      _ = (((computeSeen data).seen.keys.filter (inFamily keywords)).map
            fun d => (sitesOf data d).length).sum := by
        rw [AList.keys, List.keys, List.filter_map, List.map_map]
        exact congrArg List.sum (List.map_congr_left fun e he => hlen e (List.mem_filter.1 he).1)
      _ = (family.map fun d => (sitesOf data d).length).sum := (hfam.map _).sum_eq

/-- `demoData` and the keyword `a`, the maps visited in the order they were built. -/
theorem printFamily_spec_demo :
    ((computeSeen demoData).seen.entries.Perm (computeSeen demoData).seen.entries ∧
      ((domainsPerSite demoData).map Prod.fst).Perm (demoData.map Prod.fst) ∧
      ∀ e ∈ domainsPerSite demoData, ∀ d, d ∈ e.2 ↔ RequestedOn demoData e.1 d) ∧
      let r := printFamily (computeSeen demoData).seen.entries (domainsPerSite demoData) ∅ [[97]]
      let family := (domainsOf demoData).filter (inFamily [[97]])
      r.seesCount = ((demoData.map Prod.fst).filter fun site =>
          family.any fun d => !contains d ocsp && decide (site ∈ sitesOf demoData d)).length ∧
        r.seenAtDomains.Perm family ∧
        r.requests = (family.map fun d => (sitesOf demoData d).length).sum :=
  have hsites := (keys_domainsPerSite demoData).symm ▸ List.Perm.refl (demoData.map Prod.fst)
  have hdom := domainsPerSite_spec demoData (by decide)
  ⟨⟨List.Perm.refl _, hsites, hdom⟩,
    printFamily_spec demoData _ (List.Perm.refl _) _ hsites hdom ∅ [[97]]⟩

end Defector.Dnsstats
