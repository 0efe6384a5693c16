import Mathlib.Data.List.AList
import Mathlib.Data.List.Dedup
import Defector.Dns2site.Training

/-!
# `dns2site` classification: votes and the winning site

`classify` (part_002:181-209) gives every site one vote per observed
domain unique to it and, with `-common` and unless exactly one site got
such a vote, one more vote when all of its common domains were observed.
`getClass` (part_002:211-224) then takes a site with the most votes, or
`-1` when it has fewer than `k`.

The observed domains are the keys of the map `getDomains` builds
(cmd/dns2site/helpers.go:186-192). The `range` loops over `domains` and
over `commonDomains` only add 1s, so the counts do not depend on their
order and the model ranges over the stored entries. The `range votes` of
`getClass` picks among tied sites, so the model ranges over the entries in
whatever order `visit` gives.

`-1` is both the loop's initial `maxSite` and the answer "no site", and
`getClass` tests `maxSite == -1` rather than whether a vote was seen:

* `vote`: the votes of a site, stated without the loops.
* `getClass_spec`: with no site `-1` among the votes, `getClass` is `-1`
  exactly when there is no vote or every vote is below `k`, and otherwise
  a site with the most votes.
* `classify_spec`: for fingerprints that do not name the site `-1`,
  `classify` is `-1` exactly when no site has a vote or every vote is
  below `k`, and otherwise a site with the largest vote, in every
  iteration order.
* `classify_sentinel_site`: a domain unique to a site `-1` is a vote that
  `classify` reports as no site.
-/
namespace Defector.Dns2site
open Defector.Go Defector.Dns

/-- The domains a sample requests, as the keys of a map to `true`.
mirrors cmd/dns2site/helpers.go:186-192 -/
def getDomains (req : List Request) : AList (fun _ : Bytes => Bool) :=
  req.foldl (fun domains r => domains.insert r.domain true) ∅

/-- The map `votes`: site to its number of votes. -/
abbrev Votes := AList (fun _ : Int => Nat)

/-- `votes[site]++`. -/
def addVote (votes : Votes) (site : Int) : Votes :=
  votes.insert site ((votes.lookup site).getD 0 + 1)

/-- One iteration of the `range domains` loop (part_002:184-189). -/
def uniqueVote (fps : Fingerprints) (votes : Votes) (domain : Bytes) : Votes :=
  match fps.uniqueDomainToSite.lookup domain with
  | some site => addVote votes site
  | none => votes

/-- One iteration of the `range fps.commonDomains` loop (part_002:193-205): `allFound`
with its `break` is `all`. -/
def commonVote (domains : AList (fun _ : Bytes => Bool)) (votes : Votes)
    (e : Σ _ : Int, List Bytes) : Votes :=
  if e.2.all fun d => d ∈ domains then addVote votes e.1 else votes

/-- The `votes` map `classify` hands to `getClass` (part_002:182-207). -/
def countVotes (useCommon : Bool) (domains : AList (fun _ : Bytes => Bool))
    (fps : Fingerprints) : Votes :=
  let votes := domains.keys.foldl (uniqueVote fps) ∅
  if useCommon ∧ votes.entries.length ≠ 1 then
    fps.commonDomains.entries.foldl (commonVote domains) votes
  else votes

/-- One iteration of `getClass`' loop on `(maxVote, maxSite)`. -/
def maxStep (acc : Int × Int) (e : Σ _ : Int, Nat) : Int × Int :=
  if (e.2 : Int) > acc.1 then (e.2, e.1) else acc

/-- `getClass` over the entries of `votes` in the order the loop visits them.
mirrors part_002:211-224 -/
def getClass (k : Int) (votes : List (Σ _ : Int, Nat)) : Int :=
  let (maxVote, maxSite) := votes.foldl maxStep (-1, -1)
  if maxSite = -1 ∨ maxVote < k then -1 else maxSite

/-- `classify`, with `getClass` visiting the votes in the order `visit` gives.
mirrors part_002:181-209 -/
def classify (useCommon : Bool) (k : Int) (domains : AList (fun _ : Bytes => Bool))
    (fps : Fingerprints) (visit : List (Σ _ : Int, Nat) → List (Σ _ : Int, Nat)) : Int :=
  getClass k (visit (countVotes useCommon domains fps).entries)

/-! ## The votes, stated without the loops -/

section Spec

variable (useCommon : Bool) (domains : AList (fun _ : Bytes => Bool)) (fps : Fingerprints)

/-- `u(s)`: the observed domains unique to `s`. -/
def uniqueCount (s : Int) : Nat :=
  (domains.keys.filter fun d => fps.uniqueDomainToSite.lookup d = some s).length

/-- The sites with a unique domain observed, each once. -/
def uniqueSites : List Int :=
  (domains.keys.filterMap fps.uniqueDomainToSite.lookup).dedup

/-- The votes of `s`: `u(s)`, and one more with `-common` when the number of sites with a
unique vote is not 1 and `s` has common domains that were all observed. -/
def vote (s : Int) : Nat :=
  uniqueCount domains fps s +
    if useCommon && (uniqueSites domains fps).length != 1 &&
      (fps.commonDomains.lookup s).any fun common => common.all fun d => d ∈ domains
    then 1 else 0

end Spec

/-- Fingerprints that do not name the site `-1`. -/
def NoSentinel (fps : Fingerprints) : Prop :=
  (∀ e ∈ fps.uniqueDomainToSite.entries, e.2 ≠ -1) ∧ (-1 : Int) ∉ fps.commonDomains

instance (fps : Fingerprints) : Decidable (NoSentinel fps) :=
  inferInstanceAs (Decidable (_ ∧ _))

/-- Training on sites other than `-1` gives fingerprints that do not name `-1`. `readData`
(cmd/dns2site/helpers.go:21-22) parses a site from the part of a file name before its first
`-`, so it never reads a site `-1`. -/
theorem noSentinel_training (useCommon : Bool) (data : Data) (forTesting : Int → Nat → Bool)
    (unmonitored : Int → Bool) (h : (-1 : Int) ∉ data.map Prod.fst) :
    NoSentinel (training useCommon data forTesting unmonitored) := by
  refine ⟨fun e he hs => ?_, fun hm => ?_⟩
  · have hl : ((getSeenSites data forTesting).entries.foldl (insertUnique unmonitored) ∅).lookup
        e.1 = some e.2 := AList.mem_lookup_iff.2 he
    rw [lookup_foldl_insertUnique _ _ (getSeenSites data forTesting).nodupKeys] at hl
    cases hseen : (getSeenSites data forTesting).entries.dlookup e.1 with
    | none => simp [hseen] at hl
    | some sites =>
      simp only [hseen, Option.some_bind, AList.lookup_empty, Option.or_none] at hl
      obtain ⟨hne, hall, -⟩ := (uniqueSite_eq_some _ _ _).1 hl
      obtain ⟨x, hx⟩ := List.exists_mem_of_ne_nil _ hne
      obtain ⟨samples, hmem, -⟩ := ((seenIs_getSeenSites data forTesting).mem e.1 e.2).1
        (by rw [AList.lookup, hseen, Option.getD_some, ← hall x hx]; exact hx)
      exact h (hs ▸ List.mem_map_of_mem Prod.fst hmem)
  · cases useCommon
    · exact AList.not_mem_empty _ hm
    · exact AList.lookup_eq_none.1 (lookup_foldl_addCommon
        (getUniqueDomainsToSite data forTesting unmonitored).2 forTesting unmonitored (-1) data ∅ h) hm

/-! ## Counting -/

/-- Every site in the map has a vote. -/
def Positive (votes : Votes) : Prop := ∀ s n, votes.lookup s = some n → 0 < n

theorem lookup_addVote (votes : Votes) (t s : Int) :
    ((addVote votes t).lookup s).getD 0 = (votes.lookup s).getD 0 + if s = t then 1 else 0 := by
  by_cases h : s = t
  · subst h; simp [addVote, AList.lookup_insert]
  · simp [addVote, AList.lookup_insert_ne h, h]

theorem Positive.addVote {votes : Votes} (h : Positive votes) (t : Int) :
    Positive (Dns2site.addVote votes t) := by
  intro s n hs
  by_cases hst : s = t
  · subst hst; simp only [Dns2site.addVote, AList.lookup_insert, Option.some.injEq] at hs; omega
  · exact h s n (by rwa [Dns2site.addVote, AList.lookup_insert_ne hst] at hs)

theorem positive_empty : Positive ∅ := fun _ _ h => by simp at h

theorem Positive.uniqueVote {votes : Votes} (h : Positive votes) (fps : Fingerprints)
    (d : Bytes) : Positive (Dns2site.uniqueVote fps votes d) := by
  unfold Dns2site.uniqueVote; split <;> simp [h, h.addVote]

theorem Positive.commonVote {votes : Votes} (h : Positive votes)
    (domains : AList (fun _ : Bytes => Bool)) (e : Σ _ : Int, List Bytes) :
    Positive (Dns2site.commonVote domains votes e) := by
  unfold Dns2site.commonVote; split <;> simp [h, h.addVote]

theorem Positive.foldl {α : Type} {f : Votes → α → Votes}
    (hf : ∀ votes a, Positive votes → Positive (f votes a)) :
    ∀ (l : List α) {votes : Votes}, Positive votes → Positive (l.foldl f votes)
  | [], _, h => h
  | a :: l, _, h => Positive.foldl hf l (hf _ a h)

/-- In a map of positive counts, the sites are those with a positive count. -/
theorem Positive.mem_iff {votes : Votes} (h : Positive votes) (s : Int) :
    s ∈ votes ↔ 0 < (votes.lookup s).getD 0 := by
  rw [← AList.lookup_isSome]
  cases hs : votes.lookup s with
  | none => simp
  | some n => simpa using h s n hs

theorem lookup_foldl_uniqueVote (fps : Fingerprints) (s : Int) :
    ∀ (l : List Bytes) (votes : Votes), ((l.foldl (uniqueVote fps) votes).lookup s).getD 0 =
      (votes.lookup s).getD 0 + (l.filter fun d => fps.uniqueDomainToSite.lookup d = some s).length
  | [], _ => rfl
  | d :: l, votes => by
    have hstep : ((uniqueVote fps votes d).lookup s).getD 0 =
        (votes.lookup s).getD 0 + if fps.uniqueDomainToSite.lookup d = some s then 1 else 0 := by
      unfold uniqueVote
      cases fps.uniqueDomainToSite.lookup d with
      | none => simp
      | some t => simp [lookup_addVote, eq_comm]
    rw [List.foldl_cons, lookup_foldl_uniqueVote fps s l, hstep, List.filter_cons]
    by_cases h : fps.uniqueDomainToSite.lookup d = some s <;> simp [h, Nat.add_assoc, Nat.add_comm 1]

theorem lookup_foldl_commonVote (domains : AList (fun _ : Bytes => Bool)) (s : Int) :
    ∀ (l : List (Σ _ : Int, List Bytes)) (votes : Votes), l.NodupKeys →
      ((l.foldl (commonVote domains) votes).lookup s).getD 0 = (votes.lookup s).getD 0 +
        if (l.dlookup s).any fun common => common.all fun d => d ∈ domains then 1 else 0
  | [], _, _ => rfl
  | ⟨t, common⟩ :: l, votes, hl => by
    obtain ⟨ht, hl⟩ := List.nodupKeys_cons.1 hl
    rw [List.foldl_cons, lookup_foldl_commonVote domains s l _ hl]
    by_cases hst : s = t
    · subst hst
      rw [List.dlookup_cons_eq, List.dlookup_eq_none.2 ht, commonVote]
      split <;> simp_all [lookup_addVote]
    · rw [List.dlookup_cons_ne _ _ hst, commonVote]
      split <;> simp [lookup_addVote, hst]

theorem positive_countVotes (useCommon : Bool) (domains : AList (fun _ : Bytes => Bool))
    (fps : Fingerprints) : Positive (countVotes useCommon domains fps) := by
  have h0 : Positive (domains.keys.foldl (uniqueVote fps) ∅) :=
    Positive.foldl (fun _ d h => h.uniqueVote fps d) _ positive_empty
  dsimp only [countVotes]
  split
  · exact Positive.foldl (fun _ e h => h.commonVote domains e) _ h0
  · exact h0

/-- The sites with a unique vote are as many as `uniqueSites` lists. -/
theorem length_foldl_uniqueVote (domains : AList (fun _ : Bytes => Bool))
    (fps : Fingerprints) :
    (domains.keys.foldl (uniqueVote fps) ∅).entries.length = (uniqueSites domains fps).length := by
  have hpos : Positive (domains.keys.foldl (uniqueVote fps) ∅) :=
    Positive.foldl (fun _ d h => h.uniqueVote fps d) _ positive_empty
  have hperm : (domains.keys.foldl (uniqueVote fps) ∅).keys.Perm (uniqueSites domains fps) := by
    refine (List.perm_ext_iff_of_nodup (AList.keys_nodup _) (List.nodup_dedup _)).2 fun s => ?_
    rw [← AList.mem_keys, hpos.mem_iff, lookup_foldl_uniqueVote]
    simp [uniqueSites, List.length_pos_iff_exists_mem]
  simpa [AList.keys, List.keys] using hperm.length_eq

/-- The map `classify` builds holds every site's `vote`. -/
theorem lookup_countVotes (useCommon : Bool) (domains : AList (fun _ : Bytes => Bool))
    (fps : Fingerprints) (s : Int) :
    ((countVotes useCommon domains fps).lookup s).getD 0 = vote useCommon domains fps s := by
  have h1 := lookup_foldl_uniqueVote fps s domains.keys ∅
  simp only [AList.lookup_empty, Option.getD_none, zero_add] at h1
  rw [countVotes, vote, uniqueCount, ← h1, ← length_foldl_uniqueVote]
  split
  · rename_i hc
    rw [lookup_foldl_commonVote _ _ _ _ fps.commonDomains.nodupKeys]
    simp [hc.1, hc.2, AList.lookup]
  · rename_i hc
    cases useCommon <;> simp_all

/-- The entries `getClass` ranges over are the sites with a vote, each with its `vote`. -/
theorem mem_countVotes {useCommon : Bool} {domains : AList (fun _ : Bytes => Bool)}
    {fps : Fingerprints} {e : Σ _ : Int, Nat} :
    e ∈ (countVotes useCommon domains fps).entries ↔
      0 < vote useCommon domains fps e.1 ∧ e.2 = vote useCommon domains fps e.1 := by
  rw [← lookup_countVotes, ← AList.mem_lookup_iff, Option.mem_def]
  cases h : (countVotes useCommon domains fps).lookup e.1 with
  | none => simp
  | some n => simp [positive_countVotes useCommon domains fps e.1 n h, eq_comm]

theorem vote_sentinel (useCommon : Bool) (domains : AList (fun _ : Bytes => Bool))
    {fps : Fingerprints} (h : NoSentinel fps) : vote useCommon domains fps (-1) = 0 := by
  have hu : ∀ d, fps.uniqueDomainToSite.lookup d ≠ some (-1) := fun d hd =>
    h.1 _ (AList.mem_lookup_iff.1 hd) rfl
  simp [vote, uniqueCount, hu, AList.lookup_eq_none.2 h.2]

/-! ## The winning site -/

/-- A run of `getClass`' loop ends on its start or on an entry, no lower than its start, and
at least at every vote. -/
theorem foldl_maxStep (l : List (Σ _ : Int, Nat)) (acc : Int × Int) :
    (l.foldl maxStep acc = acc ∨ ∃ e ∈ l, l.foldl maxStep acc = ((e.2 : Int), e.1)) ∧
      acc.1 ≤ (l.foldl maxStep acc).1 ∧ ∀ e ∈ l, (e.2 : Int) ≤ (l.foldl maxStep acc).1 := by
  induction l generalizing acc with
  | nil => simp
  | cons e l ih =>
    obtain ⟨hmem, hacc, hall⟩ := ih (maxStep acc e)
    have hle : acc.1 ≤ (maxStep acc e).1 ∧ (e.2 : Int) ≤ (maxStep acc e).1 := by
      unfold maxStep; split <;> simp <;> omega
    have hcases : maxStep acc e = acc ∨ maxStep acc e = ((e.2 : Int), e.1) := by
      unfold maxStep; split <;> simp
    simp only [List.foldl_cons, List.mem_cons, forall_eq_or_imp, exists_eq_or_imp]
    refine ⟨?_, hle.1.trans hacc, hle.2.trans hacc, hall⟩
    rcases hmem with h | ⟨e', he', h⟩
    · rw [h]; rcases hcases with h | h <;> simp [h]
    · exact .inr (.inr ⟨e', he', h⟩)

/-- With no site `-1` among the votes, `getClass` is `-1` exactly when there are no votes or
all are below `k`, and otherwise a site with the most votes. -/
theorem getClass_spec (k : Int) (l : List (Σ _ : Int, Nat)) (hl : ∀ e ∈ l, e.1 ≠ -1) :
    (getClass k l = -1 ↔ l = [] ∨ ∀ e ∈ l, (e.2 : Int) < k) ∧
      (getClass k l ≠ -1 → ∃ e ∈ l, e.1 = getClass k l ∧ ∀ e' ∈ l, e'.2 ≤ e.2) := by
  cases l with
  | nil => simp [getClass]
  | cons e0 l =>
    obtain ⟨hmem, -, hall⟩ := foldl_maxStep (e0 :: l) (-1, -1)
    obtain ⟨e, he, hfold⟩ : ∃ e ∈ e0 :: l, (e0 :: l).foldl maxStep (-1, -1) = ((e.2 : Int), e.1) := by
      refine hmem.resolve_left fun h => ?_
      have := hall e0 (List.mem_cons_self _ _)
      rw [h] at this; omega
    have hmax : ∀ e' ∈ e0 :: l, (e'.2 : Int) ≤ e.2 := by simpa [hfold] using hall
    have hget : getClass k (e0 :: l) = if (e.2 : Int) < k then -1 else e.1 := by
      simp [getClass, hfold, hl e he]
    rw [hget]
    by_cases hk : (e.2 : Int) < k
    · rw [if_pos hk]
      exact ⟨iff_of_true rfl (.inr fun e' he' => (hmax e' he').trans_lt hk), fun h => absurd rfl h⟩
    · rw [if_neg hk]
      refine ⟨iff_of_false (hl e he) ?_, fun _ => ⟨e, he, rfl, fun e' he' => by exact_mod_cast hmax e' he'⟩⟩
      rintro (h | h)
      · cases h
      · exact hk (h e he)

theorem classify_spec (useCommon : Bool) (k : Int) (domains : AList (fun _ : Bytes => Bool))
    (fps : Fingerprints) (visit : List (Σ _ : Int, Nat) → List (Σ _ : Int, Nat))
    (hvisit : ∀ l, (visit l).Perm l) (hfps : NoSentinel fps) :
    (classify useCommon k domains fps visit = -1 ↔
      (∀ s, vote useCommon domains fps s = 0) ∨ ∀ s, (vote useCommon domains fps s : Int) < k) ∧
    (classify useCommon k domains fps visit ≠ -1 →
      ∀ s, vote useCommon domains fps s ≤
        vote useCommon domains fps (classify useCommon k domains fps visit)) := by
  set v := vote useCommon domains fps
  set l := visit (countVotes useCommon domains fps).entries
  have hmem : ∀ e, e ∈ l ↔ 0 < v e.1 ∧ e.2 = v e.1 :=
    fun e => ((hvisit _).mem_iff).trans mem_countVotes
  have hsite : ∀ s, 0 < v s → (⟨s, v s⟩ : Σ _ : Int, Nat) ∈ l := fun s hs => (hmem _).2 ⟨hs, rfl⟩
  have hl : ∀ e ∈ l, e.1 ≠ -1 := fun e he h =>
    ((hmem e).1 he).1.ne' (by rw [h]; exact vote_sentinel useCommon domains hfps)
  have hnil : l = [] ↔ ∀ s, v s = 0 := by
    refine List.eq_nil_iff_forall_not_mem.trans ⟨fun h s => ?_, fun h e he => ?_⟩
    · by_contra hs
      exact h _ (hsite s (Nat.pos_of_ne_zero hs))
    · exact absurd (h e.1) ((hmem e).1 he).1.ne'
  have hbelow : (∀ e ∈ l, (e.2 : Int) < k) ↔ ∀ s, 0 < v s → (v s : Int) < k :=
    ⟨fun h s hs => h _ (hsite s hs), fun h e he => by
      rw [((hmem e).1 he).2]; exact h e.1 ((hmem e).1 he).1⟩
  obtain ⟨hiff, hwin⟩ := getClass_spec k l hl
  refine ⟨hiff.trans ?_, fun h s => ?_⟩
  · rw [hnil, hbelow]
    refine or_congr_right' fun h0 => ⟨fun h s => ?_, fun h s _ => h s⟩
    push_neg at h0
    obtain ⟨t, ht⟩ := h0
    have hk := h t (Nat.pos_of_ne_zero ht)
    rcases Nat.eq_zero_or_pos (v s) with hs | hs
    · omega
    · exact h s hs
  · obtain ⟨e, he, hwin, hmax⟩ := hwin h
    show v s ≤ v (getClass k l)
    rw [← hwin, ← ((hmem e).1 he).2]
    rcases Nat.eq_zero_or_pos (v s) with hs | hs
    · omega
    · exact hmax _ (hsite s hs)

/-- The observed domain `a`. -/
def demoDomains : AList (fun _ : Bytes => Bool) := getDomains [⟨[97], 60, []⟩]

/-- Fingerprints in which `a` is unique to site 3. -/
def demoFps : Fingerprints := ⟨AList.insert [97] 3 ∅, ∅⟩

theorem classify_spec_witness :
    (∀ l : List (Σ _ : Int, Nat), (id l).Perm l) ∧ NoSentinel demoFps ∧
    ((classify false 1 demoDomains demoFps id = -1 ↔
      (∀ s, vote false demoDomains demoFps s = 0) ∨
        ∀ s, (vote false demoDomains demoFps s : Int) < 1) ∧
    (classify false 1 demoDomains demoFps id ≠ -1 →
      ∀ s, vote false demoDomains demoFps s ≤
        vote false demoDomains demoFps (classify false 1 demoDomains demoFps id))) :=
  ⟨List.Perm.refl, by decide,
    classify_spec false 1 demoDomains demoFps id List.Perm.refl (by decide)⟩

example : classify false 1 demoDomains demoFps id = 3 := by decide

/-- Fingerprints in which `a` is unique to a site `-1`. -/
def sentinelFps : Fingerprints := ⟨AList.insert [97] (-1) ∅, ∅⟩

theorem classify_sentinel_site :
    vote false demoDomains sentinelFps (-1) = 1 ∧
      classify false 1 demoDomains sentinelFps id = -1 := by
  decide

end Defector.Dns2site
