import Mathlib.Data.List.AList
import Defector.Dns2site.Training

/-!
# `dns2site` loading: `readData`

`readData` (cmd/dns2site/helpers.go:17-72) walks the directory listing once.
A `.dns` file names its site before its first `-`. The file is passed over
unread when its site is past `sites + open`, is monitored (`site ≤ sites`)
and has `instances` samples already, or is unmonitored and has one. Every
other file is read with the reading loop of `readSample` and appended to its
site, and the global `sampleCount` follows the longest list.

The flags are Go `int`s, and `*sites+*open` is their sum wrapped into 64
bits (`openLimit`): with `-sites` at the largest `int` and `-open 1` it is
the smallest `int`, and every file is passed over.

* `readData_spec`: when the walk succeeds, every `.dns` file names a site,
  and each site holds its first `quota` files in directory order, read:
  `instances` for a monitored site, one for an unmonitored site up to
  `openLimit`, none past it; and, whether or not it succeeds, a file of a
  site that comes after the site's first `quota` files is never read:
  whatever it holds, the walk ends the same.
* `readData_sampleCount`: `sampleCount` is the length of the longest list.
* `siteIndex_nonneg`: every site read is `≥ 0`: the text before the first
  `-` holds no `-`, so `Atoi` cannot read a negative number from it.
-/
namespace Defector.Dns2site
open Defector.Go Defector.Dns

/-- The flags of `dns2site`; `-open` is `openWorld` here, `open` being a Lean keyword.
mirrors part_002:53-61 -/
structure Flags where
  torTTL : Bool := true
  sites : Int := 1000
  instances : Int := 0
  openWorld : Int := -1
  k : Int := 1
  useCommon : Bool := false
  deriving DecidableEq, Repr

/-- A directory entry as `ioutil.ReadDir` lists it, with the bytes `os.Open` reads from it. -/
structure File where
  name : Bytes
  isDir : Bool
  contents : Bytes
  deriving DecidableEq, Repr

/-- `".dns"`. -/
def dnsSuffix : Bytes := [46, 100, 110, 115]

/-- `!files[i].IsDir() && strings.HasSuffix(files[i].Name(), ".dns")` -/
def File.isDns (file : File) : Bool := !file.isDir && dnsSuffix.isSuffixOf file.name

/-- How the walk stops. -/
inductive LoadError where
  /-- `name[:strings.Index(name, "-")]` on a name without `-`: `Index` is `-1`, and the
  slice panics. -/
  | sliceBounds (name : Bytes)
  /-- `log.Fatalf("failed to parse site index from file %s (%s)", ...)` -/
  | badSite (name : Bytes)
  /-- The reading loop's panic or `log.Fatalf` on a line. -/
  | read (e : ReadError)
  deriving DecidableEq, Repr

/-- `strconv.Atoi(name[:strings.Index(name, "-")])` (helpers.go:21-26). -/
def siteIndex (name : Bytes) : Except LoadError Int :=
  match name.findIdx? (· == 45) with
  | none => .error (.sliceBounds name)
  | some i =>
    match atoi (name.take i) with
    | some site => .ok site
    | none => .error (.badSite name)

/-- What `readData` builds: `data`, and the global `sampleCount`. -/
structure Loaded where
  data : AList (fun _ : Int => List Sample)
  sampleCount : Nat

/-- `*sites+*open`: an `int` sum, which Go wraps into 64 bits. -/
def openLimit (f : Flags) : Int := Int.bmod (f.sites + f.openWorld) (2 ^ 64)

/-- The test that passes a file of `site` over, `n` samples of `site` being read
(helpers.go:27-31). -/
def passOver (f : Flags) (site : Int) (n : Nat) : Bool :=
  site > openLimit f || (site ≤ f.sites && n ≥ f.instances) || (site > f.sites && n > 0)

/-- `-sites` at the largest `int` and `-open 1`: the limit wraps, and site 1 is passed over. -/
example : passOver { sites := 9223372036854775807, openWorld := 1 } 1 0 = true := by decide

/-- One iteration of the loop over the files (helpers.go:20-69). -/
def readStep (f : Flags) (st : Loaded) (file : File) : Except LoadError Loaded :=
  if file.isDns then do
    let site ← siteIndex file.name
    let samples := (st.data.lookup site).getD []
    if passOver f site samples.length then return st
    let sam ← (readSample f.torTTL file.contents).mapError .read
    let samples := samples ++ [sam]
    return ⟨st.data.insert site samples,
      if samples.length > st.sampleCount then samples.length else st.sampleCount⟩
  else return st

/-- `readData`, from `sampleCount = 0`. mirrors cmd/dns2site/helpers.go:17-72 -/
def readData (f : Flags) (files : List File) : Except LoadError Loaded :=
  files.foldlM (readStep f) ⟨∅, 0⟩

/-! ## The walk, stated without the loop -/

/-- How many files of `site` the walk reads: `instances` for a monitored site, one for an
unmonitored site up to `sites + open`, none past it. -/
def quota (f : Flags) (site : Int) : Nat :=
  if site > openLimit f then 0 else if site ≤ f.sites then f.instances.toNat else 1

/-- The `.dns` files that name `site`, in directory order. -/
def siteFiles (files : List File) (site : Int) : List File :=
  files.filter fun file => file.isDns && (siteIndex file.name).toOption == some site

/-- The samples the first `quota` files of `site` read as. -/
def quotaSamples (f : Flags) (files : List File) (site : Int) : Except ReadError (List Sample) :=
  ((siteFiles files site).take (quota f site)).mapM fun file => readSample f.torTTL file.contents

theorem passOver_iff (f : Flags) (site : Int) (n : Nat) :
    passOver f site n = true ↔ quota f site ≤ n := by
  unfold passOver quota
  split_ifs <;> simp only [Bool.or_eq_true, Bool.and_eq_true, decide_eq_true_eq] <;> omega

theorem length_of_mapM_ok {ε α β : Type} {g : α → Except ε β} :
    ∀ {l : List α} {ys : List β}, l.mapM g = .ok ys → ys.length = l.length
  | [], ys, h => by cases h; rfl
  | a :: l, ys, h => by
    rw [List.mapM_cons] at h
    cases ha : g a with
    | error e => rw [ha] at h; cases h
    | ok b =>
      cases hl : l.mapM g with
      | error e => rw [ha, hl] at h; cases h
      | ok bs =>
        rw [ha, hl] at h
        cases h
        simp [length_of_mapM_ok hl]

theorem siteFiles_append_of_isDns (files : List File) (file : File) (site : Int)
    (hd : file.isDns = true) (hs : siteIndex file.name = .ok site) (t : Int) :
    siteFiles (files ++ [file]) t = siteFiles files t ++ if site = t then [file] else [] := by
  by_cases ht : site = t <;> simp [siteFiles, hd, hs, Except.toOption, ht]

theorem siteFiles_append_of_not_isDns (files : List File) (file : File)
    (hd : file.isDns = false) (t : Int) : siteFiles (files ++ [file]) t = siteFiles files t := by
  simp [siteFiles, hd]

/-- The state after the files `done`: every `.dns` file so far names a site, each site holds
its first `quota` files, read, and `sampleCount` is the longest list. -/
structure Holds (f : Flags) (done : List File) (st : Loaded) : Prop where
  named : ∀ file ∈ done, file.isDns = true → ∃ site, siteIndex file.name = .ok site
  samples : ∀ site, quotaSamples f done site = .ok ((st.data.lookup site).getD [])
  ne_nil : ∀ site, st.data.lookup site ≠ some []
  le_count : ∀ site, ((st.data.lookup site).getD []).length ≤ st.sampleCount
  count : st.sampleCount = 0 ∨ ∃ site, ((st.data.lookup site).getD []).length = st.sampleCount

theorem holds_nil (f : Flags) : Holds f [] ⟨∅, 0⟩ where
  named := by simp
  samples := fun _ => by simp [quotaSamples, siteFiles]; rfl
  ne_nil := by simp
  le_count := by simp
  count := .inl rfl

theorem quotaSamples_append_ne (f : Flags) (done : List File) (file : File) (site : Int)
    (hd : file.isDns = true) (hs : siteIndex file.name = .ok site) (t : Int) (ht : site ≠ t) :
    quotaSamples f (done ++ [file]) t = quotaSamples f done t := by
  rw [quotaSamples, siteFiles_append_of_isDns done file site hd hs, if_neg ht, List.append_nil,
    quotaSamples]

theorem quotaSamples_append_not_isDns (f : Flags) (done : List File) (file : File)
    (hd : file.isDns = false) (t : Int) :
    quotaSamples f (done ++ [file]) t = quotaSamples f done t := by
  rw [quotaSamples, siteFiles_append_of_not_isDns done file hd, quotaSamples]

/-- A file of a site with its quota read changes nothing. -/
theorem quotaSamples_passOver (f : Flags) (done : List File) (file : File) (site : Int)
    (hd : file.isDns = true) (hs : siteIndex file.name = .ok site) (samples : List Sample)
    (hq : quotaSamples f done site = .ok samples)
    (hp : passOver f site samples.length = true) :
    quotaSamples f (done ++ [file]) site = quotaSamples f done site := by
  unfold quotaSamples at hq ⊢
  have hlen := length_of_mapM_ok hq
  have hle := (passOver_iff f site _).1 hp
  rw [List.length_take] at hlen
  rw [siteFiles_append_of_isDns done file site hd hs, if_pos rfl,
    List.take_append_of_le_length (by omega)]

/-- A file of a site below its quota is read and appended. -/
theorem quotaSamples_read (f : Flags) (done : List File) (file : File) (site : Int)
    (hd : file.isDns = true) (hs : siteIndex file.name = .ok site) (samples : List Sample)
    (hq : quotaSamples f done site = .ok samples)
    (hp : passOver f site samples.length = false) (sam : Sample)
    (hr : readSample f.torTTL file.contents = .ok sam) :
    quotaSamples f (done ++ [file]) site = .ok (samples ++ [sam]) := by
  have hlt : samples.length < quota f site :=
    Nat.lt_of_not_le fun h => by rw [← passOver_iff] at h; simp [h] at hp
  unfold quotaSamples at hq ⊢
  have hlen := length_of_mapM_ok hq
  rw [List.length_take] at hlen
  rw [List.take_of_length_le (by omega)] at hq
  rw [siteFiles_append_of_isDns done file site hd hs, if_pos rfl,
    List.take_of_length_le (by simp only [List.length_append, List.length_singleton]; omega),
    List.mapM_append, hq, List.mapM_cons, List.mapM_nil, hr]
  rfl

/-- `readStep` on a `.dns` file that names `site`. -/
theorem readStep_of_isDns (f : Flags) (st : Loaded) (file : File) (site : Int)
    (hd : file.isDns = true) (hs : siteIndex file.name = .ok site) :
    readStep f st file =
      if passOver f site ((st.data.lookup site).getD []).length then .ok st else
        ((readSample f.torTTL file.contents).mapError .read).bind fun sam =>
          .ok ⟨st.data.insert site ((st.data.lookup site).getD [] ++ [sam]),
            if ((st.data.lookup site).getD [] ++ [sam]).length > st.sampleCount
            then ((st.data.lookup site).getD [] ++ [sam]).length else st.sampleCount⟩ := by
  rw [readStep, if_pos hd, hs]
  rfl

theorem Holds.step {f : Flags} {done : List File} {st st' : Loaded} (h : Holds f done st)
    (file : File) (hstep : readStep f st file = .ok st') : Holds f (done ++ [file]) st' := by
  by_cases hd : file.isDns = true
  swap
  · rw [Bool.not_eq_true] at hd
    rw [readStep, if_neg (by simp [hd])] at hstep
    cases hstep
    refine ⟨fun g hg hgd => ?_, fun t => by rw [quotaSamples_append_not_isDns f done file hd,
      h.samples], h.ne_nil, h.le_count, h.count⟩
    rcases List.mem_append.1 hg with hg | hg
    · exact h.named g hg hgd
    · rw [List.mem_singleton.1 hg, hd] at hgd; cases hgd
  cases hs : siteIndex file.name with
  | error e => rw [readStep, if_pos hd, hs] at hstep; cases hstep
  | ok site =>
  have named : ∀ g ∈ done ++ [file], g.isDns = true → ∃ s, siteIndex g.name = .ok s :=
    fun g hg hgd => (List.mem_append.1 hg).elim (h.named g · hgd)
      fun hg => ⟨site, List.mem_singleton.1 hg ▸ hs⟩
  rw [readStep_of_isDns f st file site hd hs] at hstep
  by_cases hp : passOver f site ((st.data.lookup site).getD []).length = true
  · rw [if_pos hp] at hstep
    cases hstep
    refine ⟨named, fun t => ?_, h.ne_nil, h.le_count, h.count⟩
    by_cases ht : site = t
    · subst ht; rw [quotaSamples_passOver f done file site hd hs _ (h.samples site) hp, h.samples]
    · rw [quotaSamples_append_ne f done file site hd hs t ht, h.samples]
  rw [if_neg hp] at hstep
  cases hr : readSample f.torTTL file.contents with
  | error e => rw [hr] at hstep; cases hstep
  | ok sam =>
  rw [hr] at hstep
  cases hstep
  have hc := h.le_count site
  refine ⟨named, fun t => ?_, fun t => ?_, fun t => ?_, ?_⟩
  · by_cases ht : site = t
    · subst ht
      rw [quotaSamples_read f done file site hd hs _ (h.samples site) (by simpa using hp) sam hr]
      simp
    · rw [quotaSamples_append_ne f done file site hd hs t ht, h.samples,
        AList.lookup_insert_ne (Ne.symm ht)]
  · by_cases ht : site = t
    · subst ht; simp
    · rw [AList.lookup_insert_ne (Ne.symm ht)]; exact h.ne_nil t
  · by_cases ht : site = t
    · subst ht; simp only [AList.lookup_insert, Option.getD_some]; split_ifs <;> omega
    · rw [AList.lookup_insert_ne (Ne.symm ht)]
      have := h.le_count t
      dsimp only
      split_ifs <;> omega
  · split_ifs with hgt
    · exact .inr ⟨site, by simp⟩
    · rcases h.count with h0 | ⟨t, ht⟩
      · exact .inl h0
      · refine .inr ⟨t, ?_⟩
        have hts : site ≠ t := by
          rintro rfl; simp only [List.length_append, List.length_singleton] at hgt; omega
        rwa [AList.lookup_insert_ne (Ne.symm hts)]

theorem readData_holds (f : Flags) (files : List File) (ld : Loaded)
    (h : readData f files = .ok ld) : Holds f files ld := by
  induction files using List.reverseRecOn generalizing ld with
  | nil => cases h; exact holds_nil f
  | append_singleton done file ih =>
    rw [readData, List.foldlM_append] at h
    cases hd : done.foldlM (readStep f) ⟨∅, 0⟩ with
    | error e => rw [hd] at h; cases h
    | ok st =>
      rw [hd] at h
      exact (ih st hd).step file (by simpa using h)

/-! ## Sites -/

/-- The text before the first `-` holds no `-`. -/
theorem minus_not_mem_take_findIdx {name : Bytes} {i : Nat}
    (hi : name.findIdx? (· == 45) = some i) : 45 ∉ name.take i := by
  obtain ⟨_, _, hbefore⟩ := List.findIdx?_eq_some_iff_getElem.1 hi
  intro hm
  obtain ⟨j, hj, hjx⟩ := List.getElem_of_mem hm
  rw [List.length_take] at hj
  rw [List.getElem_take] at hjx
  exact hbefore j (by omega) (by simp [hjx])

theorem siteIndex_nonneg {name : Bytes} {site : Int} (h : siteIndex name = .ok site) :
    0 ≤ site := by
  unfold siteIndex at h
  split at h
  · cases h
  · rename_i i hi
    split at h
    · rename_i n hn
      cases h
      exact atoi_nonneg (minus_not_mem_take_findIdx hi) hn
    · cases h

/-- A site that holds a sample was named by a `.dns` file. -/
theorem Holds.named_of_lookup {f : Flags} {done : List File} {st : Loaded} (h : Holds f done st)
    {site : Int} {samples : List Sample} (hl : st.data.lookup site = some samples) :
    ∃ file ∈ done, siteIndex file.name = .ok site := by
  have hq := h.samples site
  rw [hl, Option.getD_some] at hq
  have hlen := length_of_mapM_ok hq
  obtain ⟨file, hf⟩ : ∃ file, file ∈ (siteFiles done site).take (quota f site) := by
    cases hs : (siteFiles done site).take (quota f site) with
    | nil =>
      rw [hs, List.length_nil] at hlen
      exact absurd (hl.trans (congrArg some (List.eq_nil_of_length_eq_zero hlen))) (h.ne_nil site)
    | cons g _ => exact ⟨g, List.mem_cons_self _ _⟩
  have hm := List.mem_filter.1 (List.mem_of_mem_take hf)
  refine ⟨file, hm.1, ?_⟩
  simp only [Bool.and_eq_true, beq_iff_eq] at hm
  cases hs : siteIndex file.name <;> simp_all [Except.toOption]

theorem Holds.length_le_quota {f : Flags} {done : List File} {st : Loaded} (h : Holds f done st)
    (site : Int) : ((st.data.lookup site).getD []).length ≤ quota f site := by
  have hlen := length_of_mapM_ok (h.samples site)
  rw [hlen, List.length_take]
  exact Nat.min_le_left _ _

/-- What the cross-validation of `main` relies on: every site read is `≥ 0` and holds
between one and `sampleCount` samples, and an unmonitored site holds one. -/
structure Loaded.Fit (f : Flags) (ld : Loaded) : Prop where
  site_nonneg : ∀ site samples, ld.data.lookup site = some samples → 0 ≤ site
  ne_nil : ∀ site, ld.data.lookup site ≠ some []
  le_count : ∀ site samples, ld.data.lookup site = some samples → samples.length ≤ ld.sampleCount
  unmonitored_le_one : ∀ site samples, ld.data.lookup site = some samples → f.sites < site →
    samples.length ≤ 1

theorem Holds.fit {f : Flags} {done : List File} {st : Loaded} (h : Holds f done st) :
    st.Fit f where
  site_nonneg _ _ hl := by
    obtain ⟨_, _, hs⟩ := h.named_of_lookup hl
    exact siteIndex_nonneg hs
  ne_nil := h.ne_nil
  le_count site _ hl := by simpa [hl] using h.le_count site
  unmonitored_le_one site _ hl hu := by
    have := h.length_le_quota site
    rw [hl, Option.getD_some, quota] at this
    split_ifs at this <;> omega

/-! ## The walk -/

/-- A file of a site whose quota is read is passed over, whatever it holds. -/
theorem readStep_full {f : Flags} {st : Loaded} {file : File} {site : Int}
    (hs : siteIndex file.name = .ok site)
    (hq : quota f site ≤ ((st.data.lookup site).getD []).length) : readStep f st file = .ok st := by
  by_cases hd : file.isDns = true
  · rw [readStep_of_isDns f st file site hd hs, if_pos ((passOver_iff f site _).2 hq)]
  · rw [readStep, if_neg hd]; rfl

/-- Once `quota` files of a site have gone by, the site's quota is read. -/
theorem Holds.full {f : Flags} {done : List File} {st : Loaded} (h : Holds f done st) {site : Int}
    (hq : quota f site ≤ (siteFiles done site).length) :
    quota f site ≤ ((st.data.lookup site).getD []).length := by
  rw [length_of_mapM_ok (h.samples site), List.length_take]
  omega

/-- A file of a site after the site's first `quota` files is never read: the walk ends the
same whatever the file holds. -/
theorem readData_set_contents (f : Flags) (files : List File) {i : Nat} {file : File}
    {site : Int} (hi : files[i]? = some file) (hs : siteIndex file.name = .ok site)
    (hq : quota f site ≤ (siteFiles (files.take i) site).length) (contents : Bytes) :
    readData f (files.set i { file with contents }) = readData f files := by
  obtain ⟨hlt, rfl⟩ := List.getElem?_eq_some_iff.1 hi
  rw [List.set_eq_take_append_cons_drop, if_pos hlt]
  conv_rhs => rw [← List.take_append_drop i files, List.drop_eq_getElem_cons hlt]
  rw [readData, readData, List.foldlM_append, List.foldlM_append]
  cases hpre : (files.take i).foldlM (readStep f) ⟨∅, 0⟩ with
  | error e => rfl
  | ok st =>
    have hfull := (readData_holds f _ st hpre).full hq
    simp only [List.foldlM_cons, bind, Except.bind, readStep_full hs hfull,
      @readStep_full _ _ { files[i] with contents } _ hs hfull]

theorem readData_spec (f : Flags) (files : List File) :
    (∀ ld, readData f files = .ok ld →
      (∀ file ∈ files, file.isDns = true → ∃ site, siteIndex file.name = .ok site) ∧
      ∀ site, quotaSamples f files site = .ok ((ld.data.lookup site).getD [])) ∧
    ∀ (i : Nat) (file : File) (site : Int), files[i]? = some file →
      siteIndex file.name = .ok site → quota f site ≤ (siteFiles (files.take i) site).length →
      ∀ contents, readData f (files.set i { file with contents }) = readData f files :=
  ⟨fun ld h => ⟨(readData_holds f files ld h).named, (readData_holds f files ld h).samples⟩,
    fun _ _ _ hi hs hq => readData_set_contents f files hi hs hq⟩

/-- `-sites 1 -instances 1 -open 1`. -/
def demoFlags : Flags := { sites := 1, instances := 1, openWorld := 1 }

/-- `1-0.dns` and `2-0.dns` with one request each, and between them `1-1.dns`, which has no
`,` and would stop the walk if it were read. -/
def demoFiles : List File :=
  [⟨[49, 45, 48, 46, 100, 110, 115], false, [97, 44, 54, 48, 10]⟩,
   ⟨[49, 45, 49, 46, 100, 110, 115], false, [120]⟩,
   ⟨[50, 45, 48, 46, 100, 110, 115], false, [98, 44, 54, 48, 10]⟩]

/-- Site 1 with the sample of `1-0.dns`, site 2 with that of `2-0.dns`. -/
def demoLoaded : Loaded :=
  ⟨((∅ : AList (fun _ : Int => List Sample)).insert (1 : Int)
    ([⟨[⟨[97], 60, []⟩]⟩] : List Sample)).insert (2 : Int) ([⟨[⟨[98], 60, []⟩]⟩] : List Sample), 1⟩

/-- The walk over `demoFiles`, and `1-1.dns`, the second file of site 1, emptied. -/
theorem readData_spec_demo :
    readData demoFlags demoFiles = .ok demoLoaded ∧
    ((∀ file ∈ demoFiles, file.isDns = true → ∃ site, siteIndex file.name = .ok site) ∧
      ∀ site, quotaSamples demoFlags demoFiles site =
        .ok ((demoLoaded.data.lookup site).getD [])) ∧
    demoFiles[1]? = some ⟨[49, 45, 49, 46, 100, 110, 115], false, [120]⟩ ∧
    siteIndex [49, 45, 49, 46, 100, 110, 115] = .ok 1 ∧
    quota demoFlags 1 ≤ (siteFiles (demoFiles.take 1) 1).length ∧
    readData demoFlags (demoFiles.set 1 { (⟨[49, 45, 49, 46, 100, 110, 115], false, [120]⟩ : File)
      with contents := [] }) = readData demoFlags demoFiles :=
  ⟨rfl, (readData_spec demoFlags demoFiles).1 demoLoaded rfl, rfl, rfl, by decide,
    (readData_spec demoFlags demoFiles).2 1 _ 1 rfl rfl (by decide) []⟩

theorem readData_sampleCount (f : Flags) (files : List File) (ld : Loaded)
    (h : readData f files = .ok ld) :
    (∀ site, ((ld.data.lookup site).getD []).length ≤ ld.sampleCount) ∧
    (ld.sampleCount = 0 ∨ ∃ site, ((ld.data.lookup site).getD []).length = ld.sampleCount) :=
  ⟨(readData_holds f files ld h).le_count, (readData_holds f files ld h).count⟩

theorem readData_sampleCount_demo :
    readData demoFlags demoFiles = .ok demoLoaded ∧
    (∀ site, ((demoLoaded.data.lookup site).getD []).length ≤ demoLoaded.sampleCount) ∧
    (demoLoaded.sampleCount = 0 ∨
      ∃ site, ((demoLoaded.data.lookup site).getD []).length = demoLoaded.sampleCount) :=
  ⟨rfl, readData_sampleCount demoFlags demoFiles demoLoaded rfl⟩

end Defector.Dns2site
