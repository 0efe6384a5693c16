import Defector.Server.FileNames
import Defector.Dns2site.ReadData
import Defector.Torlogextract.Parse

/-!
# The file names of a data set, from the coordinator to `dns2site`

A data set passes through three programs. The coordinator stores the
result of loader id `identifier-s` as `identifier-s` and the `-o` suffix in
its data directory (cmd/server/server.go:219-221). `extractdns` turns each
`.pcap` file of a directory into a `.dns` file, replacing the last five
bytes of the name (cmd/extractdns/extractdns.go:53-58, 74-79);
`torlogextract` does the same with `.torlog` files and seven bytes
(cmd/dnsstats/dnsstats.go:565-570, 589-596). `dns2site` reads the site of a
`.dns` file from its name, up to the first `-` (cmd/dns2site/helpers.go:21-26).

The workers of both extractors run concurrently, but each writes only the
files named after its own input, so a run is modelled as one pass over the
listing. What gopacket decodes from a capture is an argument, `decode`, and
so is `strings.EqualFold`, `fold`.

* `siteIndex_pipeline`: with Alexa ranks as the identifiers of the rows,
  every `.dns` file either extractor makes from what the coordinator stored
  for a unit is a `.dns` file whose site, for `dns2site`, is the rank of the
  unit's row: for every rank below 2^63, every sample number, every
  content and every comparison of names.
-/
namespace Defector.Pipeline
open Defector.Go Defector.Dns Defector.Server Defector.Dns2site

/-- `!files[i].IsDir() && strings.HasSuffix(files[i].Name(), ".pcap")` (extractdns.go:53) -/
def isCapture (file : File) : Bool := !file.isDir && (ascii ".pcap").isSuffixOf file.name

/-- `file[:len(file)-5]+".dns"` (extractdns.go:78) -/
def extractdnsName (file : Bytes) : Bytes := file.take (file.length - 5) ++ ascii ".dns"

/-- The `.dns` files `extractdns` writes for a directory listing.
mirrors cmd/extractdns/extractdns.go:30-98 -/
def extractdnsRun (fold : Fold) (decode : Bytes → List Msg) (files : List File) : List File :=
  (files.filter isCapture).map fun f =>
    ⟨extractdnsName f.name, false, extract (extractDomains fold (decode f.contents))⟩

/-- `!files[i].IsDir() && strings.HasSuffix(files[i].Name(), ".torlog")` (dnsstats.go:566) -/
def isTorlog (file : File) : Bool := !file.isDir && (ascii ".torlog").isSuffixOf file.name

/-- `file[:len(file)-7]` and an extension (dnsstats.go:596, 616) -/
def torlogName (file ext : Bytes) : Bytes := file.take (file.length - 7) ++ ext

/-- What `torlogextract` writes for one log: its `.dns` file, and the cells of its
`.cells` file (dnsstats.go:589-629). -/
def torlogOutputs (f : File) : Except Torlogextract.ParseError (File × List Int) := do
  let (dns, cells) ← Torlogextract.extract f.contents
  return (⟨torlogName f.name (ascii ".dns"), false, dns⟩, cells)

/-- The outputs of `torlogextract` for a directory listing; a log `parse` rejects stops
the run (`log.Fatalf`). mirrors cmd/dnsstats/dnsstats.go:546-629 -/
def torlogRun (files : List File) : Except Torlogextract.ParseError (List (File × List Int)) :=
  (files.filter isTorlog).mapM torlogOutputs

/-! ## One stage at a time -/

theorem ascii_append (a b : String) : ascii (a ++ b) = ascii a ++ ascii b := by
  simp [ascii, String.toList, String.data_append]

theorem digitChar_toUInt8 : ∀ d, d < 10 → (Nat.digitChar d).toNat.toUInt8 = digitByte d := by
  decide

/-- `strconv.Itoa` writes the bytes `%d` writes. -/
theorem ascii_itoa (n : Nat) : ascii (itoa n) = formatInt n := by
  simp only [ascii, itoa, String.toList, List.map_map, formatInt, Int.ofNat_eq_coe]
  exact List.map_congr_left fun d hd => digitChar_toUInt8 d (decimal_lt_ten n d hd)

/-- `%d` of a natural number writes no `-`. -/
theorem minus_not_mem_formatInt (n : Nat) : 45 ∉ formatInt n := by
  have hdig : ∀ d, d < 10 → digitByte d ≠ 45 := by decide
  intro h
  change 45 ∈ (decimal n).map digitByte at h
  obtain ⟨d, hd, he⟩ := List.mem_map.1 h
  exact hdig d (decimal_lt_ten n d hd) he

/-- The name of unit `rank-s`, with any tail: `dns2site` reads `rank` from it. -/
theorem siteIndex_formatInt (n : Nat) (hn : n ≤ 9223372036854775807) (rest : Bytes) :
    siteIndex (formatInt n ++ 45 :: rest) = .ok n := by
  have hidx : (formatInt n ++ 45 :: rest).findIdx? (· == 45) = some (formatInt n).length := by
    rw [List.findIdx?_append, List.findIdx?_eq_none_iff.2 fun x hx => by
      simpa using fun h : x = 45 => minus_not_mem_formatInt n (h ▸ hx)]
    simp [List.findIdx?_cons]
  simp only [siteIndex, hidx, List.take_left' rfl, atoi_formatInt n (by omega) (by omega)]

/-- The bytes of the name the coordinator gives unit `rank-s`. -/
theorem ascii_workID (n s : Nat) (suffix : String) :
    ascii (workID (itoa n) s ++ suffix) = formatInt n ++ 45 :: (formatInt s ++ ascii suffix) := by
  simp only [workID, ascii_append, ascii_itoa, List.append_assoc]
  rfl

theorem isSuffixOf_append (l : Bytes) (suffix : Bytes) : suffix.isSuffixOf (l ++ suffix) :=
  List.isSuffixOf_iff_suffix.2 (List.suffix_append l suffix)

/-- A run of `mapM` in `Except` yields only images of its input. -/
theorem mem_of_mapM_ok {ε α β : Type} (f : α → Except ε β) :
    ∀ (l : List α) (r : List β), l.mapM f = .ok r → ∀ y ∈ r, ∃ x ∈ l, f x = .ok y
  | [], r, h, y, hy => by
    cases h
    exact absurd hy (List.not_mem_nil y)
  | x :: l, r, h, y, hy => by
    rw [List.mapM_cons] at h
    cases hx : f x with
    | error e => rw [hx] at h; cases h
    | ok b =>
      cases hl : l.mapM f with
      | error e => rw [hx] at h; simp only [bind, Except.bind, hl] at h; cases h
      | ok bs =>
        rw [hx] at h
        simp only [bind, Except.bind, hl, pure, Except.pure, Except.ok.injEq] at h
        subst h
        rcases List.mem_cons.1 hy with rfl | hy
        · exact ⟨x, List.mem_cons_self _ _, hx⟩
        · obtain ⟨x', hx', hfx⟩ := mem_of_mapM_ok f l bs hl y hy
          exact ⟨x', List.mem_cons_of_mem _ hx', hfx⟩

theorem torlogOutputs_name {f : File} {o : File × List Int} (h : torlogOutputs f = .ok o) :
    o.1.name = torlogName f.name (ascii ".dns") ∧ o.1.isDir = false := by
  unfold torlogOutputs at h
  cases he : Torlogextract.extract f.contents with
  | error e => rw [he] at h; cases h
  | ok p => rw [he] at h; cases h; exact ⟨rfl, rfl⟩

/-! ## The whole pipeline -/

theorem siteIndex_pipeline (cfg : Config) (n s : Nat) (hn : n ≤ 9223372036854775807)
    (fold : Fold) (decode : Bytes → List Msg) (contents : Bytes) :
    let id := workID (itoa n) s
    let stored : File := ⟨ascii (id ++ cfg.outputSuffix), false, contents⟩
    (cfg.outputSuffix = ".pcap" → outputFileName cfg id = join cfg.datadir (id ++ ".pcap") ∧
      ∀ f ∈ extractdnsRun fold decode [stored], f.isDns ∧ siteIndex f.name = .ok n) ∧
    (cfg.outputSuffix = ".torlog" → outputFileName cfg id = join cfg.datadir (id ++ ".torlog") ∧
      ∀ outs, torlogRun [stored] = .ok outs → ∀ o ∈ outs, o.1.isDns ∧ siteIndex o.1.name = .ok n) := by
  intro id stored
  have hslash : '/' ∉ id.data := by simp [id, workID, slash_not_mem_itoa]
  have hdash : '-' ∈ id.data := by simp [id, workID]
  have hout (suffix : String) (hsuf : cfg.outputSuffix = suffix) (hs : '/' ∉ suffix.data) :
      outputFileName cfg id = join cfg.datadir (id ++ suffix) := by
    rw [← hsuf]; exact (outputFileName_plain cfg hslash hdash (hsuf ▸ hs)).1
  /- Each extractor drops exactly the suffix the coordinator added. -/
  have hstem (suffix : String) (hsuf : cfg.outputSuffix = suffix) :
      stored.name.take (stored.name.length - (ascii suffix).length) =
        formatInt n ++ 45 :: formatInt s := by
    have : stored.name = (formatInt n ++ 45 :: formatInt s) ++ ascii suffix := by
      simp [stored, id, ascii_workID, hsuf]
    rw [this, List.length_append, Nat.add_sub_cancel, List.take_left' rfl]
  have hread (name : Bytes) (isDir : Bool) (hdir : isDir = false)
      (hname : name = (formatInt n ++ 45 :: formatInt s) ++ ascii ".dns") :
      File.isDns ⟨name, isDir, []⟩ ∧ siteIndex name = .ok n := by
    subst hdir hname
    refine ⟨isSuffixOf_append (formatInt n ++ 45 :: formatInt s) dnsSuffix, ?_⟩
    simpa using siteIndex_formatInt n hn (formatInt s ++ ascii ".dns")
  refine ⟨fun hsuf => ⟨hout _ hsuf (by decide), fun f hf => ?_⟩,
    fun hsuf => ⟨hout _ hsuf (by decide), fun outs h o ho => ?_⟩⟩
  · obtain ⟨g, hg, rfl⟩ := List.mem_map.1 hf
    obtain rfl : g = stored := by simpa using (List.mem_filter.1 hg).1
    exact hread _ false rfl (by rw [extractdnsName, ← hstem ".pcap" hsuf]; rfl)
  · obtain ⟨g, hg, hgo⟩ := mem_of_mapM_ok _ _ _ h o ho
    obtain rfl : g = stored := by simpa using (List.mem_filter.1 hg).1
    obtain ⟨hname, hdir⟩ := torlogOutputs_name hgo
    exact hread o.1.name o.1.isDir hdir (by rw [hname, torlogName, ← hstem ".torlog" hsuf]; rfl)

/-- Rank 1, sample 0, with the default `-o .pcap`. -/
theorem siteIndex_pipeline_rank_one :
    1 ≤ 9223372036854775807 ∧
      let id := workID (itoa 1) 0
      let stored : File := ⟨ascii (id ++ ({} : Config).outputSuffix), false, []⟩
      (({} : Config).outputSuffix = ".pcap" →
          outputFileName {} id = join ({} : Config).datadir (id ++ ".pcap") ∧
          ∀ f ∈ extractdnsRun Fold.ascii (fun _ => []) [stored], f.isDns ∧ siteIndex f.name = .ok 1) ∧
        (({} : Config).outputSuffix = ".torlog" →
          outputFileName {} id = join ({} : Config).datadir (id ++ ".torlog") ∧
          ∀ outs, torlogRun [stored] = .ok outs → ∀ o ∈ outs,
            o.1.isDns ∧ siteIndex o.1.name = .ok 1) :=
  ⟨by decide, siteIndex_pipeline {} 1 0 (by decide) Fold.ascii (fun _ => []) []⟩

end Defector.Pipeline
