import Defector.Server.Loader

/-!
# One output file per loader id, for identifiers without `/`

The output file of a unit is the only record, across restarts, that it was
captured: the loader counts a pair as done when `outputFileName(id)`
exists (cmd/server/server.go:88-95). `outputFileName` cleans the id first
(server.go:219-221), and `path.Clean` maps different strings to one path:
`./a` and `a`, `a//b` and `a/b`, `x/../a` and `a`.

An id `identifier-s` of an identifier without `/` is one plain path
element (`PlainElem`), which `Clean` keeps as it is, and `Join` puts after
a prefix fixed by the data directory (`join_plain`). So:

* `outputFileName_distinct`: for identifiers without `/` and an output
  suffix without `/`, distinct loader ids have distinct output files,
  whatever the data directory and the number of samples.
* `outputFileName_collision`: the rows `a` and `./a` give the ids `a-0`
  and `./a-0`, which share `data/a-0.pcap`; once `a-0` is captured, a
  restarted loader counts both as done and hands out nothing, so the
  target of `./a` is never visited.
-/
namespace Defector.Server
open Defector.Go

/-- A string with no `/` and a `-` is a plain path element. -/
theorem plainElem_of_dash {x : List Char} (hs : '/' ∉ x) (hd : '-' ∈ x) : PlainElem x :=
  ⟨hs, fun h => by simp [h] at hd, fun h => by simp [h] at hd, fun h => by simp [h] at hd⟩

/-- A loader id of identifiers without `/` has no `/` and holds a `-`. -/
theorem loaderId_chars {idents : List String} {samples : Nat} {id : String}
    (hidents : ∀ ident ∈ idents, '/' ∉ ident.data) (h : id ∈ loaderIds idents samples) :
    '/' ∉ id.data ∧ '-' ∈ id.data := by
  obtain ⟨⟨ident, s⟩, hp, rfl⟩ := List.mem_map.1 h
  have hi := hidents ident (mem_loopPairs.1 hp).1
  simp [workID, hi, slash_not_mem_itoa]

/-- For an id with no `/` and a `-`, the output file is `Join` of the data directory and
the id with its suffix, a plain element. -/
theorem outputFileName_plain (cfg : Config) {id : String} (hs : '/' ∉ id.data)
    (hd : '-' ∈ id.data) (hsuffix : '/' ∉ cfg.outputSuffix.data) :
    outputFileName cfg id = join cfg.datadir (id ++ cfg.outputSuffix) ∧
      PlainElem (id ++ cfg.outputSuffix).data := by
  refine ⟨by rw [outputFileName, clean_plain (plainElem_of_dash hs hd)], plainElem_of_dash ?_ ?_⟩
  · simp [hs, hsuffix]
  · simp [hd]

theorem outputFileName_distinct (cfg : Config) (rows : List Row) (samples : Nat)
    (hrows : ∀ r ∈ rows, '/' ∉ r.ident.data) (hsuffix : '/' ∉ cfg.outputSuffix.data)
    (a b : String) (ha : a ∈ loaderIds (rows.map Row.ident) samples)
    (hb : b ∈ loaderIds (rows.map Row.ident) samples) (hab : a ≠ b) :
    outputFileName cfg a ≠ outputFileName cfg b := by
  have hidents : ∀ ident ∈ rows.map Row.ident, '/' ∉ ident.data := by
    simpa using hrows
  obtain ⟨has, had⟩ := loaderId_chars hidents ha
  obtain ⟨hbs, hbd⟩ := loaderId_chars hidents hb
  obtain ⟨hfa, hpa⟩ := outputFileName_plain cfg has had hsuffix
  obtain ⟨hfb, hpb⟩ := outputFileName_plain cfg hbs hbd hsuffix
  intro h
  rw [hfa, hfb] at h
  have hdata : a.data ++ cfg.outputSuffix.data = b.data ++ cfg.outputSuffix.data := by
    simpa using congrArg String.data (join_plain_inj cfg.datadir hpa hpb h)
  exact hab (String.ext (List.append_cancel_right hdata))

theorem outputFileName_distinct_witness :
    (∀ r ∈ [(⟨"a", "a.com"⟩ : Row), ⟨"b", "b.com"⟩], '/' ∉ r.ident.data) ∧
      '/' ∉ ({} : Config).outputSuffix.data ∧
      "a-0" ∈ loaderIds ([(⟨"a", "a.com"⟩ : Row), ⟨"b", "b.com"⟩].map Row.ident) 1 ∧
      "b-0" ∈ loaderIds ([(⟨"a", "a.com"⟩ : Row), ⟨"b", "b.com"⟩].map Row.ident) 1 ∧
      "a-0" ≠ "b-0" ∧ outputFileName {} "a-0" ≠ outputFileName {} "b-0" := by
  have h1 : ∀ r ∈ [(⟨"a", "a.com"⟩ : Row), ⟨"b", "b.com"⟩], '/' ∉ r.ident.data := by decide
  have h2 : '/' ∉ ({} : Config).outputSuffix.data := by decide
  have h3 : "a-0" ∈ loaderIds ([(⟨"a", "a.com"⟩ : Row), ⟨"b", "b.com"⟩].map Row.ident) 1 := by
    decide
  have h4 : "b-0" ∈ loaderIds ([(⟨"a", "a.com"⟩ : Row), ⟨"b", "b.com"⟩].map Row.ident) 1 := by
    decide
  have h5 : "a-0" ≠ "b-0" := by decide
  exact ⟨h1, h2, h3, h4, h5, outputFileName_distinct {} _ 1 h1 h2 _ _ h3 h4 h5⟩

/-- The rows `a` and `./a`, with different targets. -/
def dotRows : List Row := [⟨"a", "a.com"⟩, ⟨"./a", "b.com"⟩]

theorem outputFileName_collision :
    loaderIds (dotRows.map Row.ident) 1 = ["a-0", "./a-0"] ∧
      outputFileName {} "a-0" = "data/a-0.pcap" ∧ outputFileName {} "./a-0" = "data/a-0.pcap" ∧
      load {} capturedA dotRows = .ok ⟨∅, ∅, 2, capturedA⟩ :=
  ⟨by decide, by decide, by decide, rfl⟩

end Defector.Server
