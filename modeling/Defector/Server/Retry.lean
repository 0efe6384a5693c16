import Defector.Server.Loader

/-!
# The retry URL: `www.` goes in front of the scheme, not the host

A report shorter than `minDataLen` puts its unit back with the reported URL
"toggling www. prefix" (cmd/server/server.go:172-185): `strings.HasPrefix`
and string concatenation on the whole URL. Every URL the loader stores has
a scheme, since `main` sets the default scheme on a target without one
before rendering it (server.go:86-98). So the prefix lands before the
scheme: `http://a.com` is retried as `www.http://a.com`, whose scheme is
`www.http` and whose host is still `a.com`. Only the last part of the
intended behaviour survives: a second rejection takes the `www.` off again.

* `retry_url_scheme`: for every scheme-less target, every well-formed
  default scheme not starting with `www.`, and every state, a short report
  of the unit re-inserts it with `www.` prepended to the ledger URL; the
  scheme read from the new URL is `www.` followed by the old one; a second
  toggle restores the URL.
-/
namespace Defector.Server
open Defector.Go

/-- A list that has a `:` within its first four characters does not start with `www.`. -/
theorem take_four_ne_www {s rest : List Char} (hw : s.take 4 ≠ "www.".data) :
    (s ++ ':' :: rest).take 4 ≠ "www.".data := by
  intro h
  by_cases hl : 4 ≤ s.length
  · exact hw (by rwa [List.take_append_of_le_length hl] at h)
  · obtain ⟨n, hn⟩ : ∃ n, 4 - s.length = n + 1 := ⟨4 - s.length - 1, by omega⟩
    have hc : ':' ∈ (s ++ ':' :: rest).take 4 := by
      rw [List.take_append_eq_append_take, hn]
      simp
    rw [h] at hc
    exact absurd hc (by decide)

/-- The loader's URL for a target without a scheme starts with the default scheme. -/
theorem ledgerURL_default (cfg : Config) (page : URL) (hp : page.scheme = "")
    (hs : cfg.scheme ≠ "") :
    ∃ rest, (ledgerURL cfg page).data = cfg.scheme.data ++ ':' :: rest := by
  simpa [ledgerURL, hp] using urlString_scheme { page with scheme := cfg.scheme } hs

/-- Dropping a `www.` that was just added gives the string back. -/
theorem toggleWWW_www (u : String) : toggleWWW ("www." ++ u) = u := by
  simp [toggleWWW]

theorem retry_url_scheme (cfg : Config) (hs : ValidScheme cfg.scheme.data)
    (hw : cfg.scheme.data.take 4 ≠ "www.".data) (page : URL) (hp : page.scheme = "")
    (ok : Bool) (s : Coord) (b : Browse) (hid : b.id ≠ "") (hu : b.url = ledgerURL cfg page)
    (hshort : ¬ accepted cfg b) :
    intake cfg ok b s = .ok { s with work := s.work.insert b.id ⟨b.id, "www." ++ b.url⟩ } ∧
    toggleWWW ("www." ++ b.url) = b.url ∧
    ∃ rest, getScheme b.url.data = .ok (cfg.scheme.data, rest) ∧
      getScheme ("www." ++ b.url).data = .ok (("www." ++ cfg.scheme).data, rest) := by
  have hne : cfg.scheme ≠ "" := fun h => by rw [h] at hs; exact hs
  obtain ⟨rest, hr⟩ := ledgerURL_default cfg page hp hne
  rw [← hu] at hr
  have htoggle : toggleWWW b.url = "www." ++ b.url := by
    simp only [toggleWWW, hr, take_four_ne_www hw, if_false]
  refine ⟨by simp [intake, hid, hshort, htoggle], toggleWWW_www _, rest, ?_, ?_⟩
  · rw [hr, getScheme_valid _ _ hs]
  · rw [String.data_append, hr, String.data_append, ← List.append_assoc,
      getScheme_valid _ _ hs.www]

theorem retry_url_scheme_witness :
    ValidScheme ({} : Config).scheme.data ∧ ({} : Config).scheme.data.take 4 ≠ "www.".data ∧
    ({ path := "a.com" } : URL).scheme = "" ∧
    ({ id := "a-0", url := "http://a.com" } : Browse).id ≠ "" ∧
    ({ id := "a-0", url := "http://a.com" } : Browse).url = ledgerURL {} { path := "a.com" } ∧
    ¬ accepted {} { id := "a-0", url := "http://a.com" } ∧
    (intake {} true { id := "a-0", url := "http://a.com" } ⟨∅, ∅, 0, ∅⟩ =
        .ok ⟨(∅ : Ledger).insert "a-0" ⟨"a-0", "www." ++ "http://a.com"⟩, ∅, 0, ∅⟩ ∧
      toggleWWW ("www." ++ "http://a.com") = "http://a.com" ∧
      ∃ rest, getScheme "http://a.com".data = .ok (({} : Config).scheme.data, rest) ∧
        getScheme ("www." ++ "http://a.com").data =
          .ok (("www." ++ ({} : Config).scheme).data, rest)) :=
  ⟨by decide, by decide, rfl, by decide, by decide, by decide,
    retry_url_scheme {} (by decide) (by decide) { path := "a.com" } rfl true ⟨∅, ∅, 0, ∅⟩
      { id := "a-0", url := "http://a.com" } (by decide) (by decide) (by decide)⟩

/-- The retry of the spec's `a.com` parses with scheme `www.http` and the same host. -/
example : (parse "www.http://a.com").toOption.map (fun u => (u.scheme, u.host)) =
    some ("www.http", "a.com") := by decide

end Defector.Server
