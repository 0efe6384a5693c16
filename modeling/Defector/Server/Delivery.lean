import Defector.Server.Fleet

/-!
# Lost replies and stale reports: `done` counts reports, not units

The client loop keeps its `work` request and sends it again when a call
fails (part_002:353-357), and a worker that outlived a coordinator restart
reports the unit the earlier run handed it. `Delivery` adds both to the
fleet's `Step`s: a `Work` call the coordinator commits but whose reply the
worker never sees (`lost`), and a worker that joins holding a loader unit
(`rejoin`).

The accept branch of `Work` (cmd/server/server.go:158-171) stores the
payload and increments `done` (server.go:207-217) whether or not the id is
still outstanding; only the ledger deletion is guarded. The reporter stops
the coordinator when `done == total` (server.go:121-136), with
`total = len(pages) * samples`.

`resend_counts_twice`: from every state, an accepted report whose reply is
lost and which is sent again adds 2 to `done` for one unit.

Counterexample (`lost_reply_miscounts`):

* one row `a.com`: a worker takes `a-0`, reports a 25-byte capture, loses
  the reply and sends the same report again. `done` goes to 2, past the
  total 1, so `done == total` is never seen after the first report;
* two rows `a.com`, `b.com`: a worker takes `a-0` and reports it; the
  reply handing out `b-0` is lost and the worker re-sends `a-0`. Now
  `done = total = 2` with the ledger empty and nothing held, though `b-0`
  was never captured: its file is missing when the reporter exits.
-/
namespace Defector.Server
open Defector.Go

/-- The deliveries of a real run beyond `Step`: a call committed by the coordinator whose
reply is lost, after which worker `i` still holds and re-sends its unit; and a worker of an
earlier coordinator run joining with a unit the loader created (`ids`). -/
inductive Delivery (cfg : Config) (ids : List String) : Fleet → Fleet → Prop
  | step {f f' : Fleet} : Step cfg f f' → Delivery cfg ids f f'
  | lost {f : Fleet} (i : Nat) (hld : Option Item) (hi : f.held[i]? = some hld) (w : String)
      (b : Browse) (ok : Bool) (k : Nat) (hr : Reports hld b) :
      Delivery cfg ids f { f with coord := (work cfg ok k f.coord ⟨w, some b⟩).1 }
  | rejoin {f : Fleet} (u : Item) (hu : u.id ∈ ids) :
      Delivery cfg ids f { f with held := f.held ++ [some u] }

/-- The runs from the loader's state `c0` with lost replies and stale workers. -/
inductive DeliveryReachable (cfg : Config) (ids : List String) (c0 : Coord) : Fleet → Prop
  | init (n : Nat) : DeliveryReachable cfg ids c0 ⟨c0, List.replicate n none, 0⟩
  | step {f f' : Fleet} : DeliveryReachable cfg ids c0 f → Delivery cfg ids f f' →
      DeliveryReachable cfg ids c0 f'

/-- From any state, a worker whose accepted report is committed, whose reply is lost, and
who sends the same report again, is counted twice. -/
theorem resend_counts_twice {cfg : Config} {ids : List String} (f : Fleet) (i : Nat) (u : Item)
    (hi : f.held[i]? = some (some u)) (w : String) (b : Browse) (hr : Reports (some u) b)
    (hid : b.id ≠ "") (ha : accepted cfg b) (k k' : Nat) :
    ∃ f1 f2, Delivery cfg ids f f1 ∧ Delivery cfg ids f1 f2 ∧
      f2.coord.done = f.coord.done + 2 := by
  have hs : ¬ StoreFails cfg true b := fun h => absurd h.2.2.2 (by decide)
  refine ⟨_, _, .lost i (some u) hi w b true k hr,
    .step (.work i (some u) (by exact hi) w b true k' hr), ?_⟩
  simp only [work_done _ _ hs, hid, ha, ne_eq, not_false_eq_true, and_self, if_true]

/-- A capture of `u` long enough for the default `minDataLen` of 25 bytes. -/
def capture (u : Item) : Browse := { id := u.id, url := u.url, data := List.replicate 25 0 }

/-- Two targets, one sample each: the loader creates `a-0` and `b-0`. -/
def pairRows : List Row := [⟨"a", "a.com"⟩, ⟨"b", "b.com"⟩]

theorem lost_reply_miscounts :
    (∃ f, DeliveryReachable {} (loaderIds ["a"] 1) demoCoord f ∧
      demoCoord.done + demoCoord.work.entries.length < f.coord.done) ∧
    ∃ c0 f, load {} ∅ pairRows = .ok c0 ∧ DeliveryReachable {} (loaderIds ["a", "b"] 1) c0 f ∧
      f.coord.done = c0.done + c0.work.entries.length ∧ f.coord.work.entries = [] ∧
      heldIds f.held = [] ∧ f.abandoned = 0 ∧ outputFileName {} "b-0" ∉ f.coord.files := by
  let a0 : Item := ⟨"a-0", "http://a.com"⟩
  refine ⟨⟨_, .step (.step (.step (.init 1) (.step (.work 0 none (by rfl) "w1" {} true 0 rfl)))
      (.lost 0 (some a0) (by rfl) "w1" (capture a0) true 0 ⟨rfl, rfl⟩))
      (.lost 0 (some a0) (by rfl) "w1" (capture a0) true 0 ⟨rfl, rfl⟩), by decide⟩,
    _, _, rfl, .step (.step (.step (.init 1) (.step (.work 0 none (by rfl) "w1" {} true 1 rfl)))
      (.lost 0 (some a0) (by rfl) "w1" (capture a0) true 0 ⟨rfl, rfl⟩))
      (.step (.work 0 (some a0) (by rfl) "w1" (capture a0) true 0 ⟨rfl, rfl⟩)), by decide⟩

end Defector.Server
