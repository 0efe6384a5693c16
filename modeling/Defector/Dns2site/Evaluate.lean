import Mathlib.Algebra.BigOperators.Group.Finset
import Mathlib.Algebra.Order.BigOperators.Group.List
import Mathlib.Logic.Relation
import Defector.Dns2site.ReadData
import Defector.Dns2site.Classify

/-!
# `dns2site` evaluation: the folds and the testing pool

`main` (part_002:65-121) runs one fold per sample index, `fold < sampleCount`.
In fold `fold`, `forTesting` holds out the `fold`-th sample of every monitored
site and every sample of the unmonitored sites with `site % sampleCount == fold`;
`training` builds the fingerprints from the rest, and `testing`
(part_002:135-179) classifies the held-out samples on a pool of workers.

`testing` sends every held-out sample on the unbuffered channel `wIn`; each of
`runtime.NumCPU()` workers takes an item, classifies it and sends its
`outcome` on `wOut`, a channel buffered to `len(data) * sampleCount`; nothing
reads `wOut` before `wg.Wait()` has seen every worker leave, so a result that
finds the buffer full blocks its worker for ever. The pool is a transition
system here (`PoolStep`): a send hands the next item to an idle worker, a
delivery appends a worker's result to the buffer while it has room. Each
`classify` visits its `votes` map in an order of its own, so a delivery
chooses that order.

* `pool_progress`: while the items fit in the buffer, a pool that is not done
  can always make a step: `testing` never deadlocks.
* `pool_terminates`: the pool has no infinite run.
* `pool_result_total`: a done pool has exactly one result per item, whatever
  the interleaving: the `metrics` it returns add up to the number of items.
* `pool_result_split`: when every monitored site tested is `> 0`, `tn + fnp`
  counts the unmonitored items and `tp + fn + fpp` the monitored ones, the
  denominators of `fpr` and `recall` (helpers.go:163-173, 225-235).
* `fold_fits`: on what `readData` returns, every fold sends at most
  `len(data)` items, within `wOut`'s buffer.
* `fold_unique`: every loaded sample is held out in exactly one fold.
* `crossValidation_total`: the results of the folds add up to the number of
  loaded samples: every sample is classified once.
-/
namespace Defector.Dns2site
open Defector.Go Defector.Dns

/-- The confusion counts of a fold. mirrors part_002:34-41 -/
structure Metrics where
  tp : Nat
  fpp : Nat
  fnp : Nat
  fn : Nat
  tn : Nat
  deriving DecidableEq, Repr

/-- `addResult`. mirrors cmd/dns2site/helpers.go:154-160 -/
def addResult (base result : Metrics) : Metrics :=
  { fn := base.fn + result.fn, fnp := base.fnp + result.fnp, fpp := base.fpp + result.fpp,
    tn := base.tn + result.tn, tp := base.tp + result.tp }

/-- The count of one classified sample. mirrors part_002:226-262 -/
def outcome (trueclass output : Int) (unmonitoredSite : Int → Bool) : Metrics :=
  let trueclass := if unmonitoredSite trueclass then -1 else trueclass
  if output = trueclass then
    if trueclass > 0 then ⟨1, 0, 0, 0, 0⟩ else ⟨0, 0, 0, 0, 1⟩
  else if output = -1 then ⟨0, 0, 0, 1, 0⟩
  else if trueclass = -1 then ⟨0, 0, 1, 0, 0⟩
  else ⟨0, 1, 0, 0, 0⟩

/-- `unmonitored` of `main`. mirrors part_002:97-99 -/
def unmonitored (f : Flags) (site : Int) : Bool := site > f.sites

/-- `forTesting` of fold `fold`, with Go's truncating `%`. mirrors part_002:103-106 -/
def forTesting (f : Flags) (sampleCount fold : Nat) (site : Int) (sampl : Nat) : Bool :=
  (!unmonitored f site && sampl == fold) ||
    (unmonitored f site && site.tmod sampleCount == fold)

/-- An item of `wIn`. mirrors part_002:43-46 -/
structure Work where
  reqs : List Request
  site : Int

/-- The items `testing` sends on `wIn`, in the order of its loops over `data`
(part_002:156-167). -/
def sends (data : Data) (forTesting : Int → Nat → Bool) : List Work :=
  data.flatMap fun e => (e.2.enum.filter fun p => forTesting e.1 p.1).map fun p =>
    ⟨p.2.requests, e.1⟩

/-- The testing pool: the items still to send on `wIn`, the item each worker has taken and
not delivered, and the results in `wOut`'s buffer, oldest first. -/
structure Pool where
  wIn : List Work
  workers : List (Option Work)
  wOut : List Metrics

/-- The pool of `n` idle workers before the first send. -/
def Pool.init (work : List Work) (n : Nat) : Pool := ⟨work, List.replicate n none, []⟩

/-- Every item sent and every worker idle: `close(wIn)` ends the workers' loops and
`wg.Wait()` returns. -/
def Pool.Done (p : Pool) : Prop := p.wIn = [] ∧ ∀ x ∈ p.workers, x = none

/-- What `testing` returns: `wOut` drained into a zero `metrics` (part_002:171-177). -/
def Pool.result (p : Pool) : Metrics := p.wOut.foldl addResult ⟨0, 0, 0, 0, 0⟩

section Pool

variable (useCommon : Bool) (k : Int) (fps : Fingerprints) (unmonitoredSite : Int → Bool)
  (capacity : Nat)

/-- A worker's result for `w`, `classify` visiting its votes in the order `visit`
(part_002:147-148). -/
def workResult (w : Work) (visit : List (Σ _ : Int, Nat) → List (Σ _ : Int, Nat)) : Metrics :=
  outcome w.site (classify useCommon k (getDomains w.reqs) fps visit) unmonitoredSite

/-- One step of the pool. -/
inductive PoolStep : Pool → Pool → Prop
  /-- `wIn <- work{...}`: the channel is unbuffered, so an idle worker takes the item. -/
  | send {w : Work} {ws : List Work} {workers : List (Option Work)} {out : List Metrics}
      (j : Nat) (idle : workers[j]? = some none) :
      PoolStep ⟨w :: ws, workers, out⟩ ⟨ws, workers.set j (some w), out⟩
  /-- `wOut <- outcome(...)`: worker `j` delivers while the buffer has room. -/
  | deliver {w : Work} {ws : List Work} {workers : List (Option Work)} {out : List Metrics}
      (j : Nat) (visit : List (Σ _ : Int, Nat) → List (Σ _ : Int, Nat))
      (hvisit : ∀ l, (visit l).Perm l) (busy : workers[j]? = some (some w))
      (room : out.length < capacity) :
      PoolStep ⟨ws, workers, out⟩
        ⟨ws, workers.set j none, out ++ [workResult useCommon k fps unmonitoredSite w visit]⟩

end Pool

/-! ## Counting -/

/-- The number of items a `metrics` counts. -/
def Metrics.total (m : Metrics) : Nat := m.tp + m.fpp + m.fnp + m.fn + m.tn

@[simp] theorem total_addResult (a b : Metrics) : (addResult a b).total = a.total + b.total := by
  simp only [addResult, Metrics.total]; omega

theorem total_foldl_addResult (l : List Metrics) (z : Metrics) :
    (l.foldl addResult z).total = z.total + (l.map Metrics.total).sum := by
  induction l generalizing z with
  | nil => simp
  | cons m l ih => rw [List.foldl_cons, ih, total_addResult]; simp [Nat.add_assoc]

@[simp] theorem total_outcome (t o : Int) (u : Int → Bool) : (outcome t o u).total = 1 := by
  dsimp only [outcome, Metrics.total]; split_ifs <;> rfl

/-- A sample of an unmonitored site is a true negative or a false positive. -/
theorem outcome_unmonitored {t : Int} (o : Int) {u : Int → Bool} (hu : u t = true) :
    (outcome t o u).tn + (outcome t o u).fnp = 1 := by
  dsimp only [outcome]; simp only [hu, if_true]; split_ifs <;> first | rfl | omega

/-- A sample of a monitored site `> 0` is a true positive, a false negative, or counted
as another site. -/
theorem outcome_monitored {t : Int} (o : Int) {u : Int → Bool} (hu : u t = false) (ht : 0 < t) :
    (outcome t o u).tn + (outcome t o u).fnp = 0 := by
  dsimp only [outcome]; simp only [hu, Bool.false_eq_true, if_false]
  split_ifs <;> first | rfl | omega

/-! ## The pool -/

/-- The items the workers hold. -/
def Pool.held (p : Pool) : List Work := p.workers.filterMap id

/-- `2 * len(wIn) + busy workers`: a send and a delivery each lower it. -/
def Pool.measure (p : Pool) : Nat := 2 * p.wIn.length + p.held.length

theorem filterMap_set_some {α : Type} :
    ∀ (l : List (Option α)) (j : Nat) (a : α), l[j]? = some none →
      ((l.set j (some a)).filterMap id).Perm (a :: l.filterMap id)
  | [], _, _, h => by simp at h
  | x :: l, 0, a, h => by
    rw [List.getElem?_cons_zero, Option.some.injEq] at h
    subst h; simp
  | x :: l, j + 1, a, h => by
    rw [List.getElem?_cons_succ] at h
    rw [List.set_cons_succ]
    cases x with
    | none => simpa using filterMap_set_some l j a h
    | some b =>
      simp only [List.filterMap_cons, id_eq]
      exact ((filterMap_set_some l j a h).cons b).trans (List.Perm.swap a b _)

theorem filterMap_set_none {α : Type} :
    ∀ (l : List (Option α)) (j : Nat) (a : α), l[j]? = some (some a) →
      (a :: (l.set j none).filterMap id).Perm (l.filterMap id)
  | [], _, _, h => by simp at h
  | x :: l, 0, a, h => by
    rw [List.getElem?_cons_zero, Option.some.injEq] at h
    subst h; simp
  | x :: l, j + 1, a, h => by
    rw [List.getElem?_cons_succ] at h
    rw [List.set_cons_succ]
    cases x with
    | none => simpa using filterMap_set_none l j a h
    | some b =>
      simp only [List.filterMap_cons, id_eq]
      exact (List.Perm.swap b a _).trans ((filterMap_set_none l j a h).cons b)

theorem held_eq_nil {p : Pool} (h : ∀ x ∈ p.workers, x = none) : p.held = [] :=
  List.filterMap_eq_nil_iff.2 fun x hx => by simp [h x hx]

section Pool

variable (useCommon : Bool) (k : Int) (fps : Fingerprints) (unmonitoredSite : Int → Bool)
  (capacity : Nat)

/-- `m` is the result a worker delivers for `w`, for some order of `classify`'s votes. -/
def Delivered (w : Work) (m : Metrics) : Prop :=
  ∃ visit : List (Σ _ : Int, Nat) → List (Σ _ : Int, Nat),
    (∀ l, (visit l).Perm l) ∧ m = workResult useCommon k fps unmonitoredSite w visit

/-- The pool of `n` workers over the items `work`: `work` is what was sent followed by what is
still to send, and what was sent is held by a worker or delivered, each result once. -/
structure PoolInv (work : List Work) (n : Nat) (p : Pool) : Prop where
  workers : p.workers.length = n
  accounted : ∃ sent done, work = sent ++ p.wIn ∧ (p.held ++ done).Perm sent ∧
    List.Forall₂ (Delivered useCommon k fps unmonitoredSite) done p.wOut

theorem poolInv_init (work : List Work) (n : Nat) :
    PoolInv useCommon k fps unmonitoredSite work n (Pool.init work n) :=
  ⟨List.length_replicate n none, [], [], rfl,
    by simp [Pool.init, Pool.held, List.filterMap_replicate], .nil⟩

theorem PoolInv.step {work : List Work} {n : Nat} {p q : Pool}
    (h : PoolInv useCommon k fps unmonitoredSite work n p)
    (hs : PoolStep useCommon k fps unmonitoredSite capacity p q) :
    PoolInv useCommon k fps unmonitoredSite work n q := by
  obtain ⟨hn, sent, done, hw, hperm, hdel⟩ := h
  cases hs with
  | @send w ws workers out j idle =>
    refine ⟨by simpa using hn, sent ++ [w], done, by simp [hw], ?_, hdel⟩
    calc List.Perm ((workers.set j (some w)).filterMap id ++ done)
          (w :: workers.filterMap id ++ done) :=
          (filterMap_set_some workers j w idle).append_right done
      List.Perm _ (workers.filterMap id ++ done ++ [w]) :=
          (List.perm_append_singleton w _).symm
      List.Perm _ (sent ++ [w]) := hperm.append_right [w]
  | @deliver w ws workers out j visit hvisit busy room =>
    refine ⟨by simpa using hn, sent, done ++ [w], hw, ?_,
      List.rel_append hdel (.cons ⟨visit, hvisit, rfl⟩ .nil)⟩
    calc List.Perm ((workers.set j none).filterMap id ++ (done ++ [w]))
          (w :: (workers.set j none).filterMap id ++ done) := by
          rw [← List.append_assoc]; exact List.perm_append_singleton w _
      List.Perm _ (workers.filterMap id ++ done) :=
          (filterMap_set_none workers j w busy).append_right done
      List.Perm _ sent := hperm

theorem PoolInv.reachable {work : List Work} {n : Nat} {p : Pool}
    (h : Relation.ReflTransGen (PoolStep useCommon k fps unmonitoredSite capacity)
      (Pool.init work n) p) :
    PoolInv useCommon k fps unmonitoredSite work n p := by
  induction h with
  | refl => exact poolInv_init useCommon k fps unmonitoredSite work n
  | tail _ hs ih => exact ih.step useCommon k fps unmonitoredSite capacity hs

/-- While the items fit in the buffer, a busy worker can deliver, and with every worker idle
the next item can be sent. -/
theorem PoolInv.progress {work : List Work} {n : Nat} {p : Pool}
    (h : PoolInv useCommon k fps unmonitoredSite work n p) (hcap : work.length ≤ capacity)
    (hn : 0 < n) (hnd : ¬ p.Done) :
    ∃ q, PoolStep useCommon k fps unmonitoredSite capacity p q := by
  obtain ⟨hlen, sent, done, hw, hperm, hdel⟩ := h
  obtain ⟨wIn, workers, out⟩ := p
  by_cases hbusy : ∃ (j : Nat) (w : Work), workers[j]? = some (some w)
  · obtain ⟨j, w, hj⟩ := hbusy
    have hheld : w ∈ workers.filterMap id :=
      List.mem_filterMap.2 ⟨some w, List.getElem?_mem hj, rfl⟩
    have hpos := List.length_pos_of_mem hheld
    have h1 := hdel.length_eq
    have h2 := hperm.length_eq
    have h3 := congrArg List.length hw
    simp only [Pool.held, List.length_append] at h1 h2 h3
    exact ⟨_, .deliver j id (fun l => .refl l) hj (by omega)⟩
  · have hidle : ∀ x ∈ workers, x = none := by
      intro x hx
      cases x with
      | none => rfl
      | some w =>
        obtain ⟨j, hj⟩ := List.mem_iff_getElem?.1 hx
        exact absurd ⟨j, w, hj⟩ hbusy
    cases wIn with
    | nil => exact absurd ⟨rfl, hidle⟩ hnd
    | cons w ws =>
      have h0 : 0 < workers.length := by simp only at hlen; omega
      refine ⟨_, .send 0 ?_⟩
      rw [List.getElem?_eq_getElem h0, hidle _ (List.getElem_mem h0)]

/-- A done pool has delivered one result for each item. -/
theorem PoolInv.done {work : List Work} {n : Nat} {p : Pool}
    (h : PoolInv useCommon k fps unmonitoredSite work n p) (hd : p.Done) :
    ∃ done, done.Perm work ∧ List.Forall₂ (Delivered useCommon k fps unmonitoredSite) done p.wOut := by
  obtain ⟨-, sent, done, hw, hperm, hdel⟩ := h
  rw [hd.1, List.append_nil] at hw
  rw [held_eq_nil hd.2, List.nil_append] at hperm
  exact ⟨done, hw ▸ hperm, hdel⟩

theorem PoolStep.measure_lt {p q : Pool}
    (h : PoolStep useCommon k fps unmonitoredSite capacity p q) : q.measure < p.measure := by
  cases h with
  | @send w ws workers out j idle =>
    have := (filterMap_set_some workers j w idle).length_eq
    simp only [Pool.measure, Pool.held, List.length_cons] at this ⊢
    omega
  | @deliver w ws workers out j visit hvisit busy room =>
    have := (filterMap_set_none workers j w busy).length_eq
    simp only [Pool.measure, Pool.held, List.length_cons] at this ⊢
    omega

/-- Over delivered results, each item counts once. -/
theorem total_of_delivered {done : List Work} {out : List Metrics}
    (h : List.Forall₂ (Delivered useCommon k fps unmonitoredSite) done out) :
    (out.map Metrics.total).sum = done.length := by
  induction h with
  | nil => rfl
  | cons hd _ ih =>
    obtain ⟨visit, -, rfl⟩ := hd
    simp [ih, workResult, Nat.add_comm]

/-- Over delivered results, `tn + fnp` counts the items of unmonitored sites and
`tp + fn + fpp` the others, when every monitored site is `> 0`. -/
theorem split_of_delivered {done : List Work} {out : List Metrics}
    (h : List.Forall₂ (Delivered useCommon k fps unmonitoredSite) done out)
    (hsites : ∀ w ∈ done, unmonitoredSite w.site = false → 0 < w.site) (z : Metrics) :
    (out.foldl addResult z).tn + (out.foldl addResult z).fnp =
        z.tn + z.fnp + done.countP (fun w => unmonitoredSite w.site) ∧
      (out.foldl addResult z).tp + (out.foldl addResult z).fn + (out.foldl addResult z).fpp =
        z.tp + z.fn + z.fpp + done.countP (fun w => !unmonitoredSite w.site) := by
  induction h generalizing z with
  | nil => simp
  | @cons w m done out hd _ ih =>
    obtain ⟨visit, -, rfl⟩ := hd
    simp only [List.forall_mem_cons] at hsites
    obtain ⟨h1, h2⟩ := ih hsites.2 (addResult z _)
    rw [List.foldl_cons, h1, h2, List.countP_cons, List.countP_cons]
    have htot := total_outcome w.site (classify useCommon k (getDomains w.reqs) fps visit)
      unmonitoredSite
    simp only [Metrics.total] at htot
    simp only [addResult, workResult]
    cases hu : unmonitoredSite w.site with
    | true =>
      have := outcome_unmonitored (classify useCommon k (getDomains w.reqs) fps visit) hu
      simp only [if_true, Bool.not_true, Bool.false_eq_true, if_false]
      omega
    | false =>
      have := outcome_monitored (classify useCommon k (getDomains w.reqs) fps visit) hu
        (hsites.1 hu)
      simp only [Bool.false_eq_true, if_false, Bool.not_false, if_true]
      omega

/-- One worker taking the items one at a time runs the pool to its end. -/
theorem run_one_worker (work : List Work) (out : List Metrics)
    (hcap : out.length + work.length ≤ capacity) :
    Relation.ReflTransGen (PoolStep useCommon k fps unmonitoredSite capacity) ⟨work, [none], out⟩
      ⟨[], [none], out ++ work.map fun w => workResult useCommon k fps unmonitoredSite w id⟩ := by
  induction work generalizing out with
  | nil => simpa using .refl
  | cons w ws ih =>
    simp only [List.length_cons] at hcap
    have hsend : PoolStep useCommon k fps unmonitoredSite capacity ⟨w :: ws, [none], out⟩
        ⟨ws, [some w], out⟩ := .send 0 rfl
    have hdeliver : PoolStep useCommon k fps unmonitoredSite capacity ⟨ws, [some w], out⟩
        ⟨ws, [none], out ++ [workResult useCommon k fps unmonitoredSite w id]⟩ :=
      .deliver 0 id (fun l => .refl l) rfl (by omega)
    have hrest := ih (out ++ [workResult useCommon k fps unmonitoredSite w id])
      (by simp only [List.length_append, List.length_singleton]; omega)
    simpa using Relation.ReflTransGen.head hsend (Relation.ReflTransGen.head hdeliver hrest)

theorem pool_progress (work : List Work) (n : Nat) (p : Pool)
    (h : Relation.ReflTransGen (PoolStep useCommon k fps unmonitoredSite capacity)
      (Pool.init work n) p)
    (hcap : work.length ≤ capacity) (hn : 0 < n) (hnd : ¬ p.Done) :
    ∃ q, PoolStep useCommon k fps unmonitoredSite capacity p q :=
  (PoolInv.reachable useCommon k fps unmonitoredSite capacity h).progress
    useCommon k fps unmonitoredSite capacity hcap hn hnd

/-- One item of site 1 for one worker, with empty fingerprints and every site monitored. -/
def demoWork : Work := ⟨[], 1⟩

/-- The pool above once its item is sent: the worker holds it, so only a delivery can
move. -/
def demoSent : Pool := ⟨[], [some demoWork], []⟩

theorem pool_progress_demo :
    Relation.ReflTransGen (PoolStep false 1 ⟨∅, ∅⟩ (fun _ => false) 1) (Pool.init [demoWork] 1)
      demoSent ∧
    [demoWork].length ≤ 1 ∧ 0 < 1 ∧ ¬ demoSent.Done ∧
    ∃ q, PoolStep false 1 ⟨∅, ∅⟩ (fun _ => false) 1 demoSent q := by
  have hs : Relation.ReflTransGen (PoolStep false 1 ⟨∅, ∅⟩ (fun _ => false) 1)
      (Pool.init [demoWork] 1) demoSent := .single (.send 0 rfl)
  have hnd : ¬ demoSent.Done := fun h => by simpa [demoSent] using h.2
  exact ⟨hs, le_refl _, Nat.one_pos, hnd,
    pool_progress false 1 ⟨∅, ∅⟩ (fun _ => false) 1 [demoWork] 1 demoSent hs (le_refl _)
      Nat.one_pos hnd⟩

theorem pool_terminates :
    WellFounded fun q p => PoolStep useCommon k fps unmonitoredSite capacity p q :=
  Subrelation.wf (fun h => PoolStep.measure_lt useCommon k fps unmonitoredSite capacity h)
    (measure Pool.measure).wf

theorem PoolInv.result_total {work : List Work} {n : Nat} {p : Pool}
    (h : PoolInv useCommon k fps unmonitoredSite work n p) (hd : p.Done) :
    p.result.total = work.length := by
  obtain ⟨done, hperm, hdel⟩ := h.done useCommon k fps unmonitoredSite hd
  rw [Pool.result, total_foldl_addResult, total_of_delivered useCommon k fps unmonitoredSite hdel,
    hperm.length_eq]
  exact Nat.zero_add _

theorem pool_result_total (work : List Work) (n : Nat) (p : Pool)
    (h : Relation.ReflTransGen (PoolStep useCommon k fps unmonitoredSite capacity)
      (Pool.init work n) p) (hd : p.Done) :
    p.result.total = work.length :=
  (PoolInv.reachable useCommon k fps unmonitoredSite capacity h).result_total
    useCommon k fps unmonitoredSite hd

/-- The pool above, run to its end. -/
def demoDone : Pool := ⟨[], [none], [workResult false 1 ⟨∅, ∅⟩ (fun _ => false) demoWork id]⟩

theorem demoDone_reachable :
    Relation.ReflTransGen (PoolStep false 1 ⟨∅, ∅⟩ (fun _ => false) 1) (Pool.init [demoWork] 1)
      demoDone :=
  run_one_worker false 1 ⟨∅, ∅⟩ (fun _ => false) 1 [demoWork] [] (le_refl _)

theorem demoDone_done : demoDone.Done := ⟨rfl, fun x hx => by simpa [demoDone] using hx⟩

theorem pool_result_total_demo :
    Relation.ReflTransGen (PoolStep false 1 ⟨∅, ∅⟩ (fun _ => false) 1) (Pool.init [demoWork] 1)
      demoDone ∧ demoDone.Done ∧ demoDone.result.total = [demoWork].length :=
  ⟨demoDone_reachable, demoDone_done, pool_result_total false 1 ⟨∅, ∅⟩ (fun _ => false) 1
    [demoWork] 1 demoDone demoDone_reachable demoDone_done⟩

theorem pool_result_split (work : List Work) (n : Nat) (p : Pool)
    (h : Relation.ReflTransGen (PoolStep useCommon k fps unmonitoredSite capacity)
      (Pool.init work n) p) (hd : p.Done)
    (hsites : ∀ w ∈ work, unmonitoredSite w.site = false → 0 < w.site) :
    p.result.tn + p.result.fnp = (work.filter fun w => unmonitoredSite w.site).length ∧
    p.result.tp + p.result.fn + p.result.fpp =
      (work.filter fun w => !unmonitoredSite w.site).length := by
  obtain ⟨done, hperm, hdel⟩ := (PoolInv.reachable useCommon k fps unmonitoredSite capacity h).done
    useCommon k fps unmonitoredSite hd
  have hsplit := split_of_delivered useCommon k fps unmonitoredSite hdel
    (fun w hw => hsites w (hperm.subset hw)) ⟨0, 0, 0, 0, 0⟩
  simp only [hperm.countP_eq, Nat.zero_add, List.countP_eq_length_filter] at hsplit
  exact hsplit

theorem pool_result_split_demo :
    Relation.ReflTransGen (PoolStep false 1 ⟨∅, ∅⟩ (fun _ => false) 1) (Pool.init [demoWork] 1)
      demoDone ∧ demoDone.Done ∧
    (∀ w ∈ [demoWork], (fun _ => false : Int → Bool) w.site = false → 0 < w.site) ∧
    demoDone.result.tn + demoDone.result.fnp =
      ([demoWork].filter fun w => (fun _ => false : Int → Bool) w.site).length ∧
    demoDone.result.tp + demoDone.result.fn + demoDone.result.fpp =
      ([demoWork].filter fun w => !(fun _ => false : Int → Bool) w.site).length :=
  ⟨demoDone_reachable, demoDone_done, by decide, pool_result_split false 1 ⟨∅, ∅⟩ (fun _ => false) 1
    [demoWork] 1 demoDone demoDone_reachable demoDone_done (by decide)⟩

end Pool

/-! ## The folds -/

/-- The fold that holds out sample `i` of `site`: its index for a monitored site,
`site % sampleCount` for an unmonitored one. -/
def heldOutFold (f : Flags) (sampleCount : Nat) (site : Int) (i : Nat) : Nat :=
  if unmonitored f site then (site.tmod sampleCount).toNat else i

theorem forTesting_iff (f : Flags) (sampleCount fold : Nat) {site : Int} (hsite : 0 ≤ site)
    (i : Nat) : forTesting f sampleCount fold site i = true ↔ fold = heldOutFold f sampleCount site i := by
  have := Int.tmod_nonneg (sampleCount : Int) hsite
  unfold forTesting heldOutFold
  cases unmonitored f site <;> simp only [Bool.not_false, Bool.true_and, Bool.false_and,
    Bool.or_false, Bool.not_true, Bool.false_or, beq_iff_eq, if_true, Bool.false_eq_true,
    if_false] <;> omega

theorem heldOutFold_lt (f : Flags) {sampleCount : Nat} (site : Int) {i : Nat}
    (hi : i < sampleCount) : heldOutFold f sampleCount site i < sampleCount := by
  have := Int.tmod_lt_of_pos site (show (0 : Int) < sampleCount by omega)
  unfold heldOutFold
  split_ifs <;> omega

theorem length_filter_enum {α : Type} (l : List α) (q : Nat → Bool) :
    (l.enum.filter fun p => q p.1).length =
      ((Finset.range l.length).filter fun i => q i = true).card := by
  have : (l.enum.filter fun p => q p.1).length = ((l.enum.map Prod.fst).filter q).length := by
    rw [List.filter_map, List.length_map]; rfl
  rw [this, List.enum_map_fst]
  simp [Finset.card, Multiset.range]

theorem length_sends (data : Data) (ft : Int → Nat → Bool) :
    (sends data ft).length = (data.map fun e => (e.2.enum.filter fun p => ft e.1 p.1).length).sum := by
  simp only [sends, List.length_flatMap, Function.comp_def, List.length_map]

/-- A loaded site holds out at most one sample per fold. -/
theorem Loaded.Fit.heldOut_le_one {f : Flags} {ld : Loaded} (h : ld.Fit f) {site : Int}
    {samples : List Sample} (hl : ld.data.lookup site = some samples) (fold : Nat) :
    (samples.enum.filter fun p => forTesting f ld.sampleCount fold site p.1).length ≤ 1 := by
  rw [length_filter_enum]
  refine Finset.card_le_one.2 fun a ha b hb => ?_
  simp only [Finset.mem_filter, Finset.mem_range, forTesting_iff f _ _ (h.site_nonneg _ _ hl)]
    at ha hb
  unfold heldOutFold at ha hb
  cases hu : unmonitored f site
  · simp only [hu, Bool.false_eq_true, if_false] at ha hb; omega
  · have := h.unmonitored_le_one site samples hl (by simpa [unmonitored] using hu); omega

/-- Over the folds, a loaded site holds out each of its samples once. -/
theorem Loaded.Fit.sum_heldOut {f : Flags} {ld : Loaded} (h : ld.Fit f) {site : Int}
    {samples : List Sample} (hl : ld.data.lookup site = some samples) :
    ∑ fold ∈ Finset.range ld.sampleCount,
      (samples.enum.filter fun p => forTesting f ld.sampleCount fold site p.1).length =
      samples.length := by
  have hsite := h.site_nonneg _ _ hl
  have hle := h.le_count _ _ hl
  simp only [length_filter_enum, Finset.card_filter]
  rw [Finset.sum_comm]
  calc ∑ i ∈ Finset.range samples.length, ∑ fold ∈ Finset.range ld.sampleCount,
        (if forTesting f ld.sampleCount fold site i = true then 1 else 0)
      = ∑ i ∈ Finset.range samples.length, 1 := Finset.sum_congr rfl fun i hi => by
        simp only [forTesting_iff f _ _ hsite, Finset.sum_ite_eq', Finset.mem_range]
        rw [if_pos (heldOutFold_lt f site (by simp at hi; omega))]
    _ = samples.length := by simp

/-- `Σ` over a `Finset` of a sum over a list is the sum over the list of the `Σ`. -/
theorem sum_list_sum {β : Type} (s : Finset Nat) (l : List β) (g : Nat → β → Nat) :
    ∑ x ∈ s, (l.map (g x)).sum = (l.map fun e => ∑ x ∈ s, g x e).sum := by
  induction l with
  | nil => simp
  | cons e l ih => simp only [List.map_cons, List.sum_cons, Finset.sum_add_distrib, ih]

/-- The entries of a loaded `data` are its lookups. -/
theorem lookup_of_mem_order {ld : Loaded} {data : Data}
    (hdata : data.Perm (ld.data.entries.map fun e => (e.1, e.2))) {e : Int × List Sample}
    (he : e ∈ data) : ld.data.lookup e.1 = some e.2 := by
  obtain ⟨e', he', rfl⟩ := List.mem_map.1 (hdata.subset he)
  exact AList.mem_lookup_iff.2 he'

theorem fold_fits (f : Flags) (files : List File) (ld : Loaded) (h : readData f files = .ok ld)
    (data : Data) (hdata : data.Perm (ld.data.entries.map fun e => (e.1, e.2))) (fold : Nat) :
    (sends data (forTesting f ld.sampleCount fold)).length ≤
      ld.data.entries.length * ld.sampleCount := by
  have hfit := (readData_holds f files ld h).fit
  have hle : (sends data (forTesting f ld.sampleCount fold)).length ≤ data.length := by
    rw [length_sends]
    calc _ ≤ (data.map fun _ => 1).sum :=
          List.sum_le_sum fun e he => hfit.heldOut_le_one (lookup_of_mem_order hdata he) fold
      _ = data.length := by simp
  rw [hdata.length_eq, List.length_map] at hle
  cases data with
  | nil => simp [sends]
  | cons e _ =>
    have hl := lookup_of_mem_order hdata (List.mem_cons_self e _)
    have hpos : 0 < e.2.length := List.length_pos.2 fun h0 => hfit.ne_nil e.1 (h0 ▸ hl)
    exact hle.trans (Nat.le_mul_of_pos_right _ (hpos.trans_le (hfit.le_count _ _ hl)))

/-- The entries of `demoLoaded`, in the order `AList` keeps them. -/
def demoData : Data := demoLoaded.data.entries.map fun e => (e.1, e.2)

theorem fold_fits_demo :
    readData demoFlags demoFiles = .ok demoLoaded ∧
    demoData.Perm (demoLoaded.data.entries.map fun e => (e.1, e.2)) ∧
    (sends demoData (forTesting demoFlags demoLoaded.sampleCount 0)).length ≤
      demoLoaded.data.entries.length * demoLoaded.sampleCount :=
  ⟨rfl, .refl _, fold_fits demoFlags demoFiles demoLoaded rfl demoData (.refl _) 0⟩

theorem fold_unique (f : Flags) (files : List File) (ld : Loaded) (h : readData f files = .ok ld)
    (site : Int) (samples : List Sample) (hl : ld.data.lookup site = some samples) (i : Nat)
    (hi : i < samples.length) :
    ∃! fold, fold < ld.sampleCount ∧ forTesting f ld.sampleCount fold site i = true := by
  have hfit := (readData_holds f files ld h).fit
  have hsite := hfit.site_nonneg _ _ hl
  have hle := hfit.le_count _ _ hl
  exact ⟨heldOutFold f ld.sampleCount site i,
    ⟨heldOutFold_lt f site (by omega), (forTesting_iff f _ _ hsite i).2 rfl⟩,
    fun fold hf => (forTesting_iff f _ _ hsite i).1 hf.2⟩

theorem fold_unique_demo :
    readData demoFlags demoFiles = .ok demoLoaded ∧
    demoLoaded.data.lookup 1 = some [⟨[⟨[97], 60, []⟩]⟩] ∧ 0 < [(⟨[⟨[97], 60, []⟩]⟩ : Sample)].length ∧
    ∃! fold, fold < demoLoaded.sampleCount ∧
      forTesting demoFlags demoLoaded.sampleCount fold 1 0 = true :=
  ⟨rfl, rfl, Nat.one_pos,
    fold_unique demoFlags demoFiles demoLoaded rfl 1 [⟨[⟨[97], 60, []⟩]⟩] rfl 0 Nat.one_pos⟩

theorem crossValidation_total (f : Flags) (files : List File) (ld : Loaded)
    (h : readData f files = .ok ld) (order trainOrder : Nat → Data)
    (horder : ∀ fold, (order fold).Perm (ld.data.entries.map fun e => (e.1, e.2)))
    (n : Nat) (pools : Nat → Pool)
    (hpools : ∀ fold < ld.sampleCount, Relation.ReflTransGen
        (PoolStep f.useCommon f.k
          (training f.useCommon (trainOrder fold) (forTesting f ld.sampleCount fold)
            (unmonitored f))
          (unmonitored f) (ld.data.entries.length * ld.sampleCount))
        (Pool.init (sends (order fold) (forTesting f ld.sampleCount fold)) n) (pools fold) ∧
      (pools fold).Done) :
    ∑ fold ∈ Finset.range ld.sampleCount, (pools fold).result.total =
      (ld.data.entries.map fun e => e.2.length).sum := by
  have hfit := (readData_holds f files ld h).fit
  calc ∑ fold ∈ Finset.range ld.sampleCount, (pools fold).result.total
      = ∑ fold ∈ Finset.range ld.sampleCount,
          ((ld.data.entries.map fun e => (e.1, e.2)).map fun e =>
            (e.2.enum.filter fun p => forTesting f ld.sampleCount fold e.1 p.1).length).sum :=
        Finset.sum_congr rfl fun fold hf => by
          obtain ⟨hrun, hdone⟩ := hpools fold (Finset.mem_range.1 hf)
          rw [(PoolInv.reachable _ _ _ _ _ hrun).result_total _ _ _ _ hdone, length_sends,
            ((horder fold).map _).sum_eq]
    _ = ((ld.data.entries.map fun e => (e.1, e.2)).map fun e =>
          ∑ fold ∈ Finset.range ld.sampleCount,
            (e.2.enum.filter fun p => forTesting f ld.sampleCount fold e.1 p.1).length).sum :=
        sum_list_sum _ _ _
    _ = (ld.data.entries.map fun e => e.2.length).sum := by
        rw [List.map_map]
        exact congrArg List.sum (List.map_congr_left fun e he =>
          hfit.sum_heldOut (AList.mem_lookup_iff.2 he))

/-- Every fold of `demoLoaded` run on one worker, each `classify` in the order of the map. -/
def demoPools (fold : Nat) : Pool :=
  ⟨[], [none], (sends demoData (forTesting demoFlags demoLoaded.sampleCount fold)).map fun w =>
    workResult demoFlags.useCommon demoFlags.k
      (training demoFlags.useCommon demoData (forTesting demoFlags demoLoaded.sampleCount fold)
        (unmonitored demoFlags)) (unmonitored demoFlags) w id⟩

theorem crossValidation_total_demo :
    readData demoFlags demoFiles = .ok demoLoaded ∧
    (∀ fold, ((fun _ : Nat => demoData) fold : Data).Perm
      (demoLoaded.data.entries.map fun e => (e.1, e.2))) ∧
    (∀ fold < demoLoaded.sampleCount, Relation.ReflTransGen
        (PoolStep demoFlags.useCommon demoFlags.k
          (training demoFlags.useCommon ((fun _ : Nat => demoData) fold)
            (forTesting demoFlags demoLoaded.sampleCount fold) (unmonitored demoFlags))
          (unmonitored demoFlags) (demoLoaded.data.entries.length * demoLoaded.sampleCount))
        (Pool.init (sends ((fun _ : Nat => demoData) fold)
          (forTesting demoFlags demoLoaded.sampleCount fold)) 1) (demoPools fold) ∧
      (demoPools fold).Done) ∧
    ∑ fold ∈ Finset.range demoLoaded.sampleCount, (demoPools fold).result.total =
      (demoLoaded.data.entries.map fun e => e.2.length).sum := by
  have hpools : ∀ fold < demoLoaded.sampleCount, Relation.ReflTransGen
        (PoolStep demoFlags.useCommon demoFlags.k
          (training demoFlags.useCommon ((fun _ : Nat => demoData) fold)
            (forTesting demoFlags demoLoaded.sampleCount fold) (unmonitored demoFlags))
          (unmonitored demoFlags) (demoLoaded.data.entries.length * demoLoaded.sampleCount))
        (Pool.init (sends ((fun _ : Nat => demoData) fold)
          (forTesting demoFlags demoLoaded.sampleCount fold)) 1) (demoPools fold) ∧
      (demoPools fold).Done := by
    intro fold hfold
    obtain rfl : fold = 0 := by simpa [demoLoaded] using hfold
    exact ⟨run_one_worker _ _ _ _ _ _ [] (by decide), rfl, fun x hx => by simpa [demoPools] using hx⟩
  exact ⟨rfl, fun _ => .refl _, hpools, crossValidation_total demoFlags demoFiles demoLoaded rfl
    (fun _ : Nat => demoData) (fun _ : Nat => demoData) (fun _ => .refl _) 1 demoPools hpools⟩

end Defector.Dns2site
