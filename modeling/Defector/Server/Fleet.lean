import Mathlib.Data.Multiset.Nodup
import Mathlib.Tactic.Abel
import Defector.Server.Loader

/-!
# The coordinator and its workers: conservation of work

A worker process (the client loop, part_002:345-372) holds at most one
unit: the `work.Browse` it reports on its next call. It reports that unit
(its id and URL, with whatever payload it captured), or an empty id when it
holds none; it takes the reply as the unit it now holds; on an error it
keeps its unit and reports it again. A worker may crash, and its unit is
then abandoned: nothing in the coordinator notices.

`Step` interleaves the `Work` calls of any number of workers and their
crashes, from a state meeting the Target Loader's postcondition `Loaded`
(`Reachable`): the loader's loops build one for every parsed table and
every outcome of `os.Stat` (`createWork_loaded`). Every id in play, in the
ledger or held, is in the multiset `pool`.

* `work_moves`: one `Work` call takes out of the ledger and the caller's
  unit exactly what it adds to `done`.
* `step_pool`: a step removes from the pool exactly what it adds to `done`
  and to the abandoned units, and keeps ledger entries under their own ids.
* `fleet_conservation`: in every reachable state the ledger's entries are
  loader ids filed under themselves, no id is both in the ledger and held
  or held twice, and `done + |ledger| + held + abandoned` is the loader's
  `done0 + |ledger0|`.
-/
namespace Defector.Server

/-- The fleet: the coordinator, the unit each worker process holds, and the number of
units lost with crashed workers. -/
structure Fleet where
  coord : Coord
  held : List (Option Item)
  abandoned : Nat

/-- A previous result that reports exactly the unit held, or an empty id for none. -/
def Reports : Option Item → Browse → Prop
  | none, b => b.id = ""
  | some u, b => b.id = u.id ∧ b.url = u.url

/-- The unit a reply hands over: none for "no work" (part_002:358-363). -/
def holding (b : Browse) : Option Item := if b.id = "" then none else some ⟨b.id, b.url⟩

/-- What a worker holds after a call: the reply's unit, or its own unit again after an
error (part_002:353-357). -/
def receive : Outcome → Option Item → Option Item
  | .reply b, _ => holding b
  | _, h => h

/-- One step of the fleet: worker `i` calls `Work` reporting the unit it holds, or crashes
and abandons it. -/
inductive Step (cfg : Config) : Fleet → Fleet → Prop
  | work {f : Fleet} (i : Nat) (hld : Option Item) (hi : f.held[i]? = some hld) (w : String)
      (b : Browse) (ok : Bool) (k : Nat) (hr : Reports hld b) :
      Step cfg f { f with
        coord := (work cfg ok k f.coord ⟨w, some b⟩).1
        held := f.held.set i (receive (work cfg ok k f.coord ⟨w, some b⟩).2 hld) }
  | crash {f : Fleet} (i : Nat) (u : Item) (hi : f.held[i]? = some (some u)) :
      Step cfg f { f with held := f.held.set i none, abandoned := f.abandoned + 1 }

/-- The runs from the loader's state `c0`, with any number of idle workers. -/
inductive Reachable (cfg : Config) (c0 : Coord) : Fleet → Prop
  | init (n : Nat) : Reachable cfg c0 ⟨c0, List.replicate n none, 0⟩
  | step {f f' : Fleet} : Reachable cfg c0 f → Step cfg f f' → Reachable cfg c0 f'

/-! ## The pool of ids in play -/

/-- The ids of the units the workers hold. -/
def heldIds (held : List (Option Item)) : List String := held.filterMap (Option.map Item.id)

/-- The id one worker holds, as a multiset of at most one element. -/
def slotIds (h : Option Item) : Multiset String := ((h.map Item.id).toList : Multiset String)

/-- Every id in play: the ledger's keys and the held units' ids. -/
def pool (f : Fleet) : Multiset String :=
  (f.coord.work.keys : Multiset String) + (heldIds f.held : Multiset String)

theorem heldIds_cons (h : Option Item) (t : List (Option Item)) :
    (heldIds (h :: t) : Multiset String) = slotIds h + heldIds t := by
  cases h <;> simp [heldIds, slotIds]

theorem heldIds_set {held : List (Option Item)} {i : Nat} {x : Option Item} (y : Option Item)
    (hi : held[i]? = some x) :
    (heldIds (held.set i y) : Multiset String) + slotIds x = heldIds held + slotIds y := by
  induction held generalizing i with
  | nil => simp at hi
  | cons h t ih =>
    cases i with
    | zero =>
      simp only [List.getElem?_cons_zero, Option.some.injEq] at hi
      subst hi
      simp only [List.set_cons_zero, heldIds_cons]
      abel
    | succ i =>
      simp only [List.getElem?_cons_succ] at hi
      simp only [List.set_cons_succ, heldIds_cons, add_assoc, ih hi]

theorem heldIds_replicate (n : Nat) : heldIds (List.replicate n none) = [] := by
  simp [heldIds]

theorem keys_erase_mem {L : Ledger} {a : String} (h : a ∈ L) :
    (L.keys : Multiset String) = (L.erase a).keys + {a} := by
  rw [AList.keys_erase, Multiset.coe_eq_coe.2 (List.perm_cons_erase (AList.mem_keys.1 h))]
  simp [add_comm]

theorem keys_insert_fresh {L : Ledger} {a : String} {v : Item} (h : a ∉ L) :
    ((L.insert a v).keys : Multiset String) = L.keys + {a} := by
  rw [AList.keys_insert, List.erase_of_not_mem h]
  simp [add_comm]

section Moves

variable {cfg : Config} {ok : Bool} {b : Browse} {c c' : Coord}

/-- The intake moves the reported unit's id into the ledger (a retry), into `done` (a
stored result, the `X` of the statement), or leaves everything as it is. -/
theorem intake_pool {hld : Option Item} (hr : Reports hld b)
    (hfresh : ∀ u ∈ hld, u.id ∉ c.work ∧ u.id ≠ "") (h : intake cfg ok b c = .ok c') :
    ∃ X : Multiset String, (c.work.keys : Multiset String) + slotIds hld = c'.work.keys + X ∧
      c'.done = c.done + Multiset.card X := by
  rcases intake_ok h with ⟨h1, h2, h3⟩ | ⟨h1, -, h2, h3⟩ | ⟨h1, -, h2, h3⟩
  · cases hld with
    | none => exact ⟨0, by simp [h2, slotIds], by simp [h3]⟩
    | some u => exact absurd (hr.1 ▸ h1) (hfresh u rfl).2
  · cases hld with
    | none => exact absurd hr h1
    | some u =>
      obtain ⟨hu, -⟩ := hfresh u rfl
      refine ⟨{u.id}, ?_, by simp [h3]⟩
      rw [h2, hr.1, erase_absent hu]
      rfl
  · cases hld with
    | none => exact absurd hr h1
    | some u =>
      obtain ⟨hu, -⟩ := hfresh u rfl
      refine ⟨0, ?_, by simp [h3]⟩
      rw [h2, hr.1, keys_insert_fresh hu]
      simp [slotIds]

/-- The hand-out moves one id from the ledger to the caller, or none on "no work". -/
theorem assign_pool (cfg : Config) (k : Nat) (hk : IdKeyed c.work) (hne : "" ∉ c.work) :
    (c.work.keys : Multiset String) =
      (assign cfg k c).1.work.keys + slotIds (holding (assign cfg k c).2) ∧
    (assign cfg k c).1.done = c.done ∧ IdKeyed (assign cfg k c).1.work := by
  rcases assign_cases cfg k c with ⟨-, ha⟩ | ⟨id, it, hm, ha⟩ <;> rw [ha]
  · simp [holding, noWork, slotIds, hk]
  · have hid : it.id = id := hk _ hm
    have hmem : id ∈ c.work := AList.mem_keys.2 (List.mem_keys_of_mem hm)
    have hne' : it.id ≠ "" := fun h => hne (by rw [← h, hid]; exact hmem)
    refine ⟨?_, rfl, hk.erase id⟩
    simp only [holding, assignment, hne', if_false, slotIds, Option.map_some', Option.toList_some]
    rw [hid, keys_erase_mem hmem]
    rfl

end Moves

/-! ## The invariant -/

/-- What holds in every reachable state, for the loader's ids `ids` and total `total`. -/
structure Inv (ids : List String) (total : Nat) (f : Fleet) : Prop where
  keyed : IdKeyed f.coord.work
  known : ∀ id ∈ pool f, id ∈ ids
  nodup : (pool f).Nodup
  conserved : f.coord.done + Multiset.card (pool f) + f.abandoned = total

theorem Inv.fresh {ids : List String} {total : Nat} {f : Fleet} (hinv : Inv ids total f)
    (hne : "" ∉ ids) {i : Nat} {u : Item} (hi : f.held[i]? = some (some u)) :
    u.id ∉ f.coord.work ∧ u.id ≠ "" := by
  have hs : (heldIds f.held : Multiset String) = heldIds (f.held.set i none) + {u.id} := by
    simpa [slotIds] using (heldIds_set none hi).symm
  have hp : pool f = ((f.coord.work.keys : Multiset String) + {u.id}) +
      heldIds (f.held.set i none) := by
    rw [pool, hs]; abel
  have hnd := hinv.nodup
  rw [hp] at hnd
  refine ⟨fun hm => ?_, fun h => hne (h ▸ hinv.known u.id (by rw [hp]; simp))⟩
  have hd := (Multiset.nodup_add.1 (Multiset.nodup_of_le (Multiset.le_add_right _ _) hnd)).2.2
  exact Multiset.disjoint_left.1 hd (Multiset.mem_coe.2 (AList.mem_keys.1 hm))
    (Multiset.mem_singleton_self _)

/-- One `Work` call by a worker holding `hld`, on a ledger keyed by ids other than `""`:
the ids of the ledger and of the caller's unit lose exactly what `done` gains. -/
theorem work_moves {cfg : Config} {ok : Bool} {b : Browse} {c : Coord} {hld : Option Item}
    (hk : IdKeyed c.work) (hne : "" ∉ c.work) (hr : Reports hld b)
    (hfresh : ∀ u ∈ hld, u.id ∉ c.work ∧ u.id ≠ "") (w : String) (k : Nat) :
    ∃ X : Multiset String, (c.work.keys : Multiset String) + slotIds hld =
        (work cfg ok k c ⟨w, some b⟩).1.work.keys +
          slotIds (receive (work cfg ok k c ⟨w, some b⟩).2 hld) + X ∧
      (work cfg ok k c ⟨w, some b⟩).1.done = c.done + Multiset.card X ∧
      IdKeyed (work cfg ok k c ⟨w, some b⟩).1.work := by
  cases hint : intake cfg ok b (register w c) with
  | error e => exact ⟨0, by simp [work, hint, receive], by simp [work, hint], by simpa [work, hint]⟩
  | ok c2 =>
    obtain ⟨X, hX, hd⟩ := intake_pool hr (by simpa using hfresh) hint
    obtain ⟨hw, -⟩ := intake_ok_spec hint
    rw [register_work] at hw hX
    obtain ⟨hA, hAd, hAk⟩ := assign_pool cfg k (hw ▸ hk.intakeLedger cfg b)
      (hw ▸ empty_not_mem_intakeLedger hne cfg b)
    simp only [work, hint, receive]
    refine ⟨X, ?_, by rw [hAd, hd, register_done], hAk⟩
    rw [hX, hA]

/-- A step takes out of the pool exactly what it adds to `done` and to the abandoned units,
and keeps the ledger's entries under their own ids. -/
theorem step_pool {cfg : Config} {ids : List String} {total : Nat} {f f' : Fleet}
    (hinv : Inv ids total f) (hne : "" ∉ ids) (hs : Step cfg f f') :
    ∃ X : Multiset String, pool f = pool f' + X ∧
      f'.coord.done + f'.abandoned = f.coord.done + f.abandoned + Multiset.card X ∧
      IdKeyed f'.coord.work := by
  cases hs with
  | crash i u hi =>
    refine ⟨{u.id}, ?_, by simp only [Multiset.card_singleton]; omega, hinv.keyed⟩
    have hset := heldIds_set none hi
    simp only [slotIds, Option.map_some', Option.toList_some, Option.map_none',
      Option.toList_none, Multiset.coe_nil, add_zero] at hset
    simp only [pool, ← hset]
    abel
  | work i hld hi w b ok k hr =>
    have hne' : "" ∉ f.coord.work := fun hm => hne (hinv.known ""
      (Multiset.mem_add.2 (.inl (Multiset.mem_coe.2 (AList.mem_keys.2 hm)))))
    obtain ⟨X, hX, hd, hk⟩ := @work_moves cfg ok b f.coord hld hinv.keyed hne' hr
      (fun u hu => by cases hu; exact hinv.fresh hne hi) w k
    set r := work cfg ok k f.coord ⟨w, some b⟩
    refine ⟨X, ?_, by simp only [hd]; omega, hk⟩
    have hset := heldIds_set (receive r.2 hld) hi
    refine add_right_cancel (?_ : _ = _ + slotIds hld)
    calc pool f + slotIds hld
        = ((f.coord.work.keys : Multiset String) + slotIds hld) + heldIds f.held := by
          simp only [pool]; abel
      _ = r.1.work.keys + X + (heldIds f.held + slotIds (receive r.2 hld)) := by rw [hX]; abel
      _ = _ := by rw [← hset]; simp only [pool]; abel

theorem Inv.step {cfg : Config} {ids : List String} {total : Nat} {f f' : Fleet}
    (hinv : Inv ids total f) (hne : "" ∉ ids) (hs : Step cfg f f') : Inv ids total f' := by
  obtain ⟨X, hp, hd, hk⟩ := step_pool hinv hne hs
  have hle : pool f' ≤ pool f := hp ▸ Multiset.le_add_right _ _
  refine ⟨hk, fun id h => hinv.known id (Multiset.mem_of_le hle h),
    Multiset.nodup_of_le hle hinv.nodup, ?_⟩
  have := hinv.conserved
  rw [hp, Multiset.card_add] at this
  omega

theorem inv_init {ids : List String} {c0 : Coord} (h0 : IdKeyed c0.work)
    (hids : ∀ k ∈ c0.work.keys, k ∈ ids) (n : Nat) :
    Inv ids (c0.done + c0.work.entries.length) ⟨c0, List.replicate n none, 0⟩ := by
  have hp : pool ⟨c0, List.replicate n none, 0⟩ = (c0.work.keys : Multiset String) := by
    simp [pool, heldIds_replicate]
  refine ⟨h0, fun id h => hids id (by simpa [hp] using h), by simpa [hp] using c0.work.keys_nodup,
    by simp [hp, AList.keys, List.keys]⟩

theorem reachable_inv {cfg : Config} {idents : List String} {S : Nat} {c0 : Coord}
    (h0 : Loaded idents S c0.work) {f : Fleet} (hf : Reachable cfg c0 f) :
    Inv (loaderIds idents S) (c0.done + c0.work.entries.length) f := by
  induction hf with
  | init n => exact inv_init h0.keyed h0.known n
  | step _ hs ih => exact ih.step (empty_not_mem_loaderIds _ _) hs

/-- **Conservation of work.** In every state reachable from one meeting the loader's
postcondition by any interleaving of `Work` calls (each worker reporting the unit it
holds, failed stores included) and crashes: every ledger entry is a loader id filed under
itself; no id is both in the ledger and held, or held twice; and
`done + |ledger| + held + abandoned` equals the loader's `done0 + |ledger0|`. So `done`
never exceeds that total, and reaches it only with the ledger empty and no unit held or
abandoned. -/
theorem fleet_conservation (cfg : Config) (idents : List String) (c0 : Coord)
    (h0 : Loaded idents cfg.samples.toNat c0.work) (f : Fleet) (hf : Reachable cfg c0 f) :
    (∀ e ∈ f.coord.work.entries, e.2.id = e.1 ∧ e.1 ∈ loaderIds idents cfg.samples.toNat) ∧
    (∀ id ∈ heldIds f.held, id ∉ f.coord.work) ∧ (heldIds f.held).Nodup ∧
    f.coord.done + f.coord.work.entries.length + (heldIds f.held).length + f.abandoned =
      c0.done + c0.work.entries.length ∧
    f.coord.done ≤ c0.done + c0.work.entries.length ∧
    (f.coord.done = c0.done + c0.work.entries.length →
      f.coord.work.entries = [] ∧ heldIds f.held = [] ∧ f.abandoned = 0) := by
  have hinv := reachable_inv h0 hf
  obtain ⟨hkn, hhn, hdisj⟩ := Multiset.nodup_add.1 hinv.nodup
  have hcons := hinv.conserved
  simp only [pool, Multiset.card_add, Multiset.coe_card, AList.keys, List.keys,
    List.length_map] at hcons
  refine ⟨fun e he => ⟨hinv.keyed e he, hinv.known _ (Multiset.mem_add.2 (.inl ?_))⟩,
    fun id h hm => Multiset.disjoint_left.1 hdisj (Multiset.mem_coe.2 (AList.mem_keys.1 hm))
      (Multiset.mem_coe.2 h), Multiset.coe_nodup.1 hhn, by omega, by omega, fun h => ?_⟩
  · exact Multiset.mem_coe.2 (List.mem_keys_of_mem he)
  · refine ⟨List.length_eq_zero.1 (by omega), List.length_eq_zero.1 (by omega), by omega⟩

/-- The fleet once its one worker has taken `a-0` from `demoCoord` and reported a 25-byte
capture of it: `a-0` stored and counted, nothing left. -/
def demoFleet : Fleet :=
  ⟨⟨∅, (∅ : AList fun _ : String => String).insert "w1" "w1", 1, capturedA⟩, [none], 0⟩

theorem fleet_conservation_witness :
    Loaded (demoRows.map Row.ident) ({} : Config).samples.toNat demoCoord.work ∧
    Reachable {} demoCoord demoFleet ∧
    ((∀ e ∈ demoFleet.coord.work.entries, e.2.id = e.1 ∧
      e.1 ∈ loaderIds (demoRows.map Row.ident) ({} : Config).samples.toNat) ∧
    (∀ id ∈ heldIds demoFleet.held, id ∉ demoFleet.coord.work) ∧ (heldIds demoFleet.held).Nodup ∧
    demoFleet.coord.done + demoFleet.coord.work.entries.length + (heldIds demoFleet.held).length +
      demoFleet.abandoned = demoCoord.done + demoCoord.work.entries.length ∧
    demoFleet.coord.done ≤ demoCoord.done + demoCoord.work.entries.length ∧
    (demoFleet.coord.done = demoCoord.done + demoCoord.work.entries.length →
      demoFleet.coord.work.entries = [] ∧ heldIds demoFleet.held = [] ∧ demoFleet.abandoned = 0)) := by
  have h0 : Loaded (demoRows.map Row.ident) ({} : Config).samples.toNat demoCoord.work :=
    @load_loaded _ ∅ _ _ rfl
  have hf : Reachable {} demoCoord demoFleet :=
    .step (.step (.init 1) (.work 0 none (by rfl) "w1" {} true 0 rfl))
      (.work 0 (some ⟨"a-0", "http://a.com"⟩) (by rfl) "w1" (demoReport 25) true 0 ⟨rfl, rfl⟩)
  exact ⟨h0, hf, fleet_conservation {} _ demoCoord h0 demoFleet hf⟩

end Defector.Server
