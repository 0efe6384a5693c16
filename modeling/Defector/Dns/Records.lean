import Mathlib.Data.List.Basic
import Defector.Dns.Extract

/-!
# What `extractDomains` records for each name

`extractDomains` (cmd/extractdns/extractdns.go:106-150) keeps one record
per name met in a question or an answer, and updates the record of an
answer's name as the answers arrive. This module states what the records
are once the whole capture has been read, without the loop:

* `firstBy eq l`: the elements of `l` that are not `eq` to an earlier one,
  in order.
* `recordFor fold answers name`: the record of `name` given every answer of the
  capture: its first nonzero TTL, or 0, and the IPs of its answers, each
  once up to case, in first-seen order.

A capture is the stream of its `Event`s, the questions of a message before
its answers. The loop keeps, after every prefix of the stream, the record
`recordFor` gives for each first-seen name of that prefix
(`foldl_applyEvent`), so:

* `extractDomains_spec`: the records' names are pairwise distinct up to
  case, every question and answer name has one, the names are the
  first-seen spellings in order, and each record has the IPs and the TTL
  `recordFor` gives.
-/
namespace Defector.Dns
open Defector.Go

/-! ## First representatives -/

/-- The elements of `l` that are not `eq` to an earlier element, in order. -/
def firstBy {α : Type} (eq : α → α → Bool) (l : List α) : List α :=
  (l.enum.filter fun p => !(l.take p.1).any (eq · p.2)).map Prod.snd

section FirstBy

variable {α : Type} (eq : α → α → Bool)

@[simp]
theorem firstBy_nil : firstBy eq [] = [] := rfl

/-- An element appended is kept exactly when no element before it is `eq` to it. -/
theorem firstBy_concat (l : List α) (x : α) :
    firstBy eq (l ++ [x]) = firstBy eq l ++ if l.any (eq · x) then [] else [x] := by
  rw [firstBy, firstBy, List.enum_append, List.filter_append, List.map_append,
    List.enumFrom_singleton]
  congr 1
  · congr 1
    refine List.filter_congr fun p hp => ?_
    rw [List.take_append_of_le_length (List.fst_lt_of_mem_enum hp).le]
  · by_cases h : l.any (eq · x) <;> simp [h, List.take_left']

theorem firstBy_sublist (l : List α) : (firstBy eq l).Sublist l := by
  simpa [firstBy] using ((List.filter_sublist l.enum).map Prod.snd)

/-- No kept element is `eq` to a later kept one. -/
theorem pairwise_firstBy (l : List α) : (firstBy eq l).Pairwise fun x y => eq x y = false := by
  induction l using List.reverseRecOn with
  | nil => simp
  | append_singleton l x ih =>
    rw [firstBy_concat]
    by_cases h : l.any (eq · x)
    · simpa [h] using ih
    · rw [if_neg h, List.pairwise_append]
      simp only [Bool.not_eq_true, List.any_eq_false] at h
      refine ⟨ih, List.pairwise_singleton _ _, fun y hy z hz => ?_⟩
      rw [List.mem_singleton.1 hz]
      simpa using h y ((firstBy_sublist eq l).subset hy)

/-- For a transitive `eq`, the kept elements are `eq` to whatever some element is. -/
theorem any_firstBy (htrans : ∀ a b c, eq a b → eq b c → eq a c) (l : List α) (x : α) :
    (firstBy eq l).any (eq · x) = l.any (eq · x) := by
  induction l using List.reverseRecOn with
  | nil => rfl
  | append_singleton l y ih =>
    rw [firstBy_concat]
    by_cases h : l.any (eq · y)
    · simp only [h, if_true, List.append_nil, ih, List.any_append, List.any_cons, List.any_nil,
        Bool.or_false]
      obtain ⟨z, hz, hzy⟩ := List.any_eq_true.1 h
      cases hyx : eq y x
      · simp
      · simpa using ⟨z, hz, htrans z y x hzy hyx⟩
    · simp [h, ih]

end FirstBy

section Records

variable {fold : Fold}

/-- `exists` on the kept IPs looks at all of them. -/
theorem ipExists_firstBy (ips : List Bytes) (ip : Bytes) :
    ipExists fold ip (firstBy fold.eq ips) = ips.any (fold.eq · ip) := by
  rw [ipExists, ← any_firstBy fold.eq (fun _ _ _ => fold.trans)]
  simp only [fold.comm ip]

/-! ## The record of a name -/

/-- The record of `name` once `answers` are read: the first nonzero TTL of an answer for it,
or 0, and the IPs of its answers, each once up to case, in first-seen order. -/
def recordFor (fold : Fold) (answers : List Answer) (name : Bytes) : Domain where
  domain := name
  ttl := ((answers.find? fun a => fold.eq a.name name && a.ttl != 0).map
    fun a => (a.ttl.toNat : Int)).getD 0
  ips := firstBy fold.eq (answers.filterMap fun a => if fold.eq a.name name then a.ip else none)

/-- What an answer does to a record, field by field. -/
theorem answered_eq (d : Domain) (a : Answer) :
    d.answered fold a = ⟨d.domain, if d.ttl = 0 then a.ttl.toNat else d.ttl,
      match a.ip with
      | some ip => if ipExists fold ip d.ips then d.ips else d.ips ++ [ip]
      | none => d.ips⟩ := by
  obtain ⟨domain, ttl, ips⟩ := d
  unfold Domain.answered
  by_cases ht : ttl = 0 <;> cases a.ip <;> simp only [ht, if_true, if_false] <;> split <;> rfl

/-- A name no answer is for has TTL 0 and no IP. -/
theorem recordFor_fresh {answers : List Answer} {name : Bytes}
    (h : ∀ a ∈ answers, fold.eq a.name name = false) :
    recordFor fold answers name = { domain := name, ttl := 0, ips := [] } := by
  have hfind : answers.find? (fun a => fold.eq a.name name && a.ttl != 0) = none :=
    List.find?_eq_none.2 fun a ha => by simp [h a ha]
  have hips : answers.filterMap (fun a => if fold.eq a.name name then a.ip else none) = [] :=
    List.filterMap_eq_nil_iff.2 fun a ha => by simp [h a ha]
  simp [recordFor, hfind, hips]

/-- An answer for another name leaves the record alone. -/
theorem recordFor_concat_ne {answers : List Answer} {a : Answer} {name : Bytes}
    (h : fold.eq a.name name = false) :
    recordFor fold (answers ++ [a]) name = recordFor fold answers name := by
  simp [recordFor, h]

/-- An answer for the name is what `answered` does to the record. -/
theorem recordFor_concat_eq {answers : List Answer} {a : Answer} {name : Bytes}
    (h : fold.eq a.name name = true) :
    recordFor fold (answers ++ [a]) name = (recordFor fold answers name).answered fold a := by
  rw [answered_eq]
  simp only [recordFor, List.find?_append, List.filterMap_append, List.find?_cons, List.find?_nil,
    List.filterMap_cons, List.filterMap_nil, h, Bool.true_and, if_true, Domain.mk.injEq, true_and]
  constructor
  · cases hf : answers.find? (fun a => fold.eq a.name name && a.ttl != 0) with
    | none => cases hz : a.ttl != 0 <;> simp_all
    | some b =>
      have hb : b.ttl ≠ 0 := by
        have := List.find?_some hf
        simp only [Bool.and_eq_true, bne_iff_ne] at this
        exact this.2
      have hb' : b.ttl.toNat ≠ 0 := fun h0 => hb (UInt32.toNat.inj h0)
      simp [hb']
  · cases a.ip with
    | none => simp
    | some ip =>
      dsimp only
      rw [ipExists_firstBy, firstBy_concat]
      by_cases hx : (answers.filterMap fun a => if fold.eq a.name name then a.ip else none).any
        (fold.eq · ip) <;> simp [hx]

/-! ## The records of a stream -/

/-- A question name or an answer, as `extractDomains` meets them. -/
inductive Event where
  | question (name : Bytes)
  | answer (a : Answer)
  deriving DecidableEq, Repr

/-- The name an event is about. -/
def Event.name : Event → Bytes
  | .question name => name
  | .answer a => a.name

/-- The answer an event carries. -/
def Event.answer? : Event → Option Answer
  | .question _ => none
  | .answer a => some a

/-- What the loop does with one event (extractdns.go:117-145). -/
def applyEvent (fold : Fold) (domains : List Domain) : Event → List Domain
  | .question name => addQuestion fold domains name
  | .answer a => addAnswer fold domains a

/-- The events of a capture: each message's questions, then its answers. -/
def events (msgs : List Msg) : List Event :=
  msgs.flatMap fun m => m.questions.map .question ++ m.answers.map .answer

/-- Every question and answer name of a capture, in order. -/
def names (msgs : List Msg) : List Bytes :=
  msgs.flatMap fun m => m.questions ++ m.answers.map (·.name)

/-- Every answer of a capture, in order. -/
def answers (msgs : List Msg) : List Answer := msgs.flatMap (·.answers)

theorem extractDomains_eq_foldl (msgs : List Msg) :
    extractDomains fold msgs = (events msgs).foldl (applyEvent fold) [] := by
  suffices ∀ ds, msgs.foldl (fun ds m => m.answers.foldl (addAnswer fold)
      (m.questions.foldl (addQuestion fold) ds))
      ds = (events msgs).foldl (applyEvent fold) ds from this []
  induction msgs with
  | nil => intro ds; rfl
  | cons m msgs ih =>
    intro ds
    simp only [List.foldl_cons, events, List.flatMap_cons, List.foldl_append, List.foldl_map]
    exact ih _

theorem names_eq_map (msgs : List Msg) : names msgs = (events msgs).map Event.name := by
  induction msgs with
  | nil => rfl
  | cons m msgs ih =>
    simp only [names, events, List.flatMap_cons, List.map_append, List.map_map] at ih ⊢
    simp [ih, Function.comp_def, Event.name]

theorem answers_eq_filterMap (msgs : List Msg) :
    answers msgs = (events msgs).filterMap Event.answer? := by
  induction msgs with
  | nil => rfl
  | cons m msgs ih =>
    simp only [answers, events, List.flatMap_cons, List.filterMap_append, List.filterMap_map] at ih ⊢
    simp [ih, Function.comp_def, Event.answer?]

/-! ## One event at a time -/

theorem getIndex_map_recordFor (answers : List Answer) (ns : List Bytes) (name : Bytes) :
    getIndex fold name (ns.map (recordFor fold answers)) = ns.findIdx? (fold.eq · name) := by
  rw [getIndex, List.findIdx?_map]
  rfl

/-- `getIndex` finds the record of a name exactly when the name was met before. -/
theorem getIndex_isSome (answers : List Answer) (ns : List Bytes) (name : Bytes) :
    (getIndex fold name ((firstBy fold.eq ns).map (recordFor fold answers))).isSome =
      ns.any (fold.eq · name) := by
  rw [getIndex_map_recordFor, List.findIdx?_isSome,
    any_firstBy fold.eq fun _ _ _ => fold.trans]

/-- Among names pairwise distinct up to case, the answer updates the one record `getIndex`
finds, and that is the record `recordFor` gives with the answer added. -/
theorem modify_answered (answers : List Answer) (a : Answer) :
    ∀ (ns : List Bytes) (i : Nat), ns.Pairwise (fun x y => fold.eq x y = false) →
      ns.findIdx? (fold.eq · a.name) = some i →
      (ns.map (recordFor fold answers)).modify (·.answered fold a) i =
        ns.map (recordFor fold (answers ++ [a]))
  | [], _, _, h => by simp at h
  | m :: ns, i, hp, h => by
    obtain ⟨hm, hp⟩ := List.pairwise_cons.1 hp
    rw [List.findIdx?_cons] at h
    by_cases hma : fold.eq m a.name
    · rw [if_pos hma, Option.some.injEq] at h
      subst h
      rw [List.map_cons, List.map_cons, List.modify_zero_cons,
        recordFor_concat_eq ((fold.comm _ _).trans hma)]
      refine congrArg _ (List.map_congr_left fun m' hm' => (recordFor_concat_ne ?_).symm)
      cases h' : fold.eq a.name m'
      · rfl
      · have := hm m' hm'
        rw [fold.trans hma h'] at this
        cases this
    · rw [if_neg hma, List.findIdx?_succ] at h
      obtain ⟨j, hj, rfl⟩ := Option.map_eq_some'.1 h
      rw [List.map_cons, List.map_cons, List.modify_succ_cons, modify_answered answers a ns j hp hj,
        recordFor_concat_ne (by rw [fold.comm]; simpa using hma)]

/-- Every answer read so far is for a name met so far. -/
def AnswersNamed (ns : List Bytes) (answers : List Answer) : Prop := ∀ a ∈ answers, a.name ∈ ns

theorem addQuestion_records {ns : List Bytes} {answers : List Answer}
    (h : AnswersNamed ns answers) (name : Bytes) :
    addQuestion fold ((firstBy fold.eq ns).map (recordFor fold answers)) name =
      (firstBy fold.eq (ns ++ [name])).map (recordFor fold answers) := by
  have hidx := @getIndex_isSome fold answers ns name
  rw [addQuestion, firstBy_concat]
  cases hi : getIndex fold name ((firstBy fold.eq ns).map (recordFor fold answers)) with
  | some i =>
    rw [hi, Option.isSome_some] at hidx
    simp [← hidx]
  | none =>
    rw [hi, Option.isSome_none] at hidx
    have hne := List.any_eq_false.1 hidx.symm
    simp only [← hidx, Bool.false_eq_true, if_false, List.map_append, List.map_singleton,
      recordFor_fresh fun a ha => by simpa using hne a.name (h a ha)]

theorem addAnswer_records {ns : List Bytes} {answers : List Answer}
    (h : AnswersNamed ns answers) (a : Answer) :
    addAnswer fold ((firstBy fold.eq ns).map (recordFor fold answers)) a =
      (firstBy fold.eq (ns ++ [a.name])).map (recordFor fold (answers ++ [a])) := by
  have hidx := @getIndex_isSome fold answers ns a.name
  rw [addAnswer, firstBy_concat]
  cases hi : getIndex fold a.name ((firstBy fold.eq ns).map (recordFor fold answers)) with
  | some i =>
    rw [hi, Option.isSome_some] at hidx
    simp only [← hidx, if_true, List.append_nil]
    rw [getIndex_map_recordFor] at hi
    exact modify_answered answers a _ i (pairwise_firstBy _ _) hi
  | none =>
    rw [hi, Option.isSome_none] at hidx
    have hne := List.any_eq_false.1 hidx.symm
    have hfresh : ∀ b ∈ answers, fold.eq b.name a.name = false := fun b hb => by
      simpa using hne b.name (h b hb)
    simp only [← hidx, Bool.false_eq_true, if_false, List.map_append, List.map_singleton,
      recordFor_concat_eq (fold.refl _), recordFor_fresh hfresh]
    congr 1
    · refine List.map_congr_left fun m hm => (recordFor_concat_ne ?_).symm
      rw [fold.comm]
      simpa using hne m ((firstBy_sublist _ _).subset hm)
    · simp [answered_eq]

theorem AnswersNamed.question {ns : List Bytes} {answers : List Answer}
    (h : AnswersNamed ns answers) (name : Bytes) : AnswersNamed (ns ++ [name]) answers :=
  fun a ha => List.mem_append_left _ (h a ha)

theorem AnswersNamed.answer {ns : List Bytes} {answers : List Answer}
    (h : AnswersNamed ns answers) (a : Answer) : AnswersNamed (ns ++ [a.name]) (answers ++ [a]) := by
  intro b hb
  rcases List.mem_append.1 hb with hb | hb
  · exact List.mem_append_left _ (h b hb)
  · rw [List.mem_singleton.1 hb]; exact List.mem_append_right _ (List.mem_singleton_self _)

/-- After every prefix of the stream, the loop holds the record `recordFor` gives for each
first-seen name, and every answer is for a name met. -/
theorem foldl_applyEvent (es : List Event) :
    es.foldl (applyEvent fold) [] =
        (firstBy fold.eq (es.map Event.name)).map (recordFor fold (es.filterMap Event.answer?)) ∧
      AnswersNamed (es.map Event.name) (es.filterMap Event.answer?) := by
  induction es using List.reverseRecOn with
  | nil => exact ⟨rfl, fun _ h => by simp at h⟩
  | append_singleton es e ih =>
    obtain ⟨hrec, hnamed⟩ := ih
    rw [List.foldl_append, List.foldl_cons, List.foldl_nil, hrec, List.map_append,
      List.filterMap_append]
    cases e with
    | question name =>
      simp only [applyEvent, List.map_singleton, Event.name, List.filterMap_cons, Event.answer?,
        List.filterMap_nil, List.append_nil]
      exact ⟨addQuestion_records hnamed name, hnamed.question name⟩
    | answer a =>
      simp only [applyEvent, List.map_singleton, Event.name, List.filterMap_cons, Event.answer?,
        List.filterMap_nil]
      exact ⟨addAnswer_records hnamed a, hnamed.answer a⟩

/-- `extractDomains` holds the record `recordFor` gives for each first-seen name. -/
theorem extractDomains_records (msgs : List Msg) :
    extractDomains fold msgs = (firstBy fold.eq (names msgs)).map (recordFor fold (answers msgs)) := by
  rw [extractDomains_eq_foldl, names_eq_map, answers_eq_filterMap]
  exact (foldl_applyEvent _).1

theorem extractDomains_spec (fold : Fold) (msgs : List Msg) :
    (extractDomains fold msgs).Pairwise (fun d e => fold.eq d.domain e.domain = false) ∧
    (∀ name ∈ names msgs, ∃ d ∈ extractDomains fold msgs, fold.eq d.domain name) ∧
    (extractDomains fold msgs).map (·.domain) = firstBy fold.eq (names msgs) ∧
    ∀ d ∈ extractDomains fold msgs,
      d.ips = firstBy fold.eq ((answers msgs).filterMap fun a =>
        if fold.eq a.name d.domain then a.ip else none) ∧
      d.ttl = (((answers msgs).find? fun a => fold.eq a.name d.domain && a.ttl != 0).map
        fun a => (a.ttl.toNat : Int)).getD 0 := by
  rw [extractDomains_records]
  refine ⟨List.pairwise_map.2 (pairwise_firstBy _ _), fun name hn => ?_, ?_, ?_⟩
  · have hany : (firstBy fold.eq (names msgs)).any (fold.eq · name) := by
      rw [any_firstBy fold.eq fun _ _ _ => fold.trans]
      exact List.any_eq_true.2 ⟨name, hn, fold.refl name⟩
    obtain ⟨m, hm, hmn⟩ := List.any_eq_true.1 hany
    exact ⟨_, List.mem_map_of_mem _ hm, hmn⟩
  · simp [List.map_map, Function.comp_def, recordFor]
  · simp only [List.mem_map]
    rintro _ ⟨m, -, rfl⟩
    exact ⟨rfl, rfl⟩

/-- Two answers for `a` in two spellings, then a question for `B`: one record for `a`, with
the first nonzero TTL and the IP once. -/
example : extractDomains Fold.ascii [⟨[], [⟨[97], 0, some [49]⟩, ⟨[65], 7, some [49]⟩]⟩, ⟨[[66]], []⟩] =
    [⟨[97], 7, [[49]]⟩, ⟨[66], 0, []⟩] := by decide

end Records

end Defector.Dns
