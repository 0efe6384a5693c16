import Mathlib.Tactic.Ring
import Mathlib.Data.List.Basic
import Mathlib.Data.List.Infix

/-!
# Decimal integers: `strconv.Itoa`, `%d` and `strconv.Atoi`

The work ids of the coordinator are `pages[i][0] + "-" + strconv.Itoa(s)`
(cmd/server/server.go:92), and the `.dns` files carry each TTL written with
`%d` (cmd/extractdns/extractdns.go:84) and read back with `strconv.Atoi`
(cmd/dns2site/helpers.go:44, cmd/dnsstats/dnsstats.go:94). Both directions
are modelled on one digit list, `decimal`, rendered as characters (`itoa`)
or as bytes (`formatInt`).

* `digitsValue_decimal`: the digits of `n` read back, left to right, as `n`.
* `itoa_injective`, `minus_not_mem_itoa`: `Itoa` on the loop's indices is
  injective and never contains `'-'`.
* `atoi_formatInt`: `Atoi` reads back what `%d` wrote, for every Go `int`.
-/
namespace Defector.Go

/-- Go strings as they are on disk and in packets: bytes. -/
abbrev Bytes := List UInt8

/-- The bytes of an ASCII string literal of the source. -/
def ascii (s : String) : Bytes := s.toList.map fun c => c.toNat.toUInt8

/-- `strings.Contains(s, substr)`. -/
def contains (s substr : Bytes) : Bool := decide (substr <:+: s)

/-- Decimal digits of `n`, most significant first; `0` is the one digit `0`.
mirrors strconv/itoa.go `formatBits` (base 10) -/
def decimal (n : Nat) : List Nat := loop (n + 1) n []
where
  /-- Peel off the last digit of `n` onto `ds` while `fuel` lasts. -/
  loop : Nat → Nat → List Nat → List Nat
    | 0, _, ds => ds
    | fuel + 1, n, ds => if n < 10 then n :: ds else loop fuel (n / 10) (n % 10 :: ds)

/-- The number a digit string denotes, read left to right as `Atoi` does. -/
def digitsValue (ds : List Nat) : Nat := ds.foldl (fun acc d => 10 * acc + d) 0

theorem foldl_value (a : Nat) (ds : List Nat) :
    ds.foldl (fun acc d => 10 * acc + d) a = a * 10 ^ ds.length + digitsValue ds := by
  induction ds generalizing a with
  | nil => simp [digitsValue]
  | cons d ds ih =>
    simp only [digitsValue, List.foldl_cons, List.length_cons] at ih ⊢
    rw [ih, ih (10 * 0 + d), pow_succ]
    ring

theorem digitsValue_cons (d : Nat) (ds : List Nat) :
    digitsValue (d :: ds) = d * 10 ^ ds.length + digitsValue ds := by
  rw [digitsValue, List.foldl_cons, Nat.mul_zero, Nat.zero_add]
  exact foldl_value d ds

theorem decimal_loop_value (fuel n : Nat) (ds : List Nat) (h : n < fuel) :
    digitsValue (decimal.loop fuel n ds) = n * 10 ^ ds.length + digitsValue ds := by
  induction fuel generalizing n ds with
  | zero => omega
  | succ fuel ih =>
    simp only [decimal.loop]
    split
    · exact digitsValue_cons n ds
    · rw [ih _ _ (by omega), digitsValue_cons, List.length_cons, pow_succ]
      calc n / 10 * (10 ^ ds.length * 10) + (n % 10 * 10 ^ ds.length + digitsValue ds)
          = (10 * (n / 10) + n % 10) * 10 ^ ds.length + digitsValue ds := by ring
        _ = n * 10 ^ ds.length + digitsValue ds := by rw [Nat.div_add_mod]

theorem decimal_loop_lt (fuel n : Nat) (ds : List Nat) (hds : ∀ d ∈ ds, d < 10) :
    ∀ d ∈ decimal.loop fuel n ds, d < 10 := by
  induction fuel generalizing n ds with
  | zero => exact hds
  | succ fuel ih =>
    simp only [decimal.loop]
    split
    · rintro d (_ | ⟨_, hd⟩)
      · omega
      · exact hds d hd
    · refine ih _ _ ?_
      rintro d (_ | ⟨_, hd⟩)
      · omega
      · exact hds d hd

theorem decimal_loop_ne_nil (fuel n : Nat) (ds : List Nat) (h : n < fuel) :
    decimal.loop fuel n ds ≠ [] := by
  induction fuel generalizing n ds with
  | zero => omega
  | succ fuel ih =>
    simp only [decimal.loop]
    split
    · simp
    · exact ih _ _ (by omega)

@[simp] theorem digitsValue_decimal (n : Nat) : digitsValue (decimal n) = n := by
  simpa [digitsValue] using decimal_loop_value (n + 1) n [] (by omega)

theorem decimal_lt_ten (n : Nat) : ∀ d ∈ decimal n, d < 10 :=
  decimal_loop_lt _ n [] (by simp)

theorem decimal_ne_nil (n : Nat) : decimal n ≠ [] :=
  decimal_loop_ne_nil _ n [] (by omega)

theorem decimal_injective : Function.Injective decimal := fun n m h => by
  rw [← digitsValue_decimal n, h, digitsValue_decimal]

/-! ## `strconv.Itoa` -/

/-- `strconv.Itoa(s)` for the loader's sample indices `s ≥ 0`. -/
def itoa (n : Nat) : String := ⟨(decimal n).map Nat.digitChar⟩

theorem digitChar_inj : ∀ a, a < 10 → ∀ b, b < 10 → Nat.digitChar a = Nat.digitChar b → a = b := by
  decide

theorem digitChar_ne_minus : ∀ d, d < 10 → Nat.digitChar d ≠ '-' := by
  decide

theorem map_digitChar_inj {ds es : List Nat} (hd : ∀ d ∈ ds, d < 10) (he : ∀ e ∈ es, e < 10)
    (h : ds.map Nat.digitChar = es.map Nat.digitChar) : ds = es := by
  induction ds generalizing es with
  | nil => simpa using h.symm
  | cons d ds ih =>
    cases es with
    | nil => simp at h
    | cons e es =>
      simp only [List.map_cons, List.cons.injEq] at h
      simp only [List.mem_cons, forall_eq_or_imp] at hd he
      exact congrArg₂ _ (digitChar_inj d hd.1 e he.1 h.1) (ih hd.2 he.2 h.2)

theorem itoa_injective : Function.Injective itoa := fun n m h => by
  have h' : (decimal n).map Nat.digitChar = (decimal m).map Nat.digitChar := congrArg String.data h
  exact decimal_injective (map_digitChar_inj (decimal_lt_ten n) (decimal_lt_ten m) h')

theorem minus_not_mem_itoa (n : Nat) : '-' ∉ (itoa n).data := by
  simp only [itoa, List.mem_map, not_exists, not_and]
  exact fun d hd => digitChar_ne_minus d (decimal_lt_ten n d hd)

theorem slash_not_mem_itoa (n : Nat) : '/' ∉ (itoa n).data := by
  have hdig : ∀ d, d < 10 → Nat.digitChar d ≠ '/' := by decide
  simp only [itoa, List.mem_map, not_exists, not_and]
  exact fun d hd => hdig d (decimal_lt_ten n d hd)

example : itoa 0 = "0" := by decide

/-! ## `%d` and `strconv.Atoi` on bytes -/

/-- The ASCII byte of a decimal digit. -/
def digitByte (d : Nat) : UInt8 := UInt8.ofNat (48 + d)

/-- `fmt`'s `%d` of an `int`: a `'-'` for negatives, then the digits of the magnitude.
mirrors fmt/format.go `fmtInteger` (base 10) -/
def formatInt : Int → Bytes
  | .ofNat m => (decimal m).map digitByte
  | .negSucc m => 45 :: (decimal (m + 1)).map digitByte

/-- The digit loop of `Atoi`: `ch -= '0'; if ch > 9 { error }; n = n*10 + int(ch)`. -/
def parseDigits : Bytes → Nat → Option Nat
  | [], acc => some acc
  | b :: bs, acc => if b - 48 > 9 then none else parseDigits bs (10 * acc + (b - 48).toNat)

/-- The optional sign `Atoi` strips: whether it was `'-'`, and the rest. -/
def splitSign : Bytes → Bool × Bytes
  | 45 :: rest => (true, rest)
  | 43 :: rest => (false, rest)
  | s => (false, s)

/-- `strconv.Atoi`: an optional sign and at least one decimal digit, in the range of a
64-bit `int`; anything else is a syntax or range error (`none`).
mirrors strconv/atoi.go `Atoi` (fast path) and `ParseInt` (slow path) -/
def atoi (s : Bytes) : Option Int :=
  match splitSign s with
  | (_, []) => none
  | (neg, body) => (parseDigits body 0).bind fun v =>
    let n : Int := if neg then -v else v
    if -9223372036854775808 ≤ n ∧ n ≤ 9223372036854775807 then some n else none

theorem digitByte_spec : ∀ d, d < 10 → ¬ (digitByte d - 48 > 9) ∧ (digitByte d - 48).toNat = d := by
  decide

theorem parseDigits_map (ds : List Nat) (hd : ∀ d ∈ ds, d < 10) (acc : Nat) :
    parseDigits (ds.map digitByte) acc = some (ds.foldl (fun acc d => 10 * acc + d) acc) := by
  induction ds generalizing acc with
  | nil => rfl
  | cons d ds ih =>
    simp only [List.mem_cons, forall_eq_or_imp] at hd
    obtain ⟨h1, h2⟩ := digitByte_spec d hd.1
    simp only [List.map_cons, parseDigits, h1, if_false, h2, List.foldl_cons]
    exact ih hd.2 _

theorem parseDigits_decimal (n : Nat) : parseDigits ((decimal n).map digitByte) 0 = some n := by
  rw [parseDigits_map _ (decimal_lt_ten n)]
  exact congrArg some (digitsValue_decimal n)

theorem decimal_map_digitByte (n : Nat) :
    ∃ d ds, (decimal n).map digitByte = digitByte d :: ds ∧ d < 10 := by
  obtain ⟨d, ds, h⟩ := List.exists_cons_of_ne_nil (decimal_ne_nil n)
  exact ⟨d, ds.map digitByte, by simp [h], decimal_lt_ten n d (by simp [h])⟩

theorem splitSign_digit (d : Nat) (hd : d < 10) (rest : Bytes) :
    splitSign (digitByte d :: rest) = (false, digitByte d :: rest) := by
  have : ∀ d, d < 10 → digitByte d ≠ 45 ∧ digitByte d ≠ 43 := by decide
  obtain ⟨h45, h43⟩ := this d hd
  unfold splitSign
  split <;> simp_all

theorem atoi_decimal (k : Nat) (hk : k ≤ 9223372036854775807) :
    atoi ((decimal k).map digitByte) = some (k : Int) := by
  obtain ⟨d, ds, hm, hd⟩ := decimal_map_digitByte k
  have hp := parseDigits_decimal k
  rw [hm] at hp ⊢
  simp only [atoi, splitSign_digit d hd, hp, Option.some_bind, Bool.false_eq_true, if_false]
  rw [if_pos ⟨by omega, by omega⟩]

theorem atoi_minus_decimal (k : Nat) (hk : k ≤ 9223372036854775808) :
    atoi (45 :: (decimal k).map digitByte) = some (-(k : Int)) := by
  obtain ⟨d, ds, hm, -⟩ := decimal_map_digitByte k
  have hp := parseDigits_decimal k
  rw [hm] at hp ⊢
  simp only [atoi, splitSign, hp, Option.some_bind, if_true]
  rw [if_pos ⟨by omega, by omega⟩]

/-- `Atoi` reads back what `%d` wrote, for every value of a 64-bit `int`. -/
theorem atoi_formatInt (n : Int) (h1 : -9223372036854775808 ≤ n) (h2 : n ≤ 9223372036854775807) :
    atoi (formatInt n) = some n := by
  cases n with
  | ofNat m =>
    rw [Int.ofNat_eq_coe] at h2
    exact atoi_decimal m (by omega)
  | negSucc m =>
    rw [Int.negSucc_eq] at h1
    exact atoi_minus_decimal (m + 1) (by omega)

/-- Without a `-` in the text, `Atoi` reads no negative number. -/
theorem atoi_nonneg {s : Bytes} {n : Int} (hs : 45 ∉ s) (h : atoi s = some n) : 0 ≤ n := by
  have hsign : (splitSign s).1 = false := by
    unfold splitSign; split <;> simp_all
  unfold atoi at h
  split at h
  · simp at h
  · rename_i neg body _ hsplit
    obtain rfl : neg = false := by rw [hsplit] at hsign; exact hsign
    obtain ⟨v, -, hv⟩ := Option.bind_eq_some.1 h
    simp only [Bool.false_eq_true, if_false, Option.ite_none_right_eq_some,
      Option.some.injEq] at hv
    omega

end Defector.Go
