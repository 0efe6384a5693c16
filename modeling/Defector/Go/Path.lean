import Mathlib.Data.List.Basic

/-!
# Slash-separated paths: `path.Clean` and `path.Join`

`outputFileName` (cmd/server/server.go:219-221) names the file of a work id
`path.Join(*datadir, path.Clean(id)+*outputSuffix)`. Go's `path.Clean`
(path/path.go) scans the path once with a write cursor; its documentation
states the result as four rules, which is what is modelled here, element by
element:

1. runs of slashes are one separator,
2. `.` elements are dropped,
3. a `..` element drops the element before it, unless that is itself a
   leading `..`,
4. a `..` at the start of a rooted path is dropped.

The empty result is `"."`. `path.Join` of two elements joins the non-empty
ones with `/` and cleans the result.
-/
namespace Defector.Go

/-- The elements of a path, `/`-separated, empty ones included. -/
def elems (p : String) : List (List Char) := p.data.splitOn '/'

/-- One element of `Clean`'s scan, on the elements kept so far (last first).
`rooted` is whether the path starts with `/`. -/
def cleanStep (rooted : Bool) (kept : List (List Char)) (e : List Char) : List (List Char) :=
  if e = [] ∨ e = ['.'] then kept
  else if e = ['.', '.'] then
    match kept with
    | k :: rest => if k = ['.', '.'] then e :: kept else rest
    | [] => if rooted then [] else [e]
  else e :: kept

/-- `path.Clean`.
mirrors path/path.go `Clean` -/
def clean (p : String) : String :=
  if p = "" then "." else
  let rooted := p.data.head? = some '/'
  let kept := ((elems p).foldl (cleanStep rooted) []).reverse
  let body : List Char := ['/'].intercalate kept
  let out : List Char := if rooted then '/' :: body else body
  if out = [] then "." else ⟨out⟩

/-- `path.Join(a, b)`: the non-empty elements joined by `/`, then cleaned; `""` if both
are empty.
mirrors path/path.go `Join` -/
def join (a b : String) : String :=
  if a = "" then (if b = "" then "" else clean b)
  else if b = "" then clean a
  else clean (a ++ "/" ++ b)

example : clean "a//b/./c/.." = "a/b" := by decide
example : clean "/../x" = "/x" := by decide
example : clean "../../x" = "../../x" := by decide

/-! ## Plain elements

An element with no `/` that is not empty, `.` or `..` is pushed by `Clean`'s scan as it
is, so cleaning `dir/x` gives a prefix fixed by `dir`, then `x`. -/

/-- A path element `Clean` keeps as it is. -/
structure PlainElem (e : List Char) : Prop where
  no_slash : '/' ∉ e
  ne_nil : e ≠ []
  ne_dot : e ≠ ['.']
  ne_dotdot : e ≠ ['.', '.']

theorem cleanStep_plain {e : List Char} (h : PlainElem e) (rooted : Bool)
    (kept : List (List Char)) : cleanStep rooted kept e = e :: kept := by
  simp [cleanStep, h.ne_nil, h.ne_dot, h.ne_dotdot]

/-- Splitting at a separator splits each side. -/
theorem splitOnP_append_sep {α : Type} {p : α → Bool} {sep : α} (hsep : p sep) :
    ∀ xs ys : List α, (xs ++ sep :: ys).splitOnP p = xs.splitOnP p ++ ys.splitOnP p
  | [], ys => by simp [hsep]
  | x :: xs, ys => by
    rw [List.cons_append, List.splitOnP_cons, List.splitOnP_cons, splitOnP_append_sep hsep xs ys]
    split
    · rfl
    · obtain ⟨h, t, ht⟩ := List.exists_cons_of_ne_nil (List.splitOnP_ne_nil p xs)
      rw [ht]
      rfl

theorem elems_of_no_slash {x : String} (h : '/' ∉ x.data) : elems x = [x.data] :=
  List.splitOnP_eq_single _ _ fun c hc hs => h (by rwa [← eq_of_beq hs])

theorem elems_append_slash (d : String) {x : String} (h : '/' ∉ x.data) :
    elems (d ++ "/" ++ x) = elems d ++ [x.data] := by
  have hdata : (d ++ "/" ++ x).data = d.data ++ '/' :: x.data := by simp
  rw [elems, hdata, List.splitOn, splitOnP_append_sep (by simp)]
  exact congrArg (elems d ++ ·) (elems_of_no_slash h)

theorem intercalate_concat {α : Type} (sep : List α) :
    ∀ (l : List (List α)) (x : List α), l ≠ [] →
      sep.intercalate (l ++ [x]) = sep.intercalate l ++ sep ++ x
  | [a], x, _ => by simp [List.intercalate]
  | a :: b :: l, x, _ => by
    have ih := intercalate_concat sep (b :: l) x (List.cons_ne_nil _ _)
    simp only [List.cons_append, List.intercalate, List.intersperse_cons₂, List.flatten_cons] at ih ⊢
    rw [ih]
    simp only [List.append_assoc]

theorem clean_plain {x : String} (h : PlainElem x.data) : clean x = x := by
  have hx : x ≠ "" := fun hx => h.ne_nil (by rw [hx])
  have hroot : (x.data.head? = some '/') = False :=
    eq_false fun hh => h.no_slash (List.mem_of_mem_head? hh)
  simp only [clean, hx, if_false, elems_of_no_slash h.no_slash, hroot, List.foldl_cons,
    List.foldl_nil, cleanStep_plain h, List.reverse_singleton, List.intercalate, List.intersperse_single,
    List.flatten_cons, List.flatten_nil, List.append_nil, h.ne_nil, decide_False, Bool.false_eq_true,
    if_false]

/-- Cleaning `dir/x` for a plain `x` gives a prefix that depends on `dir` only, then `x`. -/
theorem clean_append_plain (d : String) (hd : d ≠ "") :
    ∃ pre : List Char, ∀ x : String, PlainElem x.data → clean (d ++ "/" ++ x) = ⟨pre ++ x.data⟩ := by
  have hne : d.data ≠ [] := fun h => hd (String.ext h)
  obtain ⟨c, cs, hc⟩ := List.exists_cons_of_ne_nil hne
  refine ⟨(if d.data.head? = some '/' then ['/'] else []) ++
    (if (elems d).foldl (cleanStep (d.data.head? = some '/')) [] = [] then []
      else ['/'].intercalate ((elems d).foldl (cleanStep (d.data.head? = some '/')) []).reverse ++
        ['/']), fun x hx => ?_⟩
  have hnz : d ++ "/" ++ x ≠ "" := fun h => by simpa [hc] using congrArg String.data h
  have hhead : (d ++ "/" ++ x).data.head? = d.data.head? := by simp [hc]
  simp only [clean, hnz, if_false, elems_append_slash d hx.no_slash, List.foldl_append, hhead,
    List.foldl_cons, List.foldl_nil, cleanStep_plain hx, List.reverse_cons]
  generalize (elems d).foldl (cleanStep (d.data.head? = some '/')) [] = kept
  have hbody : ['/'].intercalate (kept.reverse ++ [x.data]) =
      (if kept = [] then [] else ['/'].intercalate kept.reverse ++ ['/']) ++ x.data := by
    by_cases hk : kept = []
    · simp [hk, List.intercalate]
    · rw [if_neg hk, intercalate_concat _ _ _ (by simpa using hk)]
  rw [hbody]
  have := hx.ne_nil
  split_ifs <;> simp_all
/-- Joining a plain element to `dir` gives a prefix that depends on `dir` only, then the
element. -/
theorem join_plain (d : String) :
    ∃ pre : List Char, ∀ x : String, PlainElem x.data → join d x = ⟨pre ++ x.data⟩ := by
  by_cases hd : d = ""
  · refine ⟨[], fun x hx => ?_⟩
    have hx0 : x ≠ "" := fun h => hx.ne_nil (by rw [h])
    rw [join, if_pos hd, if_neg hx0, clean_plain hx]
    rfl
  · obtain ⟨pre, hpre⟩ := clean_append_plain d hd
    refine ⟨pre, fun x hx => ?_⟩
    have hx0 : x ≠ "" := fun h => hx.ne_nil (by rw [h])
    rw [join, if_neg hd, if_neg hx0, hpre x hx]

theorem join_plain_inj (d : String) {x y : String} (hx : PlainElem x.data)
    (hy : PlainElem y.data) (h : join d x = join d y) : x = y := by
  obtain ⟨pre, hpre⟩ := join_plain d
  rw [hpre x hx, hpre y hy] at h
  exact String.ext (List.append_cancel_left (congrArg String.data h))

end Defector.Go
