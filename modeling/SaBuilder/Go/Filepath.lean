import SaBuilder.Go.Strings

/-!
# `filepath.Join` and `filepath.Clean`

`Receive` places a repository at `filepath.Join(gitHome, repo)`, and `Join`
cleans its result. `filepath.Clean` is purely lexical; its documentation gives it
as four rules, applied until none applies:

1. replace multiple separators with a single one;
2. eliminate each `.` element;
3. eliminate each inner `..` element and the non-`..` element that precedes it;
4. eliminate `..` elements that begin a rooted path.

`SaBuilder.Filepath.cleanStep` is one element of that process, on the stack of
the elements kept so far: rule 1 and rule 2 drop the empty and the `.` elements,
rule 3 pops the stack at a `..`, and rule 4 drops a `..` that would pop a rooted
path's root. A relative path keeps its leading `..`s.

Whether a path stays under a directory is then a statement about the kept
elements (`SaBuilder.Filepath.IsProperDescendant`): the directory's elements are
a prefix of the path's, and what follows adds at least one element and no `..`.

The stack `cleanStep` builds always has the same shape – plain elements above a
run of `..`, and no `..` at all under a root (`SaBuilder.Filepath.Stack`) – and
from that shape follow two facts:

* `Clean` is idempotent (`SaBuilder.Filepath.clean_idem`): splitting a cleaned
  path gives back its elements, and `cleanStep` pushes each of them again. No
  other result uses it; it checks the model against what `Clean` is known to do;
* `Join` descends (`SaBuilder.Filepath.join_isProperDescendant`): joined to a
  non-empty directory, a path with no `..` element only pushes elements on the
  directory's own, and one of them at least if it has an element `Clean` keeps.
  This is what places `Receive`'s repository and hook under the git home.
-/

namespace SaBuilder

namespace Filepath

open Strings

/-- One element of a path, as `filepath.Clean` treats it, pushed on the stack of
the elements kept so far (the last one first). -/
def cleanStep (rooted : Bool) (kept : List String) (e : String) : List String :=
  if e = "" ∨ e = "." then kept
  else if e = ".." then
    match kept with
    | k :: rest => if k = ".." then ".." :: kept else rest
    | [] => if rooted then [] else [".."]
  else e :: kept

/-- Whether a path is rooted: it starts with the separator. -/
def rooted (p : String) : Bool :=
  hasPrefix p "/"

/-- The elements `filepath.Clean` keeps of a path, in order. -/
def cleanElems (p : String) : List String :=
  ((split p '/').foldl (cleanStep (rooted p)) []).reverse

/-- `filepath.Clean(p)` on a Unix system. -/
def clean (p : String) : String :=
  if rooted p then "/" ++ join (cleanElems p) '/'
  else if cleanElems p = [] then "." else join (cleanElems p) '/'

/-- `filepath.Join(base, elem)`: the first non-empty argument and everything
after it, joined by the separator and cleaned. -/
def join (base elem : String) : String :=
  if base ≠ "" then clean (base ++ "/" ++ elem)
  else if elem ≠ "" then clean elem
  else ""

/-- `filepath.Join(elem...)`: the elements from the first non-empty one on,
joined by the separator and cleaned; `""` when every element is empty. -/
def joinAll : List String → String
  | [] => ""
  | e :: rest => if e ≠ "" then clean (Strings.join (e :: rest) '/') else joinAll rest

/-- `p` names something strictly inside the directory `base`: both cleaned, the
elements of `base` are a prefix of those of `p`, and the elements that follow add
at least one level and never go back up. -/
def IsProperDescendant (base p : String) : Prop :=
  rooted p = rooted base ∧ cleanElems base <+: cleanElems p ∧
    cleanElems base ≠ cleanElems p ∧ ".." ∉ (cleanElems p).drop (cleanElems base).length

instance (base p : String) : Decidable (IsProperDescendant base p) :=
  inferInstanceAs (Decidable (_ ∧ _ ∧ _ ∧ _))

/-! ### The elements `Clean` keeps -/

/-- An element `filepath.Clean` keeps as it is: not empty, not `.`, not `..`,
and without a separator. -/
def Plain (e : String) : Prop :=
  e ≠ "" ∧ e ≠ "." ∧ e ≠ ".." ∧ '/' ∉ e.data

/-- The stack `cleanStep` builds, last element first: plain elements above a run
of `..`, which is empty in a rooted path. -/
def Stack (rooted : Bool) (kept : List String) : Prop :=
  ∃ xs k, kept = xs ++ List.replicate k ".." ∧ (rooted = true → k = 0) ∧
    ∀ x ∈ xs, Plain x

section Stack

variable {r : Bool} {kept : List String}

theorem Stack.nil : Stack r [] :=
  ⟨[], 0, rfl, fun _ => rfl, by simp⟩

/-- **One element keeps the shape of the stack.** -/
theorem Stack.cleanStep (hk : Stack r kept) {e : String} (he : '/' ∉ e.data) :
    Stack r (cleanStep r kept e) := by
  obtain ⟨xs, k, rfl, hr, hx⟩ := hk
  unfold Filepath.cleanStep
  by_cases h0 : e = "" ∨ e = "."
  · simpa [h0] using ⟨xs, k, rfl, hr, hx⟩
  by_cases h1 : e = ".."
  · simp only [h0, h1, if_true, if_false]
    cases xs with
    | cons x xs =>
      have hx' := hx x (List.mem_cons_self _ _)
      simp only [List.cons_append, hx'.2.2.1, if_false]
      exact ⟨xs, k, rfl, hr, fun y hy => hx y (List.mem_cons_of_mem _ hy)⟩
    | nil =>
      cases k with
      | zero =>
        cases r
        · exact ⟨[], 1, rfl, by simp, by simp⟩
        · exact Stack.nil
      | succ k =>
        obtain rfl : r = false := Bool.eq_false_iff.mpr fun h => k.succ_ne_zero (hr h)
        exact ⟨[], k + 2, by simp [List.replicate_succ], by simp, by simp⟩
  · simp only [h0, h1, if_false]
    exact ⟨e :: xs, k, rfl, hr, by simpa [Plain, h1, he] using ⟨not_or.mp h0, hx⟩⟩

/-- **A whole path keeps the shape of the stack.** -/
theorem Stack.foldl (hk : Stack r kept) {es : List String} (hes : ∀ e ∈ es, '/' ∉ e.data) :
    Stack r (es.foldl (Filepath.cleanStep r) kept) := by
  induction es generalizing kept with
  | nil => exact hk
  | cons e es ih =>
    exact ih (hk.cleanStep (hes e (List.mem_cons_self _ _)))
      fun e he => hes e (List.mem_cons_of_mem _ he)

end Stack

/-- No element of a split path holds the separator. -/
theorem slash_not_mem_of_mem_split {p e : String} (h : e ∈ split p '/') : '/' ∉ e.data := by
  obtain ⟨l, hl, rfl⟩ := List.mem_map.mp h
  exact not_mem_of_mem_splitOn hl

/-- **The shape of a cleaned path**: a run of `..`, none if the path is rooted,
then plain elements. -/
theorem cleanElems_normal (p : String) :
    ∃ k xs, cleanElems p = List.replicate k ".." ++ xs ∧ (rooted p = true → k = 0) ∧
      ∀ x ∈ xs, Plain x := by
  obtain ⟨xs, k, he, hr, hx⟩ :=
    @Stack.foldl (rooted p) [] Stack.nil (split p '/') fun _ => slash_not_mem_of_mem_split
  exact ⟨k, xs.reverse, by simp [cleanElems, he], hr, by simpa using hx⟩

/-- Over elements with no `..`, `cleanStep` only pushes: the elements other than
the empty ones and `.`, in order. -/
theorem foldl_cleanStep_of_not_dotdot {r : Bool} {es : List String} (h : ".." ∉ es)
    (kept : List String) :
    es.foldl (cleanStep r) kept = (es.filter fun e => e ≠ "" ∧ e ≠ ".").reverse ++ kept := by
  induction es generalizing kept with
  | nil => rfl
  | cons e es ih =>
    simp only [List.mem_cons, not_or] at h
    by_cases h0 : e = "" ∨ e = "."
    · rcases h0 with rfl | rfl <;> simp [cleanStep, ih h.2, List.filter_cons]
    · simp only [not_or] at h0
      simp [cleanStep, h0, Ne.symm h.1, ih h.2, List.filter_cons]

/-- A run of `..` on a relative path's run of `..` lengthens it. -/
theorem foldl_cleanStep_dotdot (j k : Nat) :
    (List.replicate k "..").foldl (cleanStep false) (List.replicate j "..") =
      List.replicate (j + k) ".." := by
  induction k generalizing j with
  | zero => rfl
  | succ k ih =>
    have : cleanStep false (List.replicate j "..") ".." = List.replicate (j + 1) ".." := by
      cases j <;> simp [cleanStep, List.replicate_succ]
    rw [List.replicate_succ, List.foldl_cons, this, ih, Nat.add_right_comm, ← Nat.add_assoc]

/-- **Cleaning a clean path's elements gives them back.** -/
theorem foldl_cleanStep_normal {r : Bool} {k : Nat} {xs : List String} (hr : r = true → k = 0)
    (hx : ∀ x ∈ xs, Plain x) :
    (List.replicate k ".." ++ xs).foldl (cleanStep r) [] =
      (List.replicate k ".." ++ xs).reverse := by
  have hdots : (List.replicate k "..").foldl (cleanStep r) [] = List.replicate k ".." := by
    cases r
    · simpa using foldl_cleanStep_dotdot 0 k
    · simp [hr rfl]
  have hxs : ".." ∉ xs := fun h => (hx _ h).2.2.1 rfl
  rw [List.foldl_append, hdots, foldl_cleanStep_of_not_dotdot hxs,
    List.filter_eq_self.mpr fun x h => by simpa using ⟨(hx x h).1, (hx x h).2.1⟩]
  simp

/-! ### `Clean` is idempotent -/

/-- A rooted path splits into an empty element and the elements after the root. -/
theorem split_slash_append (s : String) : split ("/" ++ s) '/' = "" :: split s '/' := by
  simp [split, List.splitOn]

/-- Joining elements and splitting them again changes nothing `cleanStep` sees. -/
theorem foldl_split_join {r : Bool} {es : List String} (hes : ∀ e ∈ es, '/' ∉ e.data)
    (kept : List String) :
    (split (Strings.join es '/') '/').foldl (cleanStep r) kept = es.foldl (cleanStep r) kept := by
  cases es with
  | nil => rfl
  | cons e es => rw [(split_eq_iff (List.cons_ne_nil e es)).mpr ⟨rfl, hes⟩]

/-- A path starting with a non-empty element without a separator is relative. -/
theorem rooted_join {e : String} (es : List String) (he : e ≠ "") (hs : '/' ∉ e.data) :
    rooted (Strings.join (e :: es) '/') = false := by
  obtain ⟨⟨⟩ | ⟨c, cs⟩⟩ := e
  · exact absurd rfl he
  · have hc : c ≠ '/' := fun h => hs (by simp [h])
    cases es <;>
      simp [rooted, Strings.join, hasPrefix, List.isPrefixOf, Ne.symm hc, List.intercalate]

/-- **Cleaning a cleaned path** keeps whether it is rooted and its elements. -/
theorem clean_spec (p : String) :
    rooted (clean p) = rooted p ∧ cleanElems (clean p) = cleanElems p := by
  obtain ⟨k, xs, he, hr, hx⟩ := cleanElems_normal p
  have hes : ∀ e ∈ cleanElems p, e ≠ "" ∧ '/' ∉ e.data := by
    intro e h
    rw [he, List.mem_append, List.mem_replicate] at h
    rcases h with ⟨-, rfl⟩ | h
    · decide
    · exact ⟨(hx e h).1, (hx e h).2.2.2⟩
  have hsep : ∀ e ∈ cleanElems p, '/' ∉ e.data := fun e h => (hes e h).2
  cases hrp : rooted p
  · cases hcons : cleanElems p with
    | nil => simp [clean, hrp, hcons]; exact ⟨rfl, rfl⟩
    | cons e es =>
      have hre : rooted (Strings.join (e :: es) '/') = false :=
        rooted_join es (hes e (by simp [hcons])).1 (hes e (by simp [hcons])).2
      simp only [clean, hrp, hcons, Bool.false_eq_true, if_false, reduceCtorEq]
      refine ⟨hre, ?_⟩
      rw [cleanElems, hre, ← hcons, foldl_split_join hsep, he,
        foldl_cleanStep_normal (by simp) hx]
      simp
  · have hdot : rooted ("/" ++ Strings.join (cleanElems p) '/') = true := by simp [rooted]
    simp only [clean, hrp, if_true]
    refine ⟨hdot, ?_⟩
    rw [cleanElems, hdot, split_slash_append, List.foldl_cons]
    simp only [cleanStep, true_or, if_true]
    rw [foldl_split_join hsep, he, foldl_cleanStep_normal (fun _ => hr hrp) hx]
    simp

/-- **`filepath.Clean` is idempotent.** -/
theorem clean_idem (p : String) : clean (clean p) = clean p := by
  obtain ⟨h1, h2⟩ := clean_spec p
  rw [clean.eq_1 (clean p), h1, h2, clean]

/-! ### Joining under a directory -/

/-- A path after a non-empty one is rooted exactly when that one is. -/
theorem rooted_append {s : String} (hs : s ≠ "") (t : String) : rooted (s ++ t) = rooted s := by
  obtain ⟨⟨⟩ | ⟨c, cs⟩⟩ := s
  · exact absurd rfl hs
  · simp [rooted, hasPrefix, List.isPrefixOf]

/-- Splitting at a separator splits the two sides apart. -/
theorem split_append_slash (s t : String) :
    split (s ++ "/" ++ t) '/' = split s '/' ++ split t '/' := by
  simpa [split] using congrArg (List.map String.mk) (splitOn_append_sep '/' t.data s.data)

/-- **The elements of a joined path**: those of the base, then those of the rest
that `Clean` keeps, when the rest has no `..`. -/
theorem cleanElems_append_slash {base rest : String} (hb : base ≠ "")
    (h : ".." ∉ split rest '/') :
    cleanElems (base ++ "/" ++ rest) =
      cleanElems base ++ (split rest '/').filter fun e => e ≠ "" ∧ e ≠ "." := by
  have hbase : (split base '/').foldl (cleanStep (rooted base)) [] = (cleanElems base).reverse := by
    simp [cleanElems]
  rw [cleanElems, String.append_assoc, rooted_append hb, ← String.append_assoc,
    split_append_slash, List.foldl_append, hbase, foldl_cleanStep_of_not_dotdot h]
  simp

/-- **`filepath.Join` descends**: joined to a non-empty directory, a path with no
`..` element and an element `Clean` keeps names something strictly inside it. -/
theorem join_isProperDescendant {base rest : String} (hb : base ≠ "")
    (h : ".." ∉ split rest '/') (hk : ∃ e ∈ split rest '/', e ≠ "" ∧ e ≠ ".") :
    IsProperDescendant base (join base rest) := by
  obtain ⟨hr, he⟩ := clean_spec (base ++ "/" ++ rest)
  obtain ⟨e, hm, hne⟩ := hk
  simp only [join, ne_eq, hb, not_false_eq_true, if_true]
  rw [IsProperDescendant, hr, he, cleanElems_append_slash hb h, String.append_assoc,
    rooted_append hb, List.drop_left]
  refine ⟨rfl, List.prefix_append _ _, ?_, fun hd => h (List.mem_of_mem_filter hd)⟩
  simpa using ⟨e, hm, hne⟩

/-- Joining a non-empty path to further elements is joining it to their join. -/
theorem joinAll_cons {base : String} {rest : List String} (hb : base ≠ "") (hr : rest ≠ []) :
    joinAll (base :: rest) = join base (Strings.join rest '/') := by
  obtain ⟨e, es, rfl⟩ := List.exists_cons_of_ne_nil hr
  simp only [joinAll, join, ne_eq, hb, not_false_eq_true, if_true]
  congr 1
  exact String.ext (by simp [Strings.join, List.intercalate])

/-- **Being strictly inside is transitive.** -/
theorem IsProperDescendant.trans {a b c : String} (hab : IsProperDescendant a b)
    (hbc : IsProperDescendant b c) : IsProperDescendant a c := by
  obtain ⟨r1, ⟨s, hs⟩, n1, d1⟩ := hab
  obtain ⟨r2, ⟨t, ht⟩, n2, d2⟩ := hbc
  unfold IsProperDescendant
  generalize cleanElems a = ea at *
  generalize cleanElems b = eb at *
  generalize cleanElems c = ec at *
  subst hs ht
  rw [List.drop_left] at d1 d2
  rw [List.append_assoc, List.drop_left]
  simp only [ne_eq, List.self_eq_append_right, List.append_eq_nil] at n1 ⊢
  exact ⟨r2.trans r1, List.prefix_append _ _, fun h => n1 h.1, by simp [d1, d2]⟩

/-- Something strictly inside a directory is not the empty path. -/
theorem IsProperDescendant.ne_empty {base p : String} (h : IsProperDescendant base p) :
    p ≠ "" := by
  rintro rfl
  exact h.2.2.1 (List.prefix_nil.mp h.2.1)

end Filepath

end SaBuilder
