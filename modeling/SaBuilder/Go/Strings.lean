import Mathlib.Data.List.Infix
import Mathlib.Data.List.Basic

/-!
# The `strings` functions the builder calls

The repository handles every name it is given – a requested repository path, a
line of the pre-receive hook's input, the original SSH command – with a handful
of functions of Go's `strings` package. This file gives each of them as a
function on `String`, computed on the list of characters.

A Go string is a sequence of bytes and a Lean `String` a sequence of characters,
but every pattern the code passes (`".."`, `"'"`, `".git"`, `"/"`, `" "`,
`"git-receive-pack"`) is ASCII, and an ASCII byte never occurs inside the UTF-8
encoding of another character, so matching them on characters finds exactly the
occurrences Go finds on bytes.

Two of the functions are given only in the form the code uses them:
`SaBuilder.Strings.replace` replaces a one-character pattern (the code's only
call is `strings.Replace(name, "'", "", -1)`), and `SaBuilder.Strings.split`
splits on a one-character separator (`strings.Split(line, " ")`), which is
`List.splitOn`.
-/

namespace SaBuilder

namespace Strings

/-! ### Matching -/

/-- `strings.HasPrefix(s, prefix)`. -/
def hasPrefix (s pre : String) : Bool :=
  pre.data.isPrefixOf s.data

/-- `strings.HasSuffix(s, suffix)`. -/
def hasSuffix (s suf : String) : Bool :=
  suf.data.isSuffixOf s.data

/-- `strings.Contains(s, substr)`: whether `substr` occurs in `s`. -/
def contains (s sub : String) : Bool :=
  decide (sub.data <:+: s.data)

@[simp] theorem hasPrefix_iff {s pre : String} : hasPrefix s pre = true ↔ pre.data <+: s.data :=
  List.isPrefixOf_iff_prefix

@[simp] theorem hasSuffix_iff {s suf : String} : hasSuffix s suf = true ↔ suf.data <:+ s.data :=
  List.isSuffixOf_iff_suffix

@[simp] theorem contains_iff {s sub : String} : contains s sub = true ↔ sub.data <:+: s.data :=
  decide_eq_true_iff

/-! ### Rewriting -/

/-- `strings.TrimSuffix(s, suffix)`: `s` without `suffix`, if it ends with it. -/
def trimSuffix (s suf : String) : String :=
  if hasSuffix s suf then ⟨s.data.take (s.data.length - suf.data.length)⟩ else s

/-- `strings.TrimPrefix(s, prefix)`: `s` without `prefix`, if it starts with it. -/
def trimPrefix (s pre : String) : String :=
  if hasPrefix s pre then ⟨s.data.drop pre.data.length⟩ else s

/-- `strings.Replace(s, old, new, -1)` for a one-character `old`: every occurrence
of `old` replaced by `new`. -/
def replace (s : String) (old : Char) (new : String) : String :=
  ⟨s.data.flatMap fun c => if c = old then new.data else [c]⟩

/-- `strings.Split(s, sep)` for a one-character `sep`: the pieces between the
occurrences of `sep`, empty pieces included. -/
def split (s : String) (sep : Char) : List String :=
  (s.data.splitOn sep).map String.mk

/-- `strings.Join(elems, sep)` for a one-character `sep`. -/
def join (elems : List String) (sep : Char) : String :=
  ⟨[sep].intercalate (elems.map String.data)⟩

/-! ### What the rewritings keep -/

/-- Trimming a suffix keeps a prefix of the string. -/
theorem prefix_of_trimSuffix (s suf : String) : (trimSuffix s suf).data <+: s.data := by
  unfold trimSuffix
  split
  · exact List.take_prefix _ _
  · exact List.prefix_rfl

/-- Trimming a prefix keeps a suffix of the string. -/
theorem suffix_of_trimPrefix (s pre : String) : (trimPrefix s pre).data <:+ s.data := by
  unfold trimPrefix
  split
  · exact List.drop_suffix _ _
  · exact List.suffix_rfl

/-- A string that does not end with `suf` is left alone. -/
theorem trimSuffix_of_not {s suf : String} (h : ¬suf.data <:+ s.data) : trimSuffix s suf = s := by
  simp [trimSuffix, h]

/-- A string that does not start with `pre` is left alone. -/
theorem trimPrefix_of_not {s pre : String} (h : ¬pre.data <+: s.data) : trimPrefix s pre = s := by
  simp [trimPrefix, h]

/-- Removing every `old` leaves no `old`. -/
theorem not_mem_replace_empty (s : String) (old : Char) : old ∉ (replace s old "").data := by
  simp [replace]

/-- A string without `old` is left alone by replacing `old`. -/
theorem replace_of_not_mem {s : String} {old : Char} (new : String) (h : old ∉ s.data) :
    replace s old new = s := by
  obtain ⟨cs⟩ := s
  simp only [replace, String.ext_iff]
  induction cs with
  | nil => rfl
  | cons c cs ih =>
    simp only [List.mem_cons, not_or] at h
    simp [Ne.symm h.1, ih h.2]

/-! ### Splitting and joining -/

/-- Splitting at a separator splits the two sides apart. -/
theorem splitOn_append_sep (x : Char) (r : List Char) : ∀ l : List Char,
    (l ++ x :: r).splitOn x = l.splitOn x ++ r.splitOn x
  | [] => by simp [List.splitOn]
  | a :: l => by
    have ih := splitOn_append_sep x r l
    simp only [List.splitOn] at ih ⊢
    obtain ⟨hd, tl, he⟩ := List.exists_cons_of_ne_nil (List.splitOnP_ne_nil (· == x) l)
    by_cases hax : a = x <;> simp [hax, ih, he]

/-- A list without the separator is one piece. -/
theorem splitOn_of_not_mem {x : Char} {l : List Char} (h : x ∉ l) : l.splitOn x = [l] :=
  List.splitOnP_eq_single _ _ fun c hc => by simpa using ne_of_mem_of_not_mem hc h

/-- No piece of a split holds the separator. -/
theorem not_mem_of_mem_splitOn {x : Char} {l w : List Char} (h : w ∈ l.splitOn x) : x ∉ w := by
  by_cases hx : x ∈ l
  · obtain ⟨s, t, hl⟩ := List.append_of_mem hx
    have : s.length < l.length ∧ t.length < l.length := by simp [hl]; omega
    rw [hl, splitOn_append_sep, List.mem_append] at h
    exact h.elim not_mem_of_mem_splitOn not_mem_of_mem_splitOn
  · rw [splitOn_of_not_mem hx, List.mem_singleton] at h
    exact h ▸ hx
termination_by l.length
decreasing_by all_goals simp_wf; omega

/-- **Splitting is the inverse of joining**: `strings.Split(s, sep)` returns the
pieces `ws` exactly when `s` is the pieces joined by `sep` and no piece holds
`sep`. -/
theorem split_eq_iff {s : String} {sep : Char} {ws : List String} (hws : ws ≠ []) :
    split s sep = ws ↔ s = join ws sep ∧ ∀ w ∈ ws, sep ∉ w.data := by
  constructor
  · rintro rfl
    refine ⟨?_, fun w hw => ?_⟩
    · simp [split, join, Function.comp_def, List.intercalate_splitOn]
    · obtain ⟨l, hl, rfl⟩ := List.mem_map.mp hw
      exact not_mem_of_mem_splitOn hl
  · rintro ⟨rfl, hsep⟩
    have hsep' : ∀ l ∈ ws.map String.data, sep ∉ l := by simpa using hsep
    simp only [split, join]
    rw [List.splitOn_intercalate _ sep hsep' (by simpa using hws)]
    simp [Function.comp_def]

/-! ### Where the pieces come from -/

/-- Every piece of a split occurs in the list. -/
theorem infix_of_mem_splitOn {x : Char} {l w : List Char} (h : w ∈ l.splitOn x) : w <:+: l := by
  by_cases hx : x ∈ l
  · obtain ⟨s, t, hl⟩ := List.append_of_mem hx
    have : s.length < l.length ∧ t.length < l.length := by simp [hl]; omega
    rw [hl, splitOn_append_sep, List.mem_append] at h
    rcases h with h | h
    · exact (infix_of_mem_splitOn h).trans ⟨[], x :: t, by simp [hl]⟩
    · exact (infix_of_mem_splitOn h).trans ⟨s ++ [x], [], by simp [hl]⟩
  · rw [splitOn_of_not_mem hx, List.mem_singleton] at h
    exact h ▸ List.infix_rfl
termination_by l.length
decreasing_by all_goals simp_wf; omega

/-- Appending a list without the separator extends the last piece. -/
theorem splitOn_append_of_not_mem {x : Char} {r : List Char} (hr : x ∉ r) (l : List Char) :
    ∃ init last, l.splitOn x = init ++ [last] ∧ (l ++ r).splitOn x = init ++ [last ++ r] := by
  by_cases hx : x ∈ l
  · obtain ⟨s, t, hl⟩ := List.append_of_mem hx
    have : t.length < l.length := by simp [hl]; omega
    obtain ⟨init, last, h1, h2⟩ := splitOn_append_of_not_mem hr t
    subst hl
    exact ⟨s.splitOn x ++ init, last, by simp [splitOn_append_sep, h1],
      by simp [splitOn_append_sep, h2]⟩
  · exact ⟨[], l, splitOn_of_not_mem hx, splitOn_of_not_mem (by simp [hx, hr])⟩
termination_by l.length
decreasing_by simp_wf; omega

/-- Every piece of `strings.Split(s, sep)` occurs in `s`. -/
theorem infix_of_mem_split {s w : String} {sep : Char} (h : w ∈ split s sep) :
    w.data <:+: s.data := by
  obtain ⟨l, hl, rfl⟩ := List.mem_map.mp h
  exact infix_of_mem_splitOn hl

/-- Appending a text without the separator extends the last piece of the split. -/
theorem split_append_of_not_mem {sep : Char} {t : String} (ht : sep ∉ t.data) (s : String) :
    ∃ init last, split s sep = init ++ [last] ∧ split (s ++ t) sep = init ++ [last ++ t] := by
  obtain ⟨init, last, h1, h2⟩ := splitOn_append_of_not_mem ht s.data
  exact ⟨init.map String.mk, ⟨last⟩, by simp [split, h1], by simp [split, h2]; rfl⟩

end Strings

end SaBuilder
