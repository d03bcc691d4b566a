import SaBuilder.Go.Filepath
import SaBuilder.Go.Runtime

/-!
# Repository names

`Receive` is handed the path of the SSH command, `'/REPO.git'`, and turns it into
a directory under the git home: `cleanRepoName` strips it to `REPO`, `Receive`
appends `.git` and joins the result to `gitHome`.

`cleanRepoName` makes its two checks – the name is non-empty, the name contains
no `..` – on the name as given, and only then removes the quote characters and
trims one `.git` suffix and one `/` prefix. What it returns is therefore not
checked, and both invariants the checks are meant to give fail on its image:

* a `..` whose two dots are separated by quotes survives the checks and comes out
  whole once the quotes are gone: `".'./x"` cleans to `"../x"`, and the repository
  path `Receive` derives from it leaves the git home
  (`SaBuilder.Git.cleanRepoName_escapes_gitHome`);
* a name made only of what the rewriting removes cleans to the empty name:
  `"/.git"` cleans to `""`.

Neither the quote removal nor the trims can produce a `..` out of a name with no
quote (`SaBuilder.Git.not_dotdot_of_cleanRepoName`), so the quotes are the only
way through the traversal check: under a non-empty git home, the repository of a
quote-free name lies strictly inside it
(`SaBuilder.Git.repoPath_isProperDescendant`).

Cleaning twice is not cleaning once: one suffix and one prefix are trimmed per
call, so `"a.git.git"` cleans to `"a.git"` and that to `"a"`. A cleaned name is
a fixed point exactly when it is non-empty, has no `..`, and neither ends with
`.git` nor starts with `/` (`SaBuilder.Git.cleanRepoName_idem_iff`).
-/

namespace SaBuilder

namespace Git

open Strings

/-- `cleanRepoName` cleans a repository name for a git-sh operation. -/
def cleanRepoName (name : String) : Except String String :=
  if name.length = 0 then .error "Empty repo name."
  else if contains name ".." then .error "Cannot change directory in file name."
  else .ok (trimPrefix (trimSuffix (replace name '\'' "") ".git") "/")

/-- The repository path `Receive` derives from the requested name:
`filepath.Join(gitHome, cleanRepoName(repoName) + ".git")`. -/
def repoPath (gitHome repoName : String) : Except String String := do
  let repo ← cleanRepoName repoName
  return Filepath.join gitHome (repo ++ ".git")

/-! ### What `cleanRepoName` accepts -/

/-- **The shape of an accepted name**: the checks passed on the name as given,
and the result is its rewriting. -/
theorem cleanRepoName_eq_ok {name r : String} :
    cleanRepoName name = .ok r ↔
      name ≠ "" ∧ ¬"..".data <:+: name.data ∧
        r = trimPrefix (trimSuffix (replace name '\'' "") ".git") "/" := by
  unfold cleanRepoName
  by_cases h0 : name.length = 0
  · have : name = "" := String.ext (List.eq_nil_of_length_eq_zero h0)
    simp [h0, this]
  · have : name ≠ "" := fun h => h0 (by simp [h])
    by_cases h1 : "..".data <:+: name.data
    · simp [h0, h1, contains]
    · simp [h0, h1, this, contains, eq_comm]

/-- The result of cleaning is an infix of the name with its quotes removed. -/
theorem repoName_within_unquoted {name r : String} (h : cleanRepoName name = .ok r) :
    r.data <:+: (replace name '\'' "").data := by
  obtain ⟨-, -, rfl⟩ := cleanRepoName_eq_ok.mp h
  exact (suffix_of_trimPrefix _ _).isInfix.trans (prefix_of_trimSuffix _ _).isInfix

/-- A cleaned name has no quote. -/
theorem quote_not_mem_cleanRepoName {name r : String} (h : cleanRepoName name = .ok r) :
    '\'' ∉ r.data :=
  fun hm => not_mem_replace_empty name '\'' ((repoName_within_unquoted h).subset hm)

/-- **Only a quote lets a `..` through**: the name of a quote-free request is an
infix of the request, which the check found free of `..`. -/
theorem not_dotdot_of_cleanRepoName {name r : String} (h : cleanRepoName name = .ok r)
    (hq : '\'' ∉ name.data) : ¬"..".data <:+: r.data := by
  have hinf := repoName_within_unquoted h
  rw [replace_of_not_mem "" hq] at hinf
  exact fun hd => (cleanRepoName_eq_ok.mp h).2.1 (hd.trans hinf)

/-- **The traversal check is made before the quotes are removed**: `".'./x"`
passes both checks, cleans to `"../x"`, and `Receive` places the repository at
`/home/x.git`, outside the default git home `/home/git`. The emptiness check is
made before the trims: `"/.git"` cleans to the empty name. -/
theorem cleanRepoName_escapes_gitHome :
    cleanRepoName ".'./x" = .ok "../x" ∧ repoPath "/home/git" ".'./x" = .ok "/home/x.git" ∧
      ¬Filepath.IsProperDescendant "/home/git" "/home/x.git" ∧ cleanRepoName "/.git" = .ok "" :=
  ⟨rfl, rfl, by decide, rfl⟩

/-- **Without a quote, an accepted name stays under the git home**: for a
non-empty git home and a requested name with no quote character, the path
`Receive` derives lies strictly inside the git home. The elements of
`REPO.git` are pieces of the name, which has no `..`, and a last one ending in
`.git`. Both conditions are needed: the quotes are the way around the traversal
check (`SaBuilder.Git.cleanRepoName_escapes_gitHome`), and under an empty git
home the name `"//x"` gives the rooted path `/x.git`. -/
theorem repoPath_isProperDescendant {gitHome name p : String} (hg : gitHome ≠ "")
    (hq : '\'' ∉ name.data) (h : repoPath gitHome name = .ok p) :
    Filepath.IsProperDescendant gitHome p := by
  rcases hc : cleanRepoName name with e | r
  · simp [repoPath, hc] at h
  · simp only [repoPath, hc, except_bind_ok, except_pure, Except.ok.injEq] at h
    subst h
    obtain ⟨init, last, h1, h2⟩ := split_append_of_not_mem (by decide : '/' ∉ ".git".data) r
    have hlen : (last ++ ".git").length = last.length + 4 := by simp; rfl
    have hshort : ∀ e : String, e.length < 4 → e ≠ last ++ ".git" :=
      fun e he h => by rw [h, hlen] at he; omega
    refine Filepath.join_isProperDescendant hg ?_ ⟨last ++ ".git", by simp [h2],
      fun he => hshort "" (by decide) he.symm, fun he => hshort "." (by decide) he.symm⟩
    rw [h2, List.mem_append, List.mem_singleton]
    rintro (hm | hm)
    · exact not_dotdot_of_cleanRepoName hc hq (@infix_of_mem_split r ".." '/' (by simp [h1, hm]))
    · exact hshort ".." (by decide) hm

example : Filepath.IsProperDescendant "/home/git" "/home/git/demo.git" :=
  repoPath_isProperDescendant (by decide) (by decide) (rfl : repoPath "/home/git" "demo" = _)

/-! ### Cleaning twice -/

/-- Trimming a non-empty suffix the string has shortens it. -/
theorem trimSuffix_ne_of_suffix {s suf : String} (hs : suf.data ≠ []) (h : suf.data <:+ s.data) :
    (trimSuffix s suf).data.length < s.data.length := by
  have hl := h.length_le
  have : 0 < suf.data.length := List.length_pos.mpr hs
  simp only [trimSuffix, hasSuffix_iff.mpr h, if_true, List.length_take]
  omega

/-- Trimming a suffix then a prefix gives back the string exactly when it has
neither. -/
theorem trimPrefix_trimSuffix_eq_self {s suf pre : String} (hs : suf.data ≠ [])
    (hp : pre.data ≠ []) :
    trimPrefix (trimSuffix s suf) pre = s ↔ ¬suf.data <:+ s.data ∧ ¬pre.data <+: s.data := by
  by_cases hsuf : suf.data <:+ s.data
  · refine iff_of_false (fun h => ?_) (fun h => h.1 hsuf)
    have h1 := (suffix_of_trimPrefix (trimSuffix s suf) pre).length_le
    rw [h] at h1
    exact absurd (trimSuffix_ne_of_suffix hs hsuf) (by omega)
  · rw [trimSuffix_of_not hsuf]
    by_cases hpre : pre.data <+: s.data
    · refine iff_of_false (fun h => ?_) (fun h => h.2 hpre)
      have h1 := congrArg (fun t : String => t.data.length) h
      have : 0 < pre.data.length := List.length_pos.mpr hp
      simp only [trimPrefix, hasPrefix_iff.mpr hpre, if_true, List.length_drop] at h1
      have := hpre.length_le
      omega
    · simp [trimPrefix_of_not hpre, hsuf, hpre]

/-- **When cleaning is idempotent**: a name `cleanRepoName` returns is returned
unchanged by a second call exactly when it is non-empty, has no `..`, and neither
ends with `.git` nor starts with `/`. -/
theorem cleanRepoName_idem_iff {name r : String} (h : cleanRepoName name = .ok r) :
    cleanRepoName r = .ok r ↔
      r ≠ "" ∧ ¬"..".data <:+: r.data ∧ ¬".git".data <:+ r.data ∧ ¬"/".data <+: r.data := by
  rw [cleanRepoName_eq_ok, replace_of_not_mem "" (quote_not_mem_cleanRepoName h), eq_comm,
    trimPrefix_trimSuffix_eq_self (by decide) (by decide)]

/-- The documented form `'/REPO.git'`: its cleaned name is a fixed point. -/
theorem cleanRepoName_idem_demo :
    cleanRepoName "/demo.git" = .ok "demo" ∧
      (cleanRepoName "demo" = .ok "demo" ↔ "demo" ≠ "" ∧ ¬"..".data <:+: "demo".data ∧
        ¬".git".data <:+ "demo".data ∧ ¬"/".data <+: "demo".data) :=
  ⟨rfl, cleanRepoName_idem_iff (rfl : cleanRepoName "/demo.git" = .ok "demo")⟩

/-- A name that `cleanRepoName` accepts and that a second call cleans further:
`"a.git.git"` cleans to `"a.git"`, and `"a.git"` to `"a"`. -/
theorem cleanRepoName_not_idem :
    cleanRepoName "a.git.git" = .ok "a.git" ∧ cleanRepoName "a.git" ≠ .ok "a.git" :=
  ⟨rfl, fun h => absurd (Except.ok.inj (h.symm.trans (rfl : cleanRepoName "a.git" = .ok "a")))
    (by decide)⟩

end Git

end SaBuilder
