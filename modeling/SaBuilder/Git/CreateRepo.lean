import SaBuilder.Go.Runtime

/-!
# Creating the bare repository

`createRepo` makes sure a bare repository exists at a path: it `os.Stat`s the
path, and when nothing is there it runs `os.MkdirAll` and then `git init --bare`
in the new directory. It returns `true` when it created the repository, and
`false` when the path was already a directory.

What the path holds is a `SaBuilder.Git.Node`; a directory records whether
`git init --bare` has succeeded in it. Each call is given what its two system
calls do (`SaBuilder.Git.Faults`): either may fail, with any error.

`createRepo` tells a repository from a directory by `IsDir()` alone, and leaves
the directory behind when `git init` fails after `MkdirAll` succeeded. A run of
two calls, the first failing in `git init`, therefore ends with the second call
reporting an existing repository where there is only an empty directory
(`SaBuilder.Git.createRepo_reports_uninitialized_dir`). That failure is the only
way: a call returns `true` only after `git init` has succeeded, a call returns
`false` with no error exactly when the path was a directory, and in a run where
no `git init` fails after its `MkdirAll` succeeded, every call returning a nil
error leaves an initialized repository (`SaBuilder.Git.runCalls_initialized`),
which the path still holds at the end of the run
(`SaBuilder.Git.afterCalls_initialized`).
-/

namespace SaBuilder

namespace Git

/-- What is at the repository path. -/
inductive Node where
  | absent : Node
  | file : Node
  /-- A directory; `bare` records whether `git init --bare` succeeded in it. -/
  | dir (bare : Bool) : Node
  /-- A path `os.Stat` fails on for another reason than its absence. -/
  | unreachable (err : String) : Node
  deriving DecidableEq, Repr

/-- The errors of `os.Stat` that `createRepo` tells apart. -/
inductive StatError where
  | notExist : StatError
  | other (err : String) : StatError
  deriving DecidableEq, Repr

/-- What the system calls of one `createRepo` call return: the error of
`os.MkdirAll`, and the error of `git init --bare`, if any. -/
structure Faults where
  mkdirAll : Option String
  gitInit : Option String
  deriving DecidableEq, Repr

/-- `os.Stat(repoPath)`, through `fi.IsDir()` and the error. -/
def stat : Node → Except StatError Bool
  | .absent => .error .notExist
  | .file => .ok false
  | .dir _ => .ok true
  | .unreachable e => .error (.other e)

/-- `createRepo` creates a new Git repo if it is not present already: what the
path holds afterwards, and whether a repository was created. -/
def createRepo (f : Faults) (n : Node) : Node × Except String Bool :=
  match stat n with
  | .ok true => (n, .ok false)
  | .error .notExist =>
    match f.mkdirAll with
    | some e => (n, .error e)
    | none =>
      match f.gitInit with
      | some e => (.dir false, .error e)
      | none => (.dir true, .ok true)
  | .ok false => (n, .error "Expected directory, found file.")
  | .error (.other e) => (n, .error e)

/-! ### One call -/

@[simp] theorem stat_eq_ok_true {n : Node} : stat n = .ok true ↔ ∃ b, n = .dir b := by
  cases n <;> simp [stat]

@[simp] theorem stat_eq_notExist {n : Node} : stat n = .error .notExist ↔ n = .absent := by
  cases n <;> simp [stat]

/-- **A call creates a repository only when `git init` succeeds**: it returns
`true` exactly on an absent path whose two system calls succeed, and the path
is then an initialized directory. -/
theorem createRepo_eq_ok_true {f : Faults} {n n' : Node} :
    createRepo f n = (n', .ok true) ↔
      n = .absent ∧ f.mkdirAll = none ∧ f.gitInit = none ∧ n' = .dir true := by
  rcases f with ⟨_ | _, _ | _⟩ <;> cases n <;> simp [createRepo, stat, eq_comm]

/-- **A call reports an existing repository exactly on a directory**, initialized
or not, and leaves it as it is. -/
theorem createRepo_eq_ok_false {f : Faults} {n n' : Node} :
    createRepo f n = (n', .ok false) ↔ ∃ b, n = .dir b ∧ n' = n := by
  rcases f with ⟨_ | _, _ | _⟩ <;> cases n <;> simp [createRepo, stat, eq_comm]

/-- A call whose `git init` does not fail after `MkdirAll` succeeded leaves an
absent path absent or makes an initialized repository of it, and leaves a path
that is there as it is. -/
theorem createRepo_fst {f : Faults} (hf : f.mkdirAll = none → f.gitInit = none) (n : Node) :
    (createRepo f n).1 = n ∨ (n = .absent ∧ (createRepo f n).1 = .dir true) := by
  rcases f with ⟨_ | _, _ | _⟩ <;> cases n <;> simp_all [createRepo, stat]

/-! ### Runs of calls -/

/-- A run of calls on one path, each given its faults: for each call, what the
path holds after it and what it returned. -/
def runCalls (n : Node) : List Faults → List (Node × Except String Bool)
  | [] => []
  | f :: fs => createRepo f n :: runCalls (createRepo f n).1 fs

/-- What the path holds after a run of calls. -/
def afterCalls (n : Node) (fs : List Faults) : Node :=
  fs.foldl (fun n f => (createRepo f n).1) n

@[simp] theorem afterCalls_append (n : Node) (fs : List Faults) (f : Faults) :
    afterCalls n (fs ++ [f]) = (createRepo f (afterCalls n fs)).1 := by
  simp [afterCalls]

/-- One more call at the end of a run. -/
theorem runCalls_append (n : Node) (fs : List Faults) (f : Faults) :
    runCalls n (fs ++ [f]) = runCalls n fs ++ [createRepo f (afterCalls n fs)] := by
  induction fs generalizing n with
  | nil => rfl
  | cons g fs ih => simp [runCalls, afterCalls, ih]

/-- A run of calls leaves a directory as it is. -/
@[simp] theorem afterCalls_dir (b : Bool) (fs : List Faults) : afterCalls (.dir b) fs = .dir b := by
  induction fs with
  | nil => rfl
  | cons f fs ih => simpa [afterCalls, createRepo, stat] using ih

/-- **A failed `git init` is reported as an existing repository by the next
call.** The first call makes the directory and fails in `git init`; the second
finds a directory and returns `(false, nil)`, and the path holds a directory in
which `git init` never succeeded. -/
theorem createRepo_reports_uninitialized_dir :
    runCalls .absent [⟨none, some "exit status 128"⟩, ⟨none, none⟩] =
      [(.dir false, .error "exit status 128"), (.dir false, .ok false)] :=
  rfl

/-- **Without that failure, a repository reported is initialized.** In a run
from an absent path or an initialized repository, in which no call's `git init`
fails after its `MkdirAll` succeeded, every call that returns a nil error leaves
an initialized repository. -/
theorem runCalls_initialized {n : Node} (hn : n = .absent ∨ n = .dir true) {fs : List Faults}
    (hfs : ∀ f ∈ fs, f.mkdirAll = none → f.gitInit = none) :
    ∀ p ∈ runCalls n fs, ∀ b, p.2 = .ok b → p.1 = .dir true := by
  induction fs generalizing n with
  | nil => simp [runCalls]
  | cons f fs ih =>
    have hf := hfs f (List.mem_cons_self _ _)
    have hn' : (createRepo f n).1 = .absent ∨ (createRepo f n).1 = .dir true := by
      rcases createRepo_fst hf n with h | ⟨-, h⟩ <;> simp [h, hn]
    intro p hp b hb
    rcases List.mem_cons.mp hp with rfl | hp
    · rcases h : createRepo f n with ⟨n', r⟩
      obtain rfl : r = .ok b := by simpa [h] using hb
      cases b
      · obtain ⟨b, rfl, rfl⟩ := createRepo_eq_ok_false.mp h
        simpa using hn
      · exact (createRepo_eq_ok_true.mp h).2.2.2
    · exact ih hn' (fun f hf' => hfs f (List.mem_cons_of_mem _ hf')) p hp b hb

/-- In such a run, once a call has returned a nil error, the path holds an
initialized repository at the end of the run. -/
theorem afterCalls_initialized {n : Node} (hn : n = .absent ∨ n = .dir true) {fs : List Faults}
    (hfs : ∀ f ∈ fs, f.mkdirAll = none → f.gitInit = none)
    (hp : ∃ p ∈ runCalls n fs, ∃ b, p.2 = .ok b) : afterCalls n fs = .dir true := by
  induction fs generalizing n with
  | nil => simp [runCalls] at hp
  | cons f fs ih =>
    have hf := hfs f (List.mem_cons_self _ _)
    obtain ⟨p, hp, b, hb⟩ := hp
    rcases List.mem_cons.mp hp with rfl | hp
    · have := runCalls_initialized hn hfs _ (List.mem_cons_self _ _) b hb
      rw [show afterCalls n (f :: fs) = afterCalls (createRepo f n).1 fs from rfl, this,
        afterCalls_dir]
    · have hn' : (createRepo f n).1 = .absent ∨ (createRepo f n).1 = .dir true := by
        rcases createRepo_fst hf n with h | ⟨-, h⟩ <;> simp [h, hn]
      exact ih hn' (fun f hf' => hfs f (List.mem_cons_of_mem _ hf')) ⟨p, hp, b, hb⟩

end Git

end SaBuilder
