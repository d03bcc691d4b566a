import SaBuilder.Git.CreateRepo
import Mathlib.Logic.Function.Basic

/-!
# Concurrent calls under `createLock`

`createRepo` takes the process-wide mutex `createLock` first and releases it,
deferred, when it returns, so its `Stat`, `MkdirAll` and `git init` run with the
lock held. Here any number of threads call it on one path. Each thread is a
program counter (`SaBuilder.Git.Locked.Pc`), and a run is a schedule: the list of
the threads that step, one after the other. A thread steps past `Lock()` only
when no thread holds the lock.

The model carries three ghost variables that the code does not have: the thread
holding the lock (the mutex itself records only that it is held), how many times
`git init --bare` has run, and the results of the calls that have returned, in
the order they returned.

From the path absent, every run keeps the invariant `SaBuilder.Git.Locked.Inv`,
whose first field is mutual exclusion: a thread between `Lock()` and `Unlock()`
is the holder. The rest follows (`SaBuilder.Git.Locked.createRepo_once`):
`git init --bare` runs at most once, and once a call has returned `(true, nil)`
the path is an initialized repository and every call that returns after it
returns `(false, nil)`.

Between `Lock()` and the deferred `Unlock()` a thread runs `createRepo`'s body,
one system call a step; that every run is then a run of `SaBuilder.Git.createRepo`
calls one after the other is `SaBuilder.Git.Locked.run_serial`, in
`SaBuilder.Git.Sequential`.
-/

namespace SaBuilder

namespace Git

namespace Locked

open Function

/-- Where a thread is in `createRepo`. -/
inductive Pc where
  /-- At `createLock.Lock()`. -/
  | lock : Pc
  /-- Holding the lock, at `os.Stat`. -/
  | stat : Pc
  /-- Holding the lock, at `os.MkdirAll`. -/
  | mkdirAll : Pc
  /-- Holding the lock, at `git init --bare`. -/
  | gitInit : Pc
  /-- Holding the lock, returning `r`; the deferred `Unlock()` is still to run. -/
  | unlock (r : Except String Bool) : Pc
  /-- Returned `r`. -/
  | done (r : Except String Bool) : Pc

/-- Whether a thread at this point holds the lock. -/
def Pc.Critical : Pc → Prop
  | .stat | .mkdirAll | .gitInit | .unlock _ => True
  | _ => False

/-- The path, the lock, the threads, and the ghost variables. -/
structure World where
  node : Node
  /-- The thread holding `createLock`, if any. -/
  holder : Option Nat
  pcs : Nat → Pc
  /-- Ghost: how many times `git init --bare` has run. -/
  inits : Nat
  /-- Ghost: the results of the calls that have returned, in order. -/
  returned : List (Except String Bool)

/-- Every thread at `Lock()`, the lock free and the path absent. -/
def World.init : World :=
  ⟨.absent, none, fun _ => .lock, 0, []⟩

/-- Thread `i` returns `r`, the deferred `Unlock()` still to run. -/
def World.ret (w : World) (i : Nat) (r : Except String Bool) : World :=
  { w with pcs := update w.pcs i (.unlock r) }

/-- Thread `i` takes its next step; the faults of its system calls are `f`. -/
def step (faults : Nat → Faults) (w : World) (i : Nat) : World :=
  match w.pcs i with
  | .lock => if w.holder = none then { w with holder := some i, pcs := update w.pcs i .stat } else w
  | .stat =>
    match stat w.node with
    | .ok true => w.ret i (.ok false)
    | .error .notExist => { w with pcs := update w.pcs i .mkdirAll }
    | .ok false => w.ret i (.error "Expected directory, found file.")
    | .error (.other e) => w.ret i (.error e)
  | .mkdirAll =>
    match (faults i).mkdirAll with
    | some e => w.ret i (.error e)
    | none => { w with node := .dir false, pcs := update w.pcs i .gitInit }
  | .gitInit =>
    match (faults i).gitInit with
    | some e => { w.ret i (.error e) with inits := w.inits + 1 }
    | none => { w.ret i (.ok true) with node := .dir true, inits := w.inits + 1 }
  | .unlock r =>
    { w with holder := none, pcs := update w.pcs i (.done r), returned := w.returned ++ [r] }
  | .done _ => w

/-- A run: the threads step in the order of the schedule. -/
def run (faults : Nat → Faults) (w : World) (sched : List Nat) : World :=
  sched.foldl (step faults) w

/-! ### The invariant -/

/-- What every run from `SaBuilder.Git.Locked.World.init` keeps. -/
structure Inv (w : World) : Prop where
  /-- Mutual exclusion: a thread between `Lock()` and `Unlock()` holds the lock. -/
  holds : ∀ i, (w.pcs i).Critical → w.holder = some i
  /-- `MkdirAll` runs on an absent path. -/
  mkdir : ∀ i, w.pcs i = .mkdirAll → w.node = .absent
  /-- `git init` runs in a fresh directory, and has not run before. -/
  init : ∀ i, w.pcs i = .gitInit → w.node = .dir false ∧ w.inits = 0
  inits_le : w.inits ≤ 1
  absent : w.node = .absent → w.inits = 0
  /-- A call that has created the repository has left an initialized one. -/
  created : (.ok true ∈ w.returned ∨ ∃ i, w.pcs i = .unlock (.ok true)) → w.node = .dir true
  /-- After a creation has returned, every call about to return reports an
  existing repository. -/
  later : .ok true ∈ w.returned → ∀ i r, w.pcs i = .unlock r → r = .ok false
  /-- After a creation, the calls that returned reported an existing repository. -/
  log : ∀ pre post, w.returned = pre ++ .ok true :: post → ∀ r ∈ post, r = .ok false

theorem Inv.initial : Inv World.init where
  holds _ h := h.elim
  mkdir _ h := Pc.noConfusion h
  init _ h := Pc.noConfusion h
  inits_le := Nat.zero_le 1
  absent _ := rfl
  created h := by simp [World.init] at h
  later h := by simp [World.init] at h
  log pre post h := by simp [World.init] at h

variable {faults : Nat → Faults} {w : World} {i : Nat}

/-- Two threads holding the lock are one. -/
theorem Inv.unique (hw : Inv w) {j : Nat} (hi : (w.pcs i).Critical) (hj : (w.pcs j).Critical) :
    j = i :=
  Option.some.inj ((hw.holds j hj).symm.trans (hw.holds i hi))

/-- A thread's point before an update at `i` to another point. -/
theorem eq_of_update_eq {f : Nat → Pc} {v x : Pc} {j : Nat} (h : update f i v j = x)
    (hv : v ≠ x) : f j = x := by
  by_cases hj : j = i
  · subst hj
    exact absurd (by simpa using h) hv
  · rwa [update_noteq hj] at h

/-- No thread but `i` at `x` after an update of `i` to another point. -/
theorem exists_of_update_eq {f : Nat → Pc} {v x : Pc} (h : ∃ j, update f i v j = x)
    (hv : v ≠ x) : ∃ j, f j = x :=
  h.imp fun _ hj => eq_of_update_eq hj hv

/-- Taking the free lock. -/
theorem Inv.acquire (hw : Inv w) (hh : w.holder = none) :
    Inv { w with holder := some i, pcs := update w.pcs i .stat } where
  holds j hj := by
    by_cases h : j = i
    · simp [h]
    · simp only [update_noteq h] at hj
      simp [hw.holds j hj] at hh
  mkdir j hj := hw.mkdir j (eq_of_update_eq hj (by simp))
  init j hj := hw.init j (eq_of_update_eq hj (by simp))
  inits_le := hw.inits_le
  absent := hw.absent
  created h := hw.created (h.imp id fun h => exists_of_update_eq h (by simp))
  later h j r hj := hw.later h j r (eq_of_update_eq hj (by simp))
  log := hw.log

/-- The holder moving to another point of the section. -/
theorem Inv.holds_update (hw : Inv w) (hi : (w.pcs i).Critical) (v : Pc) :
    ∀ j, (update w.pcs i v j).Critical → w.holder = some j := by
  intro j hj
  by_cases h : j = i
  · exact h ▸ hw.holds i hi
  · exact hw.holds j (by rwa [update_noteq h] at hj)

/-- No thread but the holder is at a point of the section. -/
theorem Inv.eq_of_update_critical (hw : Inv w) (hi : (w.pcs i).Critical) {v x : Pc} {j : Nat}
    (hj : update w.pcs i v j = x) (hx : x.Critical) : j = i := by
  by_contra h
  rw [update_noteq h] at hj
  exact h (hw.unique hi (hj ▸ hx))

/-- `Stat` finds an absent path: on to `MkdirAll`. -/
theorem Inv.toMkdir (hw : Inv w) (hs : w.pcs i = .stat) (hn : w.node = .absent) :
    Inv { w with pcs := update w.pcs i .mkdirAll } where
  holds := hw.holds_update (hs ▸ trivial) _
  mkdir j hj := by
    by_cases h : j = i
    · exact hn
    · exact hw.mkdir j (by simpa [update_noteq h] using hj)
  init j hj := hw.init j (eq_of_update_eq hj (by simp))
  inits_le := hw.inits_le
  absent := hw.absent
  created h := hw.created (h.imp id fun h => exists_of_update_eq h (by simp))
  later h j r hj := hw.later h j r (eq_of_update_eq hj (by simp))
  log := hw.log

/-- The holder returns `r` from `Stat` or `MkdirAll`. -/
theorem Inv.ret (hw : Inv w) (hi : (w.pcs i).Critical) {r : Except String Bool}
    (hr : r ≠ .ok true) (hl : .ok true ∈ w.returned → r = .ok false) : Inv (w.ret i r) where
  holds := hw.holds_update hi _
  mkdir j hj := hw.mkdir j (eq_of_update_eq hj (by simp))
  init j hj := hw.init j (eq_of_update_eq hj (by simp))
  inits_le := hw.inits_le
  absent := hw.absent
  created h := hw.created (h.imp id fun h => exists_of_update_eq h (by simpa using hr))
  later h j r' hj := by
    by_cases hji : j = i
    · subst hji
      simp only [World.ret, update_same, Pc.unlock.injEq] at hj
      exact hj ▸ hl h
    · exact hw.later h j r' (by simpa [World.ret, update_noteq hji] using hj)
  log := hw.log

/-- `MkdirAll` succeeds: on to `git init`. -/
theorem Inv.mkdirOk (hw : Inv w) (hm : w.pcs i = .mkdirAll) :
    Inv { w with node := .dir false, pcs := update w.pcs i .gitInit } where
  holds := hw.holds_update (hm ▸ trivial) _
  mkdir j hj := by
    obtain rfl := hw.eq_of_update_critical (hm ▸ trivial) hj trivial
    simp at hj
  init j hj := by
    obtain rfl := hw.eq_of_update_critical (hm ▸ trivial) hj trivial
    exact ⟨rfl, hw.absent (hw.mkdir _ hm)⟩
  inits_le := hw.inits_le
  absent h := Node.noConfusion h
  created h := by
    have := hw.created (h.imp id fun h => exists_of_update_eq h (by simp))
    simp [hw.mkdir i hm] at this
  later h := by simpa [hw.mkdir i hm] using hw.created (.inl h)
  log := hw.log

/-- `git init` succeeds: the holder returns `true`. -/
theorem Inv.initOk (hw : Inv w) (hg : w.pcs i = .gitInit) :
    Inv { w.ret i (.ok true) with node := .dir true, inits := w.inits + 1 } where
  holds := hw.holds_update (hg ▸ trivial) _
  mkdir j hj := by
    obtain rfl := hw.eq_of_update_critical (hg ▸ trivial) hj trivial
    simp [World.ret] at hj
  init j hj := by
    obtain rfl := hw.eq_of_update_critical (hg ▸ trivial) hj trivial
    simp [World.ret] at hj
  inits_le := by simp [(hw.init i hg).2]
  absent h := Node.noConfusion h
  created _ := rfl
  later h := by simpa [(hw.init i hg).1] using hw.created (.inl h)
  log := hw.log

/-- `git init` fails: the holder returns its error, the directory stays. -/
theorem Inv.initErr (hw : Inv w) (hg : w.pcs i = .gitInit) (e : String) :
    Inv { w.ret i (.error e) with inits := w.inits + 1 } where
  holds := hw.holds_update (hg ▸ trivial) _
  mkdir j hj := by
    obtain rfl := hw.eq_of_update_critical (hg ▸ trivial) hj trivial
    simp [World.ret] at hj
  init j hj := by
    obtain rfl := hw.eq_of_update_critical (hg ▸ trivial) hj trivial
    simp [World.ret] at hj
  inits_le := by simp [(hw.init i hg).2]
  absent h := by simp [World.ret, (hw.init i hg).1] at h
  created h := by
    have := hw.created (h.imp id fun h => exists_of_update_eq h (by simp))
    simp [(hw.init i hg).1] at this
  later h := by simpa [(hw.init i hg).1] using hw.created (.inl h)
  log := hw.log

/-- The deferred `Unlock()`: the call returns, and the lock is free. -/
theorem Inv.unlock (hw : Inv w) {r : Except String Bool} (hu : w.pcs i = .unlock r) :
    Inv { w with
      holder := none, pcs := update w.pcs i (.done r), returned := w.returned ++ [r] } where
  holds j hj := by
    obtain rfl := hw.eq_of_update_critical (hu ▸ trivial) rfl hj
    simp [Pc.Critical] at hj
  mkdir j hj := hw.mkdir j (eq_of_update_eq hj (by simp))
  init j hj := hw.init j (eq_of_update_eq hj (by simp))
  inits_le := hw.inits_le
  absent := hw.absent
  created h := by
    rcases h with h | h
    · rcases List.mem_append.mp h with h | h
      · exact hw.created (.inl h)
      · exact hw.created (.inr ⟨i, by simpa [← List.mem_singleton.mp h] using hu⟩)
    · exact hw.created (.inr (exists_of_update_eq h (by simp)))
  later _ j r' hj := by
    obtain rfl := hw.eq_of_update_critical (hu ▸ trivial) hj trivial
    simp at hj
  log pre post h := by
    rcases List.eq_nil_or_concat post with rfl | ⟨L, b, rfl⟩
    · simp
    · have h' : w.returned ++ [r] = (pre ++ .ok true :: L) ++ [b] := by simpa using h
      obtain ⟨hl, hb⟩ := List.append_inj' h' rfl
      obtain rfl : r = b := List.singleton_inj.mp hb
      intro x hx
      rcases List.mem_append.mp (List.concat_eq_append L r ▸ hx) with hx | hx
      · exact hw.log pre L hl x hx
      · rw [List.mem_singleton.mp hx]
        exact hw.later (by simp [hl]) i r hu

/-- **One step keeps the invariant.** -/
theorem Inv.step (hw : Inv w) : Inv (Locked.step faults w i) := by
  unfold Locked.step
  split
  next =>
    split
    next hh => exact hw.acquire hh
    next => exact hw
  next hs =>
    have hi : (w.pcs i).Critical := hs ▸ trivial
    -- the path was a directory after a creation returned
    have hdir : .ok true ∈ w.returned → stat w.node = .ok true := fun h => by
      simp [hw.created (.inl h)]
    split
    next => exact hw.ret hi (by simp) fun _ => rfl
    next hn => exact hw.toMkdir hs (stat_eq_notExist.mp hn)
    next hn => exact hw.ret hi (by simp) fun h => by simp [hdir h] at hn
    next hn => exact hw.ret hi (by simp) fun h => by simp [hdir h] at hn
  next hm =>
    -- no creation has returned while the path is absent
    have hnone : .ok true ∈ w.returned → False := fun h => by
      simpa [hw.mkdir i hm] using hw.created (.inl h)
    split
    next => exact hw.ret (hm ▸ trivial) (by simp) fun h => (hnone h).elim
    next => exact hw.mkdirOk hm
  next hg =>
    split
    next e _ => exact hw.initErr hg e
    next => exact hw.initOk hg
  next hu => exact hw.unlock hu
  next => exact hw

/-- **Every run from the start keeps the invariant.** -/
theorem Inv.run (faults : Nat → Faults) (sched : List Nat) :
    Inv (run faults World.init sched) := by
  suffices ∀ w, Inv w → Inv (Locked.run faults w sched) from this _ Inv.initial
  induction sched with
  | nil => exact fun _ hw => hw
  | cons i sched ih => exact fun w hw => ih _ hw.step

/-! ### `git init` runs at most once -/

/-- **`git init --bare` runs at most once, and one call at most creates the
repository.** However many threads call `createRepo` on an absent path, whatever
their system calls return and however they interleave around `createLock`:
`git init --bare` has run at most once, no two calls have returned `(true, nil)`,
and once a call has returned `(true, nil)` the path holds the initialized
repository and every call that returned after it returned `(false, nil)`. -/
theorem createRepo_once (faults : Nat → Faults) (sched : List Nat) :
    let w := run faults World.init sched
    w.inits ≤ 1 ∧ (∀ pre mid post, w.returned ≠ pre ++ .ok true :: (mid ++ .ok true :: post)) ∧
      ∀ pre post, w.returned = pre ++ .ok true :: post →
        w.node = .dir true ∧ ∀ r ∈ post, r = .ok false := by
  have hw := Inv.run faults sched
  refine ⟨hw.inits_le, fun pre mid post h => ?_, fun pre post h =>
    ⟨hw.created (.inl (by simp [h])), hw.log pre post h⟩⟩
  simpa using hw.log pre _ h (.ok true) (by simp)

end Locked

end Git

end SaBuilder
