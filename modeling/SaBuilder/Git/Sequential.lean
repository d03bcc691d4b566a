import SaBuilder.Git.CreateLock

/-!
# Concurrent calls are calls one after the other

`createLock` is there to make `createRepo` atomic. This file proves that it does:
every run of the threads of `SaBuilder.Git.Locked` returns what a run of
`createRepo` calls one after the other returns (`SaBuilder.Git.runCalls`), the
calls being those of the threads that have returned, in the order they returned,
and while no thread holds the lock the path holds what that run of calls leaves
(`SaBuilder.Git.Locked.run_serial`).

The run of calls is built along the run of threads: the threads that have
returned, in order, and the path their calls leave, `n`. While a thread holds the
lock, where it is in its section says how far it has gone in its call on `n`
(`SaBuilder.Git.Locked.InSection`): at `Stat` the path is still `n`, at
`git init` the directory is made, and at the deferred `Unlock()` the path and the
result are those of `createRepo` on `n`.

The facts of runs of calls are then facts of concurrent runs: without a failed
`git init`, a repository reported is an initialized one
(`SaBuilder.Git.Locked.run_initialized`), and the failed `git init` of
`SaBuilder.Git.createRepo_reports_uninitialized_dir` is a run of calls the lock
does not prevent.
-/

namespace SaBuilder

namespace Git

namespace Locked

open Function

/-- How far the lock holder `i` has gone in its call on the path `n` it found. -/
def InSection (faults : Nat → Faults) (w : World) (i : Nat) (n : Node) : Prop :=
  match w.pcs i with
  | .stat => w.node = n
  | .mkdirAll => w.node = n ∧ n = .absent
  | .gitInit => w.node = .dir false ∧ n = .absent ∧ (faults i).mkdirAll = none
  | .unlock r => (w.node, r) = createRepo (faults i) n
  | _ => False

/-- The run so far is the run of the calls of the threads of `order`, which are
the threads that have returned, in the order they returned. -/
structure Serial (faults : Nat → Faults) (w : World) (order : List Nat) : Prop where
  nodup : order.Nodup
  done_iff : ∀ j, j ∈ order ↔ ∃ r, w.pcs j = .done r
  returned : w.returned = (runCalls .absent (order.map faults)).map Prod.snd
  free : w.holder = none → w.node = afterCalls .absent (order.map faults)
  held : ∀ i, w.holder = some i → InSection faults w i (afterCalls .absent (order.map faults))

variable {faults : Nat → Faults} {w : World} {order : List Nat} {i : Nat}

theorem Serial.initial : Serial faults World.init [] where
  nodup := List.nodup_nil
  done_iff j := by simp [World.init]
  returned := rfl
  free _ := rfl
  held _ h := Option.noConfusion h

/-- A thread in its section has not returned. -/
theorem not_done_of_critical {p : Pc} (hp : p.Critical) (r : Except String Bool) :
    p ≠ .done r := by
  rintro rfl
  exact hp

/-- The holder moves on in its section. -/
theorem Serial.within (hs : Serial faults w order) (hi : (w.pcs i).Critical) {w' : World} {v : Pc}
    (hpcs : w'.pcs = update w.pcs i v) (hv : v.Critical) (hh : w'.holder = some i)
    (hr : w'.returned = w.returned)
    (hsec : InSection faults w' i (afterCalls .absent (order.map faults))) :
    Serial faults w' order where
  nodup := hs.nodup
  done_iff j := by
    by_cases hj : j = i
    · subst hj
      simp only [hpcs, update_same]
      exact ⟨fun h => absurd ((hs.done_iff j).mp h) (by simpa using not_done_of_critical hi),
        fun ⟨r, h⟩ => absurd h (not_done_of_critical hv r)⟩
    · simp only [hpcs, update_noteq hj]
      exact hs.done_iff j
  returned := hr.trans hs.returned
  free h := by simp [hh] at h
  held j h := by
    obtain rfl : i = j := Option.some.inj (hh.symm.trans h)
    exact hsec

/-- A thread takes the free lock. -/
theorem Serial.acquire (hs : Serial faults w order) (hh : w.holder = none) (hl : w.pcs i = .lock) :
    Serial faults { w with holder := some i, pcs := update w.pcs i .stat } order where
  nodup := hs.nodup
  done_iff j := by
    by_cases hj : j = i
    · subst hj
      simp [(hs.done_iff j).not.mpr (by simp [hl])]
    · simpa [update_noteq hj] using hs.done_iff j
  returned := hs.returned
  free h := Option.noConfusion h
  held j h := by
    obtain rfl : i = j := Option.some.inj h
    simpa [InSection] using hs.free hh

/-- The holder returns: its call is the next of the run of calls. -/
theorem Serial.unlock (hw : Inv w) (hs : Serial faults w order) {r : Except String Bool}
    (hu : w.pcs i = .unlock r) :
    Serial faults
      { w with holder := none, pcs := update w.pcs i (.done r), returned := w.returned ++ [r] }
      (order ++ [i]) where
  nodup := by
    have hi : i ∉ order := (hs.done_iff i).not.mpr (by simp [hu])
    refine List.pairwise_append.mpr ⟨hs.nodup, List.pairwise_singleton _ _, fun a ha b hb => ?_⟩
    rintro rfl
    exact hi (List.mem_singleton.mp hb ▸ ha)
  done_iff j := by
    by_cases hj : j = i
    · subst hj
      simp
    · simpa [update_noteq hj, hj] using hs.done_iff j
  returned := by
    have hsec := hs.held i (hw.holds i (hu ▸ trivial))
    simp only [InSection, hu, Prod.ext_iff] at hsec
    simp [runCalls_append, hs.returned, hsec.2]
  free _ := by
    have hsec := hs.held i (hw.holds i (hu ▸ trivial))
    simp only [InSection, hu, Prod.ext_iff] at hsec
    simpa using hsec.1
  held _ h := Option.noConfusion h

/-- **One step keeps the run serial.** -/
theorem Serial.step (hw : Inv w) (hs : Serial faults w order) :
    ∃ order', Serial faults (Locked.step faults w i) order' := by
  unfold Locked.step
  split
  next hl =>
    split
    next hh => exact ⟨order, hs.acquire hh hl⟩
    next => exact ⟨order, hs⟩
  next hst =>
    have hi : (w.pcs i).Critical := hst ▸ trivial
    have hn := hs.held i (hw.holds i hi)
    simp only [InSection, hst] at hn
    split <;> rename_i h <;> refine ⟨order, hs.within hi rfl trivial (hw.holds i hi) rfl ?_⟩ <;>
      simp only [InSection, World.ret, update_same] <;> rw [← hn] <;> simp [createRepo, h]
    -- the path was absent: on to `MkdirAll`
    exact stat_eq_notExist.mp h
  next hm =>
    have hi : (w.pcs i).Critical := hm ▸ trivial
    obtain ⟨hn1, hn2⟩ : w.node = _ ∧ _ := by
      simpa only [InSection, hm] using hs.held i (hw.holds i hi)
    split <;> rename_i h <;> refine ⟨order, hs.within hi rfl trivial (hw.holds i hi) rfl ?_⟩ <;>
      simp only [InSection, World.ret, update_same] <;> rw [hn2] <;>
      simp [createRepo, stat, h, hn1, hn2]
  next hg =>
    have hi : (w.pcs i).Critical := hg ▸ trivial
    obtain ⟨hn1, hn2, hn3⟩ : w.node = _ ∧ _ ∧ _ := by
      simpa only [InSection, hg] using hs.held i (hw.holds i hi)
    split <;> rename_i h <;> refine ⟨order, hs.within hi rfl trivial (hw.holds i hi) rfl ?_⟩ <;>
      simp only [InSection, World.ret, update_same] <;> rw [hn2] <;>
      simp [createRepo, stat, h, hn1, hn3]
  next hu => exact ⟨order ++ [i], hs.unlock hw hu⟩
  next => exact ⟨order, hs⟩

/-- **Every run keeps a serial order.** -/
theorem Serial.run (hw : Inv w) (hs : Serial faults w order) (sched : List Nat) :
    ∃ order', Serial faults (Locked.run faults w sched) order' := by
  induction sched generalizing w order with
  | nil => exact ⟨order, hs⟩
  | cons i sched ih =>
    obtain ⟨order', hs'⟩ := @Serial.step faults w order i hw hs
    exact ih hw.step hs'

/-- **Every run is a run of calls.** However the threads interleave around
`createLock` and whatever their system calls return, the results of the calls
that have returned are those of a run of `createRepo` calls on the absent path,
the calls of those threads, each once, in the order they returned; and while no
thread holds the lock, the path holds what that run of calls leaves. -/
theorem run_serial (faults : Nat → Faults) (sched : List Nat) :
    let w := run faults World.init sched
    ∃ order : List Nat, order.Nodup ∧ (∀ j, j ∈ order ↔ ∃ r, w.pcs j = .done r) ∧
      w.returned = (runCalls .absent (order.map faults)).map Prod.snd ∧
      (w.holder = none → w.node = afterCalls .absent (order.map faults)) := by
  obtain ⟨order, hs⟩ := Serial.run Inv.initial Serial.initial sched
  exact ⟨order, hs.nodup, hs.done_iff, hs.returned, hs.free⟩

/-- **The sequential guarantee carries over.** When no thread's `git init` fails
after its `MkdirAll` succeeded, then in every run, once the lock is free and some
call has returned a nil error, the path holds an initialized repository. -/
theorem run_initialized (faults : Nat → Faults)
    (hf : ∀ i, (faults i).mkdirAll = none → (faults i).gitInit = none) (sched : List Nat)
    (hh : (run faults World.init sched).holder = none)
    (hb : ∃ b, .ok b ∈ (run faults World.init sched).returned) :
    (run faults World.init sched).node = .dir true := by
  obtain ⟨b, hb⟩ := hb
  obtain ⟨order, hs⟩ := @Serial.run faults _ _ Inv.initial Serial.initial sched
  rw [hs.free hh]
  refine afterCalls_initialized (.inl rfl) (fun f hm => ?_) ?_
  · obtain ⟨i, -, rfl⟩ := List.mem_map.mp hm
    exact hf i
  · rw [hs.returned] at hb
    obtain ⟨p, hp, hpb⟩ := List.mem_map.mp hb
    exact ⟨p, hp, b, hpb⟩

/-- Two threads whose system calls all succeed: thread `0` creates the
repository while thread `1` waits at `Lock()`, then thread `1` finds it. -/
theorem run_initialized_two :
    (∀ i, ((fun _ => ⟨none, none⟩ : Nat → Faults) i).mkdirAll = none →
        ((fun _ => ⟨none, none⟩ : Nat → Faults) i).gitInit = none) ∧
      (run (fun _ => ⟨none, none⟩) World.init [0, 1, 0, 0, 1, 0, 0, 1, 1, 1]).holder = none ∧
      (∃ b, .ok b ∈ (run (fun _ => ⟨none, none⟩) World.init [0, 1, 0, 0, 1, 0, 0, 1, 1, 1]).returned) ∧
      (run (fun _ => ⟨none, none⟩) World.init [0, 1, 0, 0, 1, 0, 0, 1, 1, 1]).node = .dir true :=
  have hh : (run (fun _ => ⟨none, none⟩) World.init [0, 1, 0, 0, 1, 0, 0, 1, 1, 1]).holder = none :=
    rfl
  have hb : ∃ b, .ok b ∈
      (run (fun _ => ⟨none, none⟩) World.init [0, 1, 0, 0, 1, 0, 0, 1, 1, 1]).returned :=
    ⟨true, List.Mem.head _⟩
  ⟨fun _ _ => rfl, hh, hb, run_initialized _ (fun _ _ => rfl) _ hh hb⟩

end Locked

end Git

end SaBuilder
