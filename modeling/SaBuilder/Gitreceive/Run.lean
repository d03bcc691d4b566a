import SaBuilder.Gitreceive.ReadLine

/-!
# The hook's loop over the ref updates

`Run` is what the pre-receive hook runs. It obtains its clients, then reads the
hook's input line by line: each line is a ref update, and for each it calls
`receive` with the new revision and, when the SSH command was a
`git-receive-pack`, `build` with it. The first failure ends the run and is its
result. The variant of `Run` in the older `gitreceive` package has no `receive`
call and obtains only the cluster client.

`receive` and `build` are not among the source files; what they return is a
parameter, `SaBuilder.Gitreceive.Outcomes`, which may depend on every call made
before, so the results below hold for any pattern of failures. The model records
the calls in order (`SaBuilder.Gitreceive.Call`).

The law of the loop is a refinement: the loop is the composition of two stages,
`SaBuilder.Gitreceive.plan`, the calls the lines ask for, up to the first line
`readLine` rejects, and `SaBuilder.Gitreceive.execute`, which makes calls in
order until one fails (`SaBuilder.Gitreceive.hookLoop_eq_execute`): reading
the input and making the calls are separate, and the first failure of either
ends the run. So a run that returns nil has read every line and made the calls
of every ref update, none skipped (`SaBuilder.Gitreceive.run_eq_none_updates`).
-/

namespace SaBuilder

namespace Gitreceive

open Strings

/-- A call `Run` makes for a ref update. -/
inductive Call where
  | receive (newRev : String) : Call
  | build (newRev : String) : Call
  deriving DecidableEq, Repr

/-- What `receive` and `build` return: the error of a call, if any, given the
calls made before it. -/
def Outcomes := List Call → Call → Option String

/-- The configuration `Run` reads: the SSH command the push was made with. -/
structure Config where
  sshOriginalCommand : String

/-- `if err := call(...); err != nil { return err }`, then the rest `k`: the call
is recorded, and its error ends the run. -/
def perform (out : Outcomes) (log : List Call) (c : Call)
    (k : List Call → List Call × Option String) : List Call × Option String :=
  match out log c with
  | some e => (log ++ [c], some e)
  | none => k (log ++ [c])

/-- The loop of `Run` over the lines the scanner yields, then `scanner.Err()`:
the calls made, and what `Run` returns. `withReceive` tells the two versions of
`Run` apart. -/
def hookLoop (withReceive : Bool) (conf : Config) (out : Outcomes) (scanErr : Option String) :
    List String → List Call → List Call × Option String
  | [], log => (log, scanErr)
  | line :: rest, log =>
    match readLine line with
    | .error e => (log, some ("reading STDIN (" ++ e ++ ")"))
    | .ok (_, newRev, _) =>
      let build : List Call → List Call × Option String := fun log =>
        if hasPrefix conf.sshOriginalCommand "git-receive-pack" then
          perform out log (.build newRev) (hookLoop withReceive conf out scanErr rest)
        else hookLoop withReceive conf out scanErr rest log
      if withReceive then perform out log (.receive newRev) build else build log

/-- `Run` (package `gitreceive`): the builder key, the S3 client and the cluster
client, each of which may fail, then the loop. -/
def run (conf : Config) (getBuilderKey getClient newInCluster : Option String) (out : Outcomes)
    (lines : List String) (scanErr : Option String) : List Call × Option String :=
  match getBuilderKey, getClient, newInCluster with
  | some e, _, _ => ([], some e)
  | none, some e, _ => ([], some ("configuring S3 client (" ++ e ++ ")"))
  | none, none, some e => ([], some ("couldn't reach the api server (" ++ e ++ ")"))
  | none, none, none => hookLoop true conf out scanErr lines []

namespace Legacy

/-- `Run` (the older version): the cluster client, then the loop without the
`receive` call. -/
def run (conf : Config) (newInCluster : Option String) (out : Outcomes) (lines : List String)
    (scanErr : Option String) : List Call × Option String :=
  match newInCluster with
  | some e => ([], some ("couldn't reach the api server (" ++ e ++ ")"))
  | none => hookLoop false conf out scanErr lines []

end Legacy

/-! ### The two stages -/

/-- The calls for one accepted ref update: `receive`, then `build` when the
command is a `git-receive-pack`. -/
def lineCalls (withReceive build : Bool) (newRev : String) : List Call :=
  (if withReceive then [.receive newRev] else []) ++ (if build then [.build newRev] else [])

/-- The calls the lines ask for, up to the first line `readLine` rejects, and how
the run ends if every call succeeds: the rejection, or the scanner's error. -/
def plan (withReceive build : Bool) (scanErr : Option String) :
    List String → List Call × Option String
  | [] => ([], scanErr)
  | line :: rest =>
    match readLine line with
    | .error e => ([], some ("reading STDIN (" ++ e ++ ")"))
    | .ok (_, newRev, _) =>
      ((lineCalls withReceive build newRev ++ (plan withReceive build scanErr rest).1),
        (plan withReceive build scanErr rest).2)

/-- The calls made in order until one fails: the calls made, and the first
error, or `fin` when none fails. -/
def execute (out : Outcomes) (log : List Call) :
    List Call → Option String → List Call × Option String
  | [], fin => (log, fin)
  | c :: cs, fin => perform out log c fun log => execute out log cs fin

/-- Every call succeeds, made in order after `log`. -/
def AllSucceed (out : Outcomes) : List Call → List Call → Prop
  | _, [] => True
  | log, c :: cs => out log c = none ∧ AllSucceed out (log ++ [c]) cs

/-- The run ends without error exactly when every call succeeds and the plan
ends without error. -/
theorem execute_eq_none_iff (out : Outcomes) (log cs : List Call) (fin : Option String) :
    (execute out log cs fin).2 = none ↔ AllSucceed out log cs ∧ fin = none := by
  induction cs generalizing log with
  | nil => simp [execute, AllSucceed]
  | cons c cs ih =>
    simp only [execute, perform, AllSucceed]
    cases out log c <;> simp [ih]

/-- The calls made are the first calls of the plan, in its order. -/
theorem execute_prefix (out : Outcomes) (log cs : List Call) (fin : Option String) :
    (execute out log cs fin).1 <+: log ++ cs := by
  induction cs generalizing log with
  | nil => simp [execute]
  | cons c cs ih =>
    simp only [execute, perform]
    cases out log c
    · simpa using ih (log ++ [c])
    · exact ⟨cs, by simp⟩

/-- The plan ends without error exactly when every line is accepted and the
scanner ends without error. -/
theorem plan_eq_none_iff (withReceive build : Bool) (scanErr : Option String)
    (lines : List String) :
    (plan withReceive build scanErr lines).2 = none ↔
      (∀ l ∈ lines, ∃ t, readLine l = .ok t) ∧ scanErr = none := by
  induction lines with
  | nil => simp [plan]
  | cons line rest ih =>
    simp only [plan, List.forall_mem_cons]
    cases h : readLine line <;> simp [h, ih, and_assoc]

/-- **The loop is the plan, executed.** -/
theorem hookLoop_eq_execute (withReceive : Bool) (conf : Config) (out : Outcomes)
    (scanErr : Option String) (lines : List String) (log : List Call) :
    hookLoop withReceive conf out scanErr lines log =
      execute out log
        (plan withReceive (hasPrefix conf.sshOriginalCommand "git-receive-pack") scanErr lines).1
        (plan withReceive (hasPrefix conf.sshOriginalCommand "git-receive-pack") scanErr lines).2 := by
  induction lines generalizing log with
  | nil => rfl
  | cons line rest ih =>
    simp only [hookLoop, plan]
    cases readLine line with
    | error e => rfl
    | ok t =>
      cases withReceive <;> cases hp : hasPrefix conf.sshOriginalCommand "git-receive-pack" <;>
        simp [lineCalls, execute, funext ih, hp]

/-- **`Run` processes the ref updates in order, and stops at the first
failure.** Once the clients are obtained, each version of `Run` makes the calls
of `SaBuilder.Gitreceive.plan` – for each line `readLine` accepts, `receive` on
its new revision (in the current version), then `build` on it when the command
starts with `git-receive-pack`, up to the first rejected line – in that order,
until one fails: the calls it makes are the first calls of the plan. It returns
nil exactly when every line is accepted, the scanner ends without error, and
every call succeeds. -/
theorem run_processes_lines_in_order (conf : Config) (out : Outcomes) (lines : List String)
    (scanErr : Option String) :
    let gp := hasPrefix conf.sshOriginalCommand "git-receive-pack"
    let r := run conf none none none out lines scanErr
    let r' := Legacy.run conf none out lines scanErr
    (r = execute out [] (plan true gp scanErr lines).1 (plan true gp scanErr lines).2 ∧
      r.1 <+: (plan true gp scanErr lines).1 ∧
      (r.2 = none ↔ (∀ l ∈ lines, ∃ t, readLine l = .ok t) ∧ scanErr = none ∧
        AllSucceed out [] (plan true gp scanErr lines).1)) ∧
    (r' = execute out [] (plan false gp scanErr lines).1 (plan false gp scanErr lines).2 ∧
      r'.1 <+: (plan false gp scanErr lines).1 ∧
      (r'.2 = none ↔ (∀ l ∈ lines, ∃ t, readLine l = .ok t) ∧ scanErr = none ∧
        AllSucceed out [] (plan false gp scanErr lines).1)) := by
  simp only [run, Legacy.run, hookLoop_eq_execute, execute_eq_none_iff, plan_eq_none_iff]
  refine ⟨⟨trivial, by simpa using execute_prefix .., by tauto⟩,
    ⟨trivial, by simpa using execute_prefix .., by tauto⟩⟩

/-! ### A run that succeeds -/

/-- When every call succeeds, all of them are made. -/
theorem execute_of_allSucceed {out : Outcomes} {log cs : List Call} (fin : Option String)
    (h : AllSucceed out log cs) : (execute out log cs fin).1 = log ++ cs := by
  induction cs generalizing log with
  | nil => simp [execute]
  | cons c cs ih =>
    obtain ⟨hc, hcs⟩ := h
    simpa [execute, perform, hc] using ih hcs

/-- A plan that ends without error reads every line, and its calls are those of
each line's update, in the order of the lines. -/
theorem plan_of_eq_none {withReceive build : Bool} {scanErr : Option String} {lines : List String}
    (h : (plan withReceive build scanErr lines).2 = none) :
    ∃ updates : List (String × String × String), lines.map readLine = updates.map .ok ∧
      (plan withReceive build scanErr lines).1 =
        updates.flatMap fun u => lineCalls withReceive build u.2.1 := by
  induction lines with
  | nil => exact ⟨[], rfl, rfl⟩
  | cons line rest ih =>
    rcases hl : readLine line with e | ⟨o, n, r⟩
    · simp [plan, hl] at h
    · simp only [plan, hl] at h ⊢
      obtain ⟨us, hus, hcalls⟩ := ih h
      exact ⟨(o, n, r) :: us, by simp [hl, hus], by simp [hcalls]⟩

/-- The loop, when it ends without error, has made the calls of every line. -/
theorem hookLoop_of_eq_none {withReceive : Bool} {conf : Config} {out : Outcomes}
    {scanErr : Option String} {lines : List String}
    (h : (hookLoop withReceive conf out scanErr lines []).2 = none) :
    ∃ updates : List (String × String × String), lines.map readLine = updates.map .ok ∧
      (hookLoop withReceive conf out scanErr lines []).1 = updates.flatMap fun u =>
        lineCalls withReceive (hasPrefix conf.sshOriginalCommand "git-receive-pack") u.2.1 := by
  rw [hookLoop_eq_execute] at h ⊢
  obtain ⟨hall, hfin⟩ := (execute_eq_none_iff ..).mp h
  rw [execute_of_allSucceed _ hall, List.nil_append]
  exact plan_of_eq_none hfin

/-- **A push that `Run` reports a success has been received and built whole.**
When `Run` returns nil, it obtained its three clients, `readLine` accepted every
line of the hook's input, and the calls it made are, for each ref update in the
order of the lines, `receive` on its new revision and then, when the command
starts with `git-receive-pack`, `build` on it: no update was skipped. -/
theorem run_eq_none_updates (conf : Config) (getBuilderKey getClient newInCluster : Option String)
    (out : Outcomes) (lines : List String) (scanErr : Option String)
    (h : (run conf getBuilderKey getClient newInCluster out lines scanErr).2 = none) :
    getBuilderKey = none ∧ getClient = none ∧ newInCluster = none ∧
      ∃ updates : List (String × String × String), lines.map readLine = updates.map .ok ∧
        (run conf getBuilderKey getClient newInCluster out lines scanErr).1 =
          updates.flatMap fun u =>
            .receive u.2.1 ::
              if hasPrefix conf.sshOriginalCommand "git-receive-pack" then [.build u.2.1] else [] := by
  match getBuilderKey, getClient, newInCluster, h with
  | none, none, none, h =>
    exact ⟨rfl, rfl, rfl, by
      simpa only [lineCalls, if_true, List.singleton_append] using hookLoop_of_eq_none h⟩
  | some _, _, _, h => nomatch h
  | none, some _, _, h => nomatch h
  | none, none, some _, h => nomatch h

/-- Two ref updates of a `git-receive-pack` whose calls all succeed. -/
theorem run_eq_none_updates_two :
    (run ⟨"git-receive-pack 'demo.git'"⟩ none none none (fun _ _ => none)
        ["0 1 refs/heads/main", "1 2 refs/heads/dev"] none).2 = none ∧
      none = (none : Option String) ∧ none = (none : Option String) ∧
      none = (none : Option String) ∧
      ∃ updates : List (String × String × String),
        ["0 1 refs/heads/main", "1 2 refs/heads/dev"].map readLine = updates.map .ok ∧
        (run ⟨"git-receive-pack 'demo.git'"⟩ none none none (fun _ _ => none)
            ["0 1 refs/heads/main", "1 2 refs/heads/dev"] none).1 =
          updates.flatMap fun u =>
            .receive u.2.1 ::
              if hasPrefix "git-receive-pack 'demo.git'" "git-receive-pack" then [.build u.2.1]
              else [] :=
  have h : (run ⟨"git-receive-pack 'demo.git'"⟩ none none none (fun _ _ => none)
      ["0 1 refs/heads/main", "1 2 refs/heads/dev"] none).2 = none := by decide
  ⟨h, run_eq_none_updates ⟨"git-receive-pack 'demo.git'"⟩ none none none (fun _ _ => none)
    ["0 1 refs/heads/main", "1 2 refs/heads/dev"] none h⟩

end Gitreceive

end SaBuilder
