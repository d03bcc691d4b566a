import SaBuilder.Git.CreateRepo
import SaBuilder.Git.RepoName
import SaBuilder.Sshd.Keys

/-!
# `Receive`

`Receive` is what the SSH server runs for a push. Up to the point where it hands
the push to `git-shell`, it decides everything itself, from its parameters and
from what its library calls return:

1. it checks that the `channel` and `request` parameters are there;
2. it computes the authorized key's fingerprint, for a log line;
3. it cleans the requested name and joins `REPO.git` to the git home; a name it
   rejects is also reported to the client, as `No repo given` on the channel's
   standard error;
4. it creates the repository there (`SaBuilder.Git.createRepo`);
5. it writes the pre-receive hook in the repository's `hooks` directory;
6. it builds the `git-shell` command and its environment, computing the
   fingerprint a second time for `RECEIVE_FINGERPRINT`;
7. it starts the command, copies the channel into its standard input and waits
   for it (`SaBuilder.Git.runGitShell`).

What the process does with the bytes is its own; the last step is modelled
through what its four library calls return and what the process wrote to its
standard error (`SaBuilder.Git.Shell`), and `SaBuilder.Git.receiveAll` is the
whole of `Receive`. The two calls of `Fingerprint` read the key file twice, so
they are two parameters: a panic in the second comes after the repository and
the hook are written. The state is the one the repository path holds,
`SaBuilder.Git.Node`; it is returned with what reached the channel's standard
error and with the outcome (`SaBuilder.Git.Outcome`), so that a panic shows
what the filesystem was left with.

The things proved are where the steps leave the request:

* `Receive` starts `git-shell` exactly when every step before succeeds
  (`SaBuilder.Git.receive_eq_exec`); the command quotes the repository name, and
  the name has no quote to end the quotation with
  (`SaBuilder.Git.receive_exec`);
* for a quote-free name and a non-empty git home, both the repository and the
  hook lie strictly inside the git home
  (`SaBuilder.Git.repoPath_hookPath_isProperDescendant`).
-/

namespace SaBuilder

namespace Git

open Strings

/-! ### The steps -/

/-- The parameters `Receive` reads, as the route gives them. -/
structure Params where
  /-- `repoName`, the path of the SSH command, `'/REPO.git'`. -/
  repoName : Option String
  /-- `operation`, e.g. `git-receive-pack`. -/
  operation : Option String
  /-- `gitHome`, by default `/home/git`. -/
  gitHome : Option String
  /-- Whether the `channel` parameter is set. -/
  channel : Bool
  /-- Whether the `request` parameter is set. -/
  request : Bool
  deriving DecidableEq, Repr

/-- The parameters `p.Requires("channel", "request")` finds missing. -/
def Params.missing (p : Params) : List String :=
  (if p.channel then [] else ["channel"]) ++ (if p.request then [] else ["request"])

/-- `fmt`'s `%q` of a list of strings: each quoted, in brackets. -/
def quoteList (z : List String) : String :=
  "[" ++ " ".intercalate (z.map fun s => "\"" ++ s ++ "\"") ++ "]"

/-- Where `createPreReceiveHook` writes the hook:
`filepath.Join(repoPath, "hooks", "pre-receive")`. -/
def hookPath (repoPath : String) : String :=
  Filepath.joinAll [repoPath, "hooks", "pre-receive"]

/-- `createPreReceiveHook` renders the hook template and writes it to
`hookPath repoPath`, which `ioutil.WriteFile` fails with `writeErr`, or not.
Rendering into a buffer cannot fail. -/
def createPreReceiveHook (repoPath : String) (writeErr : Option String) : Option String :=
  writeErr.map fun e => "Cannot write pre-receive hook to " ++ hookPath repoPath ++ " (" ++ e ++ ")"

/-- The fingerprint as `string(fp)`: its bytes are ASCII digits and colons. -/
def fingerprintString (fp : List UInt8) : String :=
  ⟨fp.map fun b => Char.ofNat b.toNat⟩

/-- The `git-shell` command `Receive` starts. -/
structure Exec where
  /-- `cmd.Args`. -/
  args : List String
  /-- `cmd.Dir`. -/
  dir : String
  /-- `cmd.Env`. -/
  env : List String
  deriving DecidableEq, Repr

/-- `fmt.Sprintf("%s '%s'", operation, repo)`: the command line `git-shell` is
given, with the repository quoted. -/
def shellCommand (operation repo : String) : String :=
  operation ++ " '" ++ repo ++ "'"

/-- What `Receive` leaves: what the repository path holds, what it wrote to the
channel's standard error, and how it ends, a panic or what it returns. -/
structure Outcome (α : Type) where
  node : Node
  stderr : String
  result : Except Panic α

/-- `Receive`, up to the start of `git-shell`. Its library calls are parameters:
`logFingerprint` and `envFingerprint` are what its two calls of
`sshd.Fingerprint()` return, the one for the log line and the one for
`RECEIVE_FINGERPRINT`; `faults` is what the system calls of `createRepo` return,
`hookErr` what writing the hook returns, `sshConnection` the context's
`SSH_CONNECTION` and `environ` what `os.Environ()` returns. -/
def receive (logFingerprint envFingerprint : Except Panic (List UInt8)) (faults : Faults)
    (hookErr sshConnection : Option String) (environ : List String) (p : Params)
    (node : Node) : Outcome (Except String Exec) :=
  if p.missing ≠ [] then ⟨node, "", .ok (.error ("Missing requirements " ++ quoteList p.missing))⟩
  else
    let repoName := p.repoName.getD ""
    let operation := p.operation.getD ""
    let gitHome := p.gitHome.getD "/home/git"
    match logFingerprint with
    | .error e => ⟨node, "", .error e⟩
    | .ok _ =>
      match cleanRepoName repoName with
      | .error e => ⟨node, "No repo given", .ok (.error e)⟩
      | .ok repo =>
        let repo := repo ++ ".git"
        let repoPath := Filepath.join gitHome repo
        match createRepo faults node with
        | (node, .error e) => ⟨node, "", .ok (.error ("Did not create new repo (" ++ e ++ ")"))⟩
        | (node, .ok _) =>
          match createPreReceiveHook repoPath hookErr with
          | some e => ⟨node, "", .ok (.error ("Did not write pre-receive hook (" ++ e ++ ")"))⟩
          | none =>
            match envFingerprint with
            | .error e => ⟨node, "", .error e⟩
            | .ok fp =>
              ⟨node, "", .ok (.ok
                { args := ["git-shell", "-c", shellCommand operation repo]
                  dir := gitHome
                  env := ["RECEIVE_USER=builder", "RECEIVE_REPO=" ++ repo,
                    "RECEIVE_FINGERPRINT=" ++ fingerprintString fp,
                    "SSH_ORIGINAL_COMMAND=" ++ shellCommand operation repo,
                    "SSH_CONNECTION=" ++ sshConnection.getD "0 0 0 0"] ++ environ })⟩

/-! ### Where the steps leave a request -/

section Reach

variable {logFingerprint envFingerprint : Except Panic (List UInt8)} {faults : Faults}
  {hookErr sshConnection : Option String} {environ : List String} {p : Params} {node : Node}

/-- **The command `Receive` reaches**: it starts `git-shell` exactly when the
requirements are there, both fingerprints are computed, the name is accepted,
`createRepo` returns no error and the hook is written; the command is then
`git-shell -c "OPERATION 'REPO.git'"` in the git home. -/
theorem receive_eq_exec {ex : Exec} :
    (receive logFingerprint envFingerprint faults hookErr sshConnection environ p node).result =
        .ok (.ok ex) ↔
      p.missing = [] ∧ ∃ fp' fp repo b, logFingerprint = .ok fp' ∧ envFingerprint = .ok fp ∧
        cleanRepoName (p.repoName.getD "") = .ok repo ∧ (createRepo faults node).2 = .ok b ∧
        hookErr = none ∧
        ex = { args := ["git-shell", "-c", shellCommand (p.operation.getD "") (repo ++ ".git")]
               dir := p.gitHome.getD "/home/git"
               env := ["RECEIVE_USER=builder", "RECEIVE_REPO=" ++ (repo ++ ".git"),
                 "RECEIVE_FINGERPRINT=" ++ fingerprintString fp,
                 "SSH_ORIGINAL_COMMAND=" ++ shellCommand (p.operation.getD "") (repo ++ ".git"),
                 "SSH_CONNECTION=" ++ sshConnection.getD "0 0 0 0"] ++ environ } := by
  unfold receive
  by_cases hm : p.missing = []
  · simp only [hm, ne_eq, not_true_eq_false, if_false, true_and]
    rcases logFingerprint with e | fp'
    · simp
    rcases hc : cleanRepoName (p.repoName.getD "") with e | repo
    · simp
    rcases hr : createRepo faults node with ⟨n', e | b⟩
    · simp
    rcases hookErr with _ | e
    · rcases envFingerprint with e | fp <;> simp [createPreReceiveHook, eq_comm]
    · simp [createPreReceiveHook]
  · simp [hm]

/-- **The repository name cannot end the quotation**: the command `Receive`
starts is the operation and the quoted repository, and the repository has no
quote character. -/
theorem receive_exec {ex : Exec}
    (h : (receive logFingerprint envFingerprint faults hookErr sshConnection environ p
      node).result = .ok (.ok ex)) :
    ∃ repo, ex.args = ["git-shell", "-c", shellCommand (p.operation.getD "") repo] ∧
      '\'' ∉ repo.data := by
  obtain ⟨-, -, fp, repo, b, -, -, hc, -, -, rfl⟩ := receive_eq_exec.mp h
  exact ⟨repo ++ ".git", rfl, by simpa using quote_not_mem_cleanRepoName hc⟩

/-- A push of `/demo.git` with a fresh repository path. -/
theorem receive_exec_demo :
    let ex : Exec := ⟨["git-shell", "-c", "git-receive-pack 'demo.git'"], "/home/git",
      ["RECEIVE_USER=builder", "RECEIVE_REPO=demo.git", "RECEIVE_FINGERPRINT=",
        "SSH_ORIGINAL_COMMAND=git-receive-pack 'demo.git'", "SSH_CONNECTION=0 0 0 0"]⟩
    (receive (.ok []) (.ok []) ⟨none, none⟩ none none []
        ⟨some "/demo.git", some "git-receive-pack", none, true, true⟩ .absent).result =
        .ok (.ok ex) ∧
      ∃ repo, ex.args = ["git-shell", "-c", shellCommand "git-receive-pack" repo] ∧
        '\'' ∉ repo.data :=
  ⟨rfl, @receive_exec (.ok []) (.ok []) ⟨none, none⟩ none none []
    ⟨some "/demo.git", some "git-receive-pack", none, true, true⟩ .absent _ rfl⟩

end Reach

/-! ### The process -/

/-- What `Receive` sees of the `git-shell` process and of the pipes around it:
the error of each library call it makes, if any, and what `errbuff`, the copy of
the process's standard error, holds when `Receive` reads it. -/
structure Shell where
  /-- `cmd.StdinPipe()`. -/
  stdinPipe : Option String
  /-- `cmd.Start()`. -/
  start : Option String
  /-- `io.Copy(inpipe, channel)`: the pack data from the client into the process. -/
  copy : Option String
  /-- `cmd.Wait()`: a non-zero exit status included. -/
  wait : Option String
  /-- `errbuff.Bytes()`. -/
  errbuff : String
  deriving DecidableEq, Repr

/-- What the process writes to the channel's standard error: `cmd.Stderr`, set
once the pipe is made, copies to the channel what it copies to `errbuff`. -/
def Shell.channelStderr (s : Shell) : String :=
  match s.stdinPipe with
  | some _ => ""
  | none => s.errbuff

/-- `Receive` from `cmd.StdinPipe()` on: the error it returns, if any. The pipe's
error is returned as it is; the others are wrapped, those of `Start` and `Wait`
with what the process wrote to its standard error. A successful run with a
non-empty `errbuff` is only logged. -/
def runGitShell (s : Shell) : Option String :=
  match s.stdinPipe with
  | some e => some e
  | none =>
    match s.start with
    | some e => some ("Failed to start git pre-receive hook: " ++ e ++ " (" ++ s.errbuff ++ ")")
    | none =>
      match s.copy with
      | some e => some ("Failed to write git objects into the git pre-receive hook (" ++ e ++ ")")
      | none =>
        match s.wait with
        | some e => some ("Failed to run git pre-receive hook: " ++ s.errbuff ++ " (" ++ e ++ ")")
        | none => none

/-- `Receive`, whole: the steps up to `git-shell`, then the process, which
`shell` describes for the command started. -/
def receiveAll (logFingerprint envFingerprint : Except Panic (List UInt8)) (faults : Faults)
    (hookErr sshConnection : Option String) (environ : List String) (shell : Exec → Shell)
    (p : Params) (node : Node) : Outcome (Option String) :=
  let r := receive logFingerprint envFingerprint faults hookErr sshConnection environ p node
  match r.result with
  | .error e => ⟨r.node, r.stderr, .error e⟩
  | .ok (.error e) => ⟨r.node, r.stderr, .ok (some e)⟩
  | .ok (.ok ex) => ⟨r.node, r.stderr ++ (shell ex).channelStderr, .ok (runGitShell (shell ex))⟩

/-- `checkIfAllowed(app, validApps)`: whether the application is one of the
allowed ones. No modelled function calls it. -/
def checkIfAllowed (app : String) : List String → Bool
  | [] => false
  | validApp :: rest => if validApp = app then true else checkIfAllowed app rest

theorem checkIfAllowed_iff (app : String) (validApps : List String) :
    checkIfAllowed app validApps = true ↔ app ∈ validApps := by
  induction validApps with
  | nil => simp [checkIfAllowed]
  | cons v rest ih => by_cases h : v = app <;> simp [checkIfAllowed, h, ih, Ne.symm]

/-- **What `Receive` writes stays under the git home**: for a non-empty git home
and a requested name with no quote, the repository `Receive` creates and the
pre-receive hook it writes in it are strictly inside the git home. -/
theorem repoPath_hookPath_isProperDescendant {gitHome name dir : String} (hg : gitHome ≠ "")
    (hq : '\'' ∉ name.data) (h : repoPath gitHome name = .ok dir) :
    Filepath.IsProperDescendant gitHome dir ∧
      Filepath.IsProperDescendant gitHome (hookPath dir) := by
  have hrepo := repoPath_isProperDescendant hg hq h
  have hhook : Filepath.IsProperDescendant dir (hookPath dir) := by
    rw [hookPath, Filepath.joinAll_cons hrepo.ne_empty (List.cons_ne_nil _ _)]
    exact Filepath.join_isProperDescendant hrepo.ne_empty (by decide) ⟨"hooks", by decide⟩
  exact ⟨hrepo, hrepo.trans hhook⟩

theorem repoPath_hookPath_isProperDescendant_demo :
    ("/home/git" ≠ "" ∧ '\'' ∉ "demo".data ∧ repoPath "/home/git" "demo" = .ok "/home/git/demo.git") ∧
      Filepath.IsProperDescendant "/home/git" "/home/git/demo.git" ∧
      Filepath.IsProperDescendant "/home/git" (hookPath "/home/git/demo.git") :=
  ⟨⟨by decide, by decide, rfl⟩, @repoPath_hookPath_isProperDescendant "/home/git" "demo"
    "/home/git/demo.git" (by decide) (by decide) rfl⟩

end Git

end SaBuilder
