import SaBuilder.Sshd.Auth

/-!
# Concurrent handshakes on one context

Every connection runs its own `PublicKeyCallback`, and every callback works on the
one context `Configure` captured. One invocation is four steps on that context:
put the metadata, put the key, run the route `pubkeyAuth` (which reads `key` and
writes `pubkeyAuth`), and get `pubkeyAuth`. Taking each step as atomic, a run of
several connections is a schedule, the list of the invocations that step, one
after the other (`SaBuilder.Sshd.Handshakes.run`).

The callback itself is the route step followed by the get step, on the context
holding the connection's metadata and key
(`SaBuilder.Sshd.Handshakes.publicKeyCallback_eq_routeStep`). Interleaved, the
steps of several invocations are not the callbacks: the route reads whatever key
was put last, whichever connection put it
(`SaBuilder.Sshd.Handshakes.routeStep_put_key`), and the final get reads whatever
permission was stored last. Two connections, the first presenting a key that is
not the authorized one and the second the authorized key, put their keys one
after the other; the first connection's route then runs on the second's key, and
the first connection is accepted with the permission of the user `builder`,
where alone it would not have been
(`SaBuilder.Sshd.Handshakes.interleaving_accepts_other_key`). What a schedule can
and cannot do in general, for any number of connections, is the subject of
`SaBuilder.Sshd.Handshakes.Sound` and the results after it.
-/

namespace SaBuilder

namespace Sshd

namespace Handshakes

/-- Where one invocation of the callback is. -/
inductive Pc where
  | putMetadata : Pc
  | putKey : Pc
  | route : Pc
  /-- The route has run and returned `err`; the permission is still to be read. -/
  | get (err : Option String) : Pc
  /-- The invocation has returned, or panicked. -/
  | done (r : Except Panic (Permissions × Option String)) : Pc

/-- One invocation of the callback: the connection's metadata and key, and where
it is. -/
structure Invocation where
  meta : ConnMetadata
  key : PublicKey
  pc : Pc

/-- The shared context and the invocations running on it. -/
structure World where
  ctx : Context
  invs : List Invocation

variable (rs : String → Option (List Cmd))

/-- The route step: read the route's name and run it on the context. -/
def routeStep (c : Context) : Except Panic (Context × Option String) := do
  let pubkeyAuth ← assertString (c.get "route.sshd.pubkeyAuth" (.str "pubkeyAuth"))
  handleRequest rs pubkeyAuth c

/-- The get step: what the callback returns, read from the context. -/
def getStep (c : Context) (err : Option String) : Except Panic (Permissions × Option String) := do
  let perm ← assertPermissions (c.get "pubkeyAuth" (.perm ⟨[]⟩))
  return (perm, err)

/-- The next atomic step of one invocation, on the shared context. -/
def stepInv (c : Context) (inv : Invocation) : Context × Invocation :=
  match inv.pc with
  | .putMetadata => (c.put "metadata" (.metadata inv.meta), { inv with pc := .putKey })
  | .putKey => (c.put "key" (.key inv.key), { inv with pc := .route })
  | .route =>
    match routeStep rs c with
    | .ok (c', err) => (c', { inv with pc := .get err })
    | .error p => (c, { inv with pc := .done (.error p) })
  | .get err => (c, { inv with pc := .done (getStep c err) })
  | .done _ => (c, inv)

/-- Invocation `i` takes its next step; an index with no invocation changes
nothing. -/
def step (w : World) (i : Nat) : World :=
  match w.invs[i]? with
  | some inv =>
    let (c, inv') := stepInv rs w.ctx inv
    { ctx := c, invs := w.invs.set i inv' }
  | none => w

/-- A run: the invocations step in the order of the schedule. -/
def run (w : World) (sched : List Nat) : World :=
  sched.foldl (step rs) w

/-- The result of an invocation that has returned. -/
def Invocation.result (inv : Invocation) : Option (Except Panic (Permissions × Option String)) :=
  match inv.pc with
  | .done r => some r
  | _ => none

/-! ### The steps and the callback -/

/-- The callback is the route step followed by the get step, on the context
holding the connection's metadata and key. -/
theorem publicKeyCallback_eq_routeStep (c : Context) (m : ConnMetadata) (k : PublicKey) :
    publicKeyCallback rs c m k =
      routeStep rs ((c.put "metadata" (.metadata m)).put "key" (.key k)) >>= fun r =>
        (fun pe => (r.1, pe)) <$> getStep r.1 r.2 := by
  simp only [publicKeyCallback, routeStep, getStep, bind_assoc, map_bind, map_pure]

/-- The route reads the key the context holds, whichever invocation put it. -/
theorem routeStep_put_key {parseAuthorizedKey : List UInt8 → Except String PublicKey}
    {file : Option (List UInt8)} {a : PublicKey} (h : parseAuthorizedKey (readFile file) = .ok a)
    {c : Context} (hc : DefaultRoute c) (k : PublicKey) :
    routeStep (routes parseAuthorizedKey file) (c.put "key" (.key k)) =
      .ok ((c.put "key" (.key k)).put "pubkeyAuth"
        (if k.type = a.type ∧ k.marshal = a.marshal then .perm builderPermissions else .nil),
        none) := by
  have hc' := hc.put "key" (.key k) (by decide)
  simp only [DefaultRoute, Context.get_eq] at hc'
  simp only [routeStep, Context.get_eq, hc', assertString, except_bind_ok]
  exact handleRequest_pubkeyAuth parseAuthorizedKey h c k

/-- A run of two schedules is the second run after the first. -/
theorem run_append (w : World) (s t : List Nat) : run rs w (s ++ t) = run rs (run rs w s) t :=
  List.foldl_append _ _ _ _

/-! ### Two connections -/

/-- The authorized key of the example, and the key file's parser that yields it. -/
def rsaKey : PublicKey := ⟨"ssh-rsa", [1, 2, 3]⟩

/-- A key that is not the authorized one. -/
def edKey : PublicKey := ⟨"ssh-ed25519", [4, 5, 6]⟩

/-- The routes of a server whose key file holds `rsaKey`. -/
def rsaRoutes : String → Option (List Cmd) :=
  routes (fun _ => .ok rsaKey) none

/-- Two connections on a fresh context: the first presents `edKey`, the second
the authorized `rsaKey`. -/
def twoConnections : World :=
  ⟨fun _ => none,
    [⟨⟨"mallory"⟩, edKey, .putMetadata⟩, ⟨⟨"git"⟩, rsaKey, .putMetadata⟩]⟩

/-- **A connection is accepted on another connection's key.** When the second
connection puts its key between the first connection's put and route, the first
connection returns the permission of `builder` and a nil error; run alone, the
same call on the same context panics. -/
theorem interleaving_accepts_other_key :
    ((run rsaRoutes twoConnections [0, 0, 1, 1, 0, 0]).invs[0]?.bind Invocation.result) =
        some (.ok (builderPermissions, none)) ∧
      (publicKeyCallback rsaRoutes (fun _ => none) ⟨"mallory"⟩ edKey).map (·.2) =
        .error (.interfaceConversion "*ssh.Permissions") :=
  ⟨rfl, rfl⟩

end Handshakes

end Sshd

end SaBuilder
