import SaBuilder.Sshd.Interleaving

/-!
# What a schedule can and cannot change

The route an invocation runs reads whatever key the shared context holds, and
the permission it finally reads is whatever the last route stored, so a
connection can be told another connection's verdict. This file shows that this
is all a schedule can do, for every schedule of every number of connections:

* every invocation that returns returns what the callback, run alone, returns
  to one of the connections of the run, its own or another's
  (`SaBuilder.Sshd.Handshakes.run_result_mem_callbacks`). No schedule accepts a
  connection when no connection presents the authorized key, and none makes a
  connection panic when every connection presents it;
* an invocation whose four steps run back to back returns its own connection's
  callback result, whatever the other invocations do before and after it
  (`SaBuilder.Sshd.Handshakes.run_uninterrupted_result`);
* and the other way round, a connection presenting the authorized key that puts
  its key right before another connection's route and get lets that connection
  in, whatever key it presented and whatever else the schedule does
  (`SaBuilder.Sshd.Handshakes.run_accepts_after_authorized_put`).

The first is an invariant of runs, `SaBuilder.Sshd.Handshakes.Sound`: one step
lemma, for each point an invocation can be at, and its induction over the
schedule. The others rest on two frame facts – a step of one invocation leaves
every other invocation as it is, and an invocation that has returned stays
returned – and on where an invocation is after a schedule, which through its
two puts is how many times the schedule names it
(`SaBuilder.Sshd.Handshakes.getElem?_run_index`).
-/

namespace SaBuilder

namespace Sshd

namespace Handshakes

/-! ### Verdicts -/

/-- What the route `pubkeyAuth` stores for the key `k`, the key file holding `a`:
`AuthKey`'s result on `k`. -/
def authValue (a k : PublicKey) : Value :=
  if k.type = a.type ∧ k.marshal = a.marshal then .perm builderPermissions else .nil

/-- What an invocation returns once its route has stored `authValue a k`: the
permission of `builder` with a nil error, or the panic of its assertion. -/
def verdict (a k : PublicKey) : Except Panic (Permissions × Option String) :=
  (assertPermissions (authValue a k)).map fun p => (p, none)

/-- The invocations of a run's connections, none of them started. -/
def invocations (conns : List (ConnMetadata × PublicKey)) : List Invocation :=
  conns.map fun mk => ⟨mk.1, mk.2, .putMetadata⟩

theorem invocations_getElem? {conns : List (ConnMetadata × PublicKey)} {i : Nat}
    (hi : i < conns.length) :
    (invocations conns)[i]? = some ⟨conns[i].1, conns[i].2, .putMetadata⟩ := by
  simp [invocations, List.getElem?_eq_getElem hi]

/-- How many of its four steps an invocation has taken. -/
def Pc.index : Pc → Nat
  | .putMetadata => 0
  | .putKey => 1
  | .route => 2
  | .get _ => 3
  | .done _ => 4

theorem Pc.eq_putKey_of_index {pc : Pc} (h : pc.index = 1) : pc = .putKey := by
  cases pc <;> simp_all [Pc.index]

theorem Pc.eq_route_of_index {pc : Pc} (h : pc.index = 2) : pc = .route := by
  cases pc <;> simp_all [Pc.index]

section Steps

variable (rs : String → Option (List Cmd)) {w : World} {i j : Nat} {inv : Invocation}

theorem step_of_getElem? (hi : w.invs[i]? = some inv) :
    step rs w i = ⟨(stepInv rs w.ctx inv).1, w.invs.set i (stepInv rs w.ctx inv).2⟩ := by
  simp only [step, hi]

theorem step_set {l : List Invocation} (hlt : i < l.length) (c : Context) (inv : Invocation) :
    step rs ⟨c, l.set i inv⟩ i = ⟨(stepInv rs c inv).1, l.set i (stepInv rs c inv).2⟩ := by
  simp only [step, List.getElem?_set_self hlt, List.set_set]

theorem step_of_getElem?_none (hi : w.invs[i]? = none) : step rs w i = w := by
  simp only [step, hi]

/-- **Frame**: a step of one invocation leaves every other invocation as it is. -/
theorem getElem?_step_ne (hj : j ≠ i) : (step rs w j).invs[i]? = w.invs[i]? := by
  rcases hw : w.invs[j]? with _ | inv
  · rw [step_of_getElem?_none rs hw]
  · rw [step_of_getElem? rs hw, List.getElem?_set_ne hj]

theorem getElem?_run_of_not_mem {sched : List Nat} (hi : i ∉ sched) :
    (run rs w sched).invs[i]? = w.invs[i]? := by
  induction sched generalizing w with
  | nil => rfl
  | cons j sched ih =>
    rw [List.mem_cons, not_or] at hi
    rw [run, List.foldl_cons, ← run, ih hi.2, getElem?_step_ne rs (Ne.symm hi.1)]

/-- An invocation that has returned stays returned, through any schedule. -/
theorem getElem?_run_of_done {r : Except Panic (Permissions × Option String)}
    (hi : w.invs[i]? = some inv) (hpc : inv.pc = .done r) (sched : List Nat) :
    (run rs w sched).invs[i]? = some inv := by
  induction sched generalizing w with
  | nil => exact hi
  | cons j sched ih =>
    refine ih ?_
    by_cases hj : j = i
    · subst hj
      have hlt : j < w.invs.length := (List.getElem?_eq_some_iff.mp hi).1
      rw [step_of_getElem? rs hi, stepInv, hpc]
      exact List.getElem?_set_self hlt
    · rwa [getElem?_step_ne rs hj]

/-- A step keeps the invocation's connection, and takes it through its puts one
step at a time. -/
theorem stepInv_snd (c : Context) (inv : Invocation) :
    (stepInv rs c inv).2.meta = inv.meta ∧ (stepInv rs c inv).2.key = inv.key ∧
      (inv.pc.index < 2 → (stepInv rs c inv).2.pc.index = inv.pc.index + 1) := by
  rcases inv with ⟨m, k, _ | _ | _ | e | r⟩
  case route => simp only [stepInv]; split <;> simp [Pc.index]
  all_goals simp [stepInv, Pc.index]

/-- **Where an invocation is after a schedule**, through its two puts: its
connection unchanged, it has taken as many steps as the schedule names it. -/
theorem getElem?_run_index (hi : w.invs[i]? = some inv) (sched : List Nat)
    (hle : inv.pc.index + sched.count i ≤ 2) :
    ∃ inv', (run rs w sched).invs[i]? = some inv' ∧ inv'.meta = inv.meta ∧ inv'.key = inv.key ∧
      inv'.pc.index = inv.pc.index + sched.count i := by
  induction sched generalizing w inv with
  | nil => exact ⟨inv, hi, rfl, rfl, rfl⟩
  | cons j sched ih =>
    rw [run, List.foldl_cons, ← run]
    by_cases hj : j = i
    · subst hj
      rw [List.count_cons_self] at hle ⊢
      have hlt : j < w.invs.length := (List.getElem?_eq_some_iff.mp hi).1
      obtain ⟨hm, hk, hx⟩ := stepInv_snd rs w.ctx inv
      obtain ⟨inv', h', hm', hk', hx'⟩ := @ih (step rs w j) (stepInv rs w.ctx inv).2
        (by rw [step_of_getElem? rs hi]; exact List.getElem?_set_self hlt) (by omega)
      refine ⟨inv', h', hm'.trans hm, hk'.trans hk, ?_⟩
      rw [hx', hx (by omega)]
      omega
    · rw [List.count_cons_of_ne (Ne.symm hj)] at hle ⊢
      exact ih (by rwa [getElem?_step_ne rs hj]) hle

theorem result_eq_some {r : Except Panic (Permissions × Option String)}
    (h : inv.result = some r) : inv.pc = .done r := by
  cases hp : inv.pc <;> simp only [Invocation.result, hp, reduceCtorEq, Option.some.injEq] at h
  rw [h]

end Steps

section Verdicts

variable {parseAuthorizedKey : List UInt8 → Except String PublicKey}
  {file : Option (List UInt8)} {a : PublicKey}

/-- The route, on a context holding a key, stores `authValue` of that key. -/
theorem routeStep_of_key (h : parseAuthorizedKey (readFile file) = .ok a) {c : Context}
    (hc : DefaultRoute c) {k : PublicKey} (hk : c "key" = some (.key k)) :
    routeStep (routes parseAuthorizedKey file) c = .ok (c.put "pubkeyAuth" (authValue a k), none) := by
  have := routeStep_put_key h hc k
  rwa [Context.put_eq_self hk] at this

theorem getStep_of_auth {c : Context} {k : PublicKey} (hc : c "pubkeyAuth" = some (authValue a k)) :
    getStep c none = verdict a k := by
  simp only [getStep, Context.get_eq, hc, Option.getD_some, verdict]
  cases assertPermissions (authValue a k) <;> rfl

/-- The verdict on a key that matches the authorized one. -/
theorem verdict_of_match {k : PublicKey} (hk : k.type = a.type ∧ k.marshal = a.marshal) :
    verdict a k = .ok (builderPermissions, none) := by
  simp [verdict, authValue, hk, assertPermissions, Except.map]

/-- **The callback alone returns the verdict on its key**, whatever the context
it runs on, as long as that context names no other route. -/
theorem callback_verdict (h : parseAuthorizedKey (readFile file) = .ok a) {c : Context}
    (hc : DefaultRoute c) (m : ConnMetadata) (k : PublicKey) :
    (publicKeyCallback (routes parseAuthorizedKey file) c m k).map (·.2) = verdict a k := by
  have hm := hc.put "metadata" (.metadata m) (by decide)
  have hpair : ∀ (c' : Context) (x : Except Panic (Permissions × Option String)),
      Except.map (·.2) ((fun pe => (c', pe)) <$> x) = x := fun _ x => by cases x <;> rfl
  rw [publicKeyCallback_eq_routeStep, routeStep_put_key h hm k, except_bind_ok, hpair]
  exact getStep_of_auth (by simp [authValue])

end Verdicts

/-! ### Any schedule -/

section Sound

variable {a : PublicKey} {ks : List PublicKey}

/-- What a run keeps about one invocation, `ks` being the keys the connections
present: its own key is one of them; about to run its route, it finds one of
them in the context; about to read the permission, it finds what the route
stores for one of them, and no error; and once returned, it has returned the
verdict on one of them. -/
def Good (a : PublicKey) (ks : List PublicKey) (c : Context) (inv : Invocation) : Prop :=
  inv.key ∈ ks ∧
    match inv.pc with
    | .putMetadata => True
    | .putKey => True
    | .route => ∃ k ∈ ks, c "key" = some (.key k)
    | .get e => e = none ∧ ∃ k ∈ ks, c "pubkeyAuth" = some (authValue a k)
    | .done r => ∃ k ∈ ks, r = verdict a k

/-- **The invariant of runs**: the context names the route `pubkeyAuth`, and
every invocation is `SaBuilder.Sshd.Handshakes.Good`. -/
structure Sound (a : PublicKey) (ks : List PublicKey) (w : World) : Prop where
  route : DefaultRoute w.ctx
  good : ∀ inv ∈ w.invs, Good a ks w.ctx inv

section Transfer

variable {c : Context} {inv : Invocation}

/-- A put under a name the invariant does not read keeps it. -/
theorem Good.put_other {n : String} (hk : n ≠ "key") (ha : n ≠ "pubkeyAuth") (v : Value)
    (hg : Good a ks c inv) : Good a ks (c.put n v) inv := by
  obtain ⟨hkey, hpc⟩ := hg
  refine ⟨hkey, ?_⟩
  cases hp : inv.pc <;> simp only [hp] at hpc ⊢ <;>
    simpa only [Context.put_ne _ _ (Ne.symm hk), Context.put_ne _ _ (Ne.symm ha)] using hpc

/-- Putting one of the keys keeps the invariant. -/
theorem Good.put_key {k : PublicKey} (hk : k ∈ ks) (hg : Good a ks c inv) :
    Good a ks (c.put "key" (.key k)) inv := by
  obtain ⟨hkey, hpc⟩ := hg
  refine ⟨hkey, ?_⟩
  cases hp : inv.pc <;> simp only [hp] at hpc ⊢
  case route => exact ⟨k, hk, Context.put_same _ _ _⟩
  all_goals simpa only [Context.put_ne _ _ (by decide : "pubkeyAuth" ≠ "key")] using hpc

/-- Storing the verdict on one of the keys keeps the invariant. -/
theorem Good.put_auth {k : PublicKey} (hk : k ∈ ks) (hg : Good a ks c inv) :
    Good a ks (c.put "pubkeyAuth" (authValue a k)) inv := by
  obtain ⟨hkey, hpc⟩ := hg
  refine ⟨hkey, ?_⟩
  cases hp : inv.pc <;> simp only [hp] at hpc ⊢
  case get => exact ⟨hpc.1, k, hk, Context.put_same _ _ _⟩
  all_goals simpa only [Context.put_ne _ _ (by decide : "key" ≠ "pubkeyAuth")] using hpc

end Transfer

/-- A step that replaces invocation `i` and the context keeps the invariant when
the new context keeps it for the other invocations and the replacement is good. -/
theorem Sound.set {w : World} (hw : Sound a ks w) {c : Context} {inv : Invocation} (i : Nat)
    (hc : DefaultRoute c) (hrest : ∀ x, Good a ks w.ctx x → Good a ks c x) (hinv : Good a ks c inv) :
    Sound a ks ⟨c, w.invs.set i inv⟩ where
  route := hc
  good x hx := (List.mem_or_eq_of_mem_set hx).elim (fun hx => hrest x (hw.good x hx)) (· ▸ hinv)

variable {parseAuthorizedKey : List UInt8 → Except String PublicKey}
  {file : Option (List UInt8)}

/-- **One step keeps the invariant**, whichever invocation takes it. -/
theorem Sound.step (h : parseAuthorizedKey (readFile file) = .ok a) {w : World}
    (hw : Sound a ks w) (i : Nat) : Sound a ks (step (routes parseAuthorizedKey file) w i) := by
  rcases hi : w.invs[i]? with _ | inv
  · rwa [step_of_getElem?_none _ hi]
  rw [step_of_getElem? _ hi]
  have hgood := hw.good inv (List.mem_iff_getElem?.mpr ⟨i, hi⟩)
  obtain ⟨hkey, hpc⟩ := id hgood
  rcases hp : inv.pc with _ | _ | _ | e | r <;> simp only [hp] at hpc <;> simp only [stepInv, hp]
  case putMetadata =>
    exact hw.set i (hw.route.put _ _ (by decide)) (fun _ => Good.put_other (by decide) (by decide) _)
      ⟨hkey, trivial⟩
  case putKey =>
    exact hw.set i (hw.route.put _ _ (by decide)) (fun _ => Good.put_key hkey)
      ⟨hkey, inv.key, hkey, by simp⟩
  case route =>
    obtain ⟨k, hk, hck⟩ := hpc
    rw [routeStep_of_key h hw.route hck]
    exact hw.set i (hw.route.put _ _ (by decide)) (fun _ => Good.put_auth hk)
      ⟨hkey, rfl, k, hk, by simp⟩
  case get =>
    obtain ⟨rfl, k, hk, hck⟩ := hpc
    exact hw.set i hw.route (fun _ => id) ⟨hkey, k, hk, getStep_of_auth hck⟩
  case done => exact hw.set i hw.route (fun _ => id) hgood

/-- **Every run keeps the invariant.** -/
theorem Sound.run (h : parseAuthorizedKey (readFile file) = .ok a) {w : World} (hw : Sound a ks w)
    (sched : List Nat) : Sound a ks (run (routes parseAuthorizedKey file) w sched) := by
  induction sched generalizing w with
  | nil => exact hw
  | cons i sched ih => exact ih (hw.step h i)

theorem Sound.initial {c : Context} (hc : DefaultRoute c) (conns : List (ConnMetadata × PublicKey)) :
    Sound a (conns.map Prod.snd) ⟨c, invocations conns⟩ where
  route := hc
  good inv hinv := by
    obtain ⟨mk, hmk, rfl⟩ := List.mem_map.mp hinv
    exact ⟨List.mem_map_of_mem _ hmk, trivial⟩

/-- **Interleaving only passes verdicts around.** Under any schedule of any
number of connections on a context that names the route `pubkeyAuth`, an
invocation that has returned has returned what the callback, run alone on that
context, returns to one of the connections: its own or another's. -/
theorem run_result_mem_callbacks (h : parseAuthorizedKey (readFile file) = .ok a) {c : Context}
    (hc : DefaultRoute c) (conns : List (ConnMetadata × PublicKey)) (sched : List Nat) {i : Nat}
    {r : Except Panic (Permissions × Option String)}
    (hr : (run (routes parseAuthorizedKey file) ⟨c, invocations conns⟩ sched).invs[i]?.bind
      Invocation.result = some r) :
    r ∈ conns.map fun mk =>
      (publicKeyCallback (routes parseAuthorizedKey file) c mk.1 mk.2).map (·.2) := by
  obtain ⟨inv, hi, hres⟩ := Option.bind_eq_some.mp hr
  have hg := ((@Sound.initial a c hc conns).run h sched).good inv
    (List.mem_iff_getElem?.mpr ⟨i, hi⟩)
  simp only [Good, result_eq_some hres] at hg
  obtain ⟨-, k, hk, rfl⟩ := hg
  obtain ⟨mk, hmk, rfl⟩ := List.mem_map.mp hk
  exact List.mem_map.mpr ⟨mk, hmk, callback_verdict h hc mk.1 mk.2⟩

/-- On the schedule where the second connection puts its key before the first
runs its route, the first connection is accepted with the verdict on the second
connection's key. -/
theorem run_result_mem_callbacks_rsa :
    (fun _ => .ok rsaKey : List UInt8 → Except String PublicKey) (readFile none) = .ok rsaKey ∧
      DefaultRoute (fun _ => none) ∧
      (run rsaRoutes ⟨fun _ => none, invocations [(⟨"mallory"⟩, edKey), (⟨"git"⟩, rsaKey)]⟩
          [0, 0, 1, 1, 0, 0]).invs[0]?.bind Invocation.result =
        some (.ok (builderPermissions, none)) ∧
      .ok (builderPermissions, none) ∈
        ([(⟨"mallory"⟩, edKey), (⟨"git"⟩, rsaKey)] : List (ConnMetadata × PublicKey)).map
        fun mk => (publicKeyCallback rsaRoutes (fun _ => none) mk.1 mk.2).map (·.2) :=
  have hr : (run rsaRoutes ⟨fun _ => none, invocations [(⟨"mallory"⟩, edKey), (⟨"git"⟩, rsaKey)]⟩
      [0, 0, 1, 1, 0, 0]).invs[0]?.bind Invocation.result = some (.ok (builderPermissions, none)) :=
    rfl
  ⟨rfl, rfl, hr, @run_result_mem_callbacks rsaKey (fun _ => .ok rsaKey) none rfl (fun _ => none) rfl
    [(⟨"mallory"⟩, edKey), (⟨"git"⟩, rsaKey)] [0, 0, 1, 1, 0, 0] 0 _ hr⟩

end Sound

/-! ### Steps run back to back -/

section BackToBack

variable {parseAuthorizedKey : List UInt8 → Except String PublicKey}
  {file : Option (List UInt8)} {a : PublicKey}

/-- An invocation at its route whose route and get run back to back returns the
verdict on the key the context holds: its own key plays no part. -/
theorem run_route_get (h : parseAuthorizedKey (readFile file) = .ok a) {c : Context}
    (hc : DefaultRoute c) {l : List Invocation} {i : Nat} {inv : Invocation} (hi : l[i]? = some inv)
    (hpc : inv.pc = .route) {k : PublicKey} (hk : c "key" = some (.key k)) :
    (run (routes parseAuthorizedKey file) ⟨c, l⟩ [i, i]).invs[i]? =
      some { inv with pc := .done (verdict a k) } := by
  have hlt : i < l.length := (List.getElem?_eq_some_iff.mp hi).1
  simp only [run, List.foldl_cons, List.foldl_nil,
    step_of_getElem? _ (show (World.invs ⟨c, l⟩)[i]? = some inv from hi), stepInv, hpc,
    routeStep_of_key h hc hk, step_set _ hlt, getStep_of_auth (Context.put_same _ _ _)]
  exact List.getElem?_set_self hlt

/-- Four steps of a fresh invocation in a row: it returns the verdict on its key. -/
theorem run_block (h : parseAuthorizedKey (readFile file) = .ok a) {w : World}
    (hc : DefaultRoute w.ctx) {i : Nat} {m : ConnMetadata} {k : PublicKey}
    (hi : w.invs[i]? = some ⟨m, k, .putMetadata⟩) :
    (run (routes parseAuthorizedKey file) w [i, i, i, i]).invs[i]? =
      some ⟨m, k, .done (verdict a k)⟩ := by
  have hlt : i < w.invs.length := (List.getElem?_eq_some_iff.mp hi).1
  -- the two puts
  have hputs : run (routes parseAuthorizedKey file) w [i, i] =
      ⟨(w.ctx.put "metadata" (.metadata m)).put "key" (.key k), w.invs.set i ⟨m, k, .route⟩⟩ := by
    simp only [run, List.foldl_cons, List.foldl_nil, step_of_getElem? _ hi, stepInv, step_set _ hlt]
  rw [show [i, i, i, i] = [i, i] ++ [i, i] from rfl, run_append, hputs]
  exact run_route_get h ((hc.put "metadata" (.metadata m) (by decide)).put "key" (.key k) (by decide))
    (List.getElem?_set_self hlt) rfl (Context.put_same _ _ _)

/-- **An invocation that is not interrupted gets its own verdict.** When the four
steps of invocation `i` run back to back, after steps of other invocations only,
it returns what the callback, run alone, returns to its own connection, whatever
the other invocations do before and after it. -/
theorem run_uninterrupted_result (h : parseAuthorizedKey (readFile file) = .ok a) {c : Context}
    (hc : DefaultRoute c) (conns : List (ConnMetadata × PublicKey)) {i : Nat}
    (hlt : i < conns.length) (pre post : List Nat) (hpre : i ∉ pre) :
    (run (routes parseAuthorizedKey file) ⟨c, invocations conns⟩
        (pre ++ [i, i, i, i] ++ post)).invs[i]?.bind Invocation.result =
      some ((publicKeyCallback (routes parseAuthorizedKey file) c conns[i].1 conns[i].2).map
        (·.2)) := by
  have hpre' := ((@Sound.initial a c hc conns).run h pre).route
  have hi : (run (routes parseAuthorizedKey file) ⟨c, invocations conns⟩ pre).invs[i]? =
      some ⟨conns[i].1, conns[i].2, .putMetadata⟩ := by
    rw [getElem?_run_of_not_mem _ hpre]
    exact invocations_getElem? hlt
  rw [run_append, run_append, getElem?_run_of_done _ (run_block h hpre' hi) rfl]
  simp [Invocation.result, callback_verdict h hc]

/-- The first connection, run without interruption between the second's first
steps and its last, gets its own verdict: the panic of a key that is not the
authorized one. -/
theorem run_uninterrupted_result_ed25519 :
    (fun _ => .ok rsaKey : List UInt8 → Except String PublicKey) (readFile none) = .ok rsaKey ∧
      DefaultRoute (fun _ => none) ∧
      0 < ([(⟨"mallory"⟩, edKey), (⟨"git"⟩, rsaKey)] : List (ConnMetadata × PublicKey)).length ∧
      0 ∉ [1, 1] ∧
      (run rsaRoutes ⟨fun _ => none, invocations [(⟨"mallory"⟩, edKey), (⟨"git"⟩, rsaKey)]⟩
          ([1, 1] ++ [0, 0, 0, 0] ++ [1, 1])).invs[0]?.bind Invocation.result =
        some ((publicKeyCallback rsaRoutes (fun _ => none) ⟨"mallory"⟩ edKey).map (·.2)) :=
  ⟨rfl, rfl, by decide, by decide,
    @run_uninterrupted_result (fun _ => .ok rsaKey) none rsaKey rfl (fun _ => none) rfl
      [(⟨"mallory"⟩, edKey), (⟨"git"⟩, rsaKey)] 0 (by decide) [1, 1] [1, 1] (by decide)⟩

/-- **A put of the authorized key right before a route lets any connection in.**
For any number of connections and any schedule: when connection `j`, which
presents the authorized key, puts its key right before connection `i` runs its
route and then its get, `i` returns the permission of `builder` and a nil error,
whatever key `i` presented and whatever the schedule does before and after. That
`i` is then at its route and `j` at its key put is said by how many steps each
has taken before. -/
theorem run_accepts_after_authorized_put (h : parseAuthorizedKey (readFile file) = .ok a)
    {c : Context} (hc : DefaultRoute c) (conns : List (ConnMetadata × PublicKey)) {i j : Nat}
    (hi : i < conns.length) (hj : j < conns.length) (hij : i ≠ j)
    (hk : conns[j].2.type = a.type ∧ conns[j].2.marshal = a.marshal) (pre post : List Nat)
    (hpi : pre.count i = 2) (hpj : pre.count j = 1) :
    (run (routes parseAuthorizedKey file) ⟨c, invocations conns⟩
        (pre ++ [j, i, i] ++ post)).invs[i]?.bind Invocation.result =
      some (.ok (builderPermissions, none)) := by
  have hw := ((@Sound.initial a c hc conns).run h pre).route
  -- after `pre`, `i` is at its route and `j` at its key put
  have hinv : ∀ {n} (hn : n < conns.length), (World.invs ⟨c, invocations conns⟩)[n]? =
      some ⟨conns[n].1, conns[n].2, .putMetadata⟩ := invocations_getElem?
  obtain ⟨invi, hri, -, -, hxi⟩ := getElem?_run_index _ (hinv hi) pre (by simp [Pc.index, hpi])
  obtain ⟨invj, hrj, -, hkj, hxj⟩ := getElem?_run_index _ (hinv hj) pre (by simp [Pc.index, hpj])
  have hpci := Pc.eq_route_of_index (by simpa [Pc.index, hpi] using hxi)
  have hpcj := Pc.eq_putKey_of_index (by simpa [Pc.index, hpj] using hxj)
  -- `j` puts the authorized key, and `i` runs its route and get on it
  have hstep := step_of_getElem? (routes parseAuthorizedKey file) hrj
  simp only [stepInv, hpcj] at hstep
  rw [show pre ++ [j, i, i] ++ post = pre ++ [j] ++ [i, i] ++ post by simp, run_append, run_append,
    run_append, show ∀ w', run (routes parseAuthorizedKey file) w' [j] =
      step (routes parseAuthorizedKey file) w' j from fun _ => rfl]
  generalize run (routes parseAuthorizedKey file) ⟨c, invocations conns⟩ pre = w at hw hri hstep ⊢
  have hroute := run_route_get h (hw.put "key" (.key invj.key) (by decide))
    (show (w.invs.set j ⟨invj.meta, invj.key, .route⟩)[i]? = some invi by
      rwa [List.getElem?_set_ne (Ne.symm hij)])
    hpci (Context.put_same _ _ _)
  rw [hstep, getElem?_run_of_done _ hroute rfl]
  simp only [hkj, verdict_of_match hk]
  rfl

/-- Three connections, the first and the third presenting `edKey`: the first is
accepted on the second's put, after the third has put its own key. -/
theorem run_accepts_after_authorized_put_rsa :
    (fun _ => .ok rsaKey : List UInt8 → Except String PublicKey) (readFile none) = .ok rsaKey ∧
      DefaultRoute (fun _ => none) ∧
      0 < ([(⟨"mallory"⟩, edKey), (⟨"git"⟩, rsaKey), (⟨"eve"⟩, edKey)] :
        List (ConnMetadata × PublicKey)).length ∧
      1 < ([(⟨"mallory"⟩, edKey), (⟨"git"⟩, rsaKey), (⟨"eve"⟩, edKey)] :
        List (ConnMetadata × PublicKey)).length ∧ (0 : Nat) ≠ 1 ∧
      (rsaKey.type = rsaKey.type ∧ rsaKey.marshal = rsaKey.marshal) ∧
      [0, 0, 2, 2, 1].count 0 = 2 ∧ [0, 0, 2, 2, 1].count 1 = 1 ∧
      (run rsaRoutes ⟨fun _ => none,
          invocations [(⟨"mallory"⟩, edKey), (⟨"git"⟩, rsaKey), (⟨"eve"⟩, edKey)]⟩
          ([0, 0, 2, 2, 1] ++ [1, 0, 0] ++ [2, 2, 1, 1])).invs[0]?.bind Invocation.result =
        some (.ok (builderPermissions, none)) :=
  ⟨rfl, rfl, by decide, by decide, by decide, ⟨rfl, rfl⟩, by decide, by decide,
    @run_accepts_after_authorized_put (fun _ => .ok rsaKey) none rsaKey rfl (fun _ => none) rfl
      [(⟨"mallory"⟩, edKey), (⟨"git"⟩, rsaKey), (⟨"eve"⟩, edKey)] 0 1 (by decide) (by decide)
      (by decide) ⟨rfl, rfl⟩ [0, 0, 2, 2, 1] [2, 2, 1, 1] (by decide) (by decide)⟩

end BackToBack

end Handshakes

end Sshd

end SaBuilder
