import SaBuilder.Sshd.Cookoo

/-!
# Public-key authentication

`Configure` installs a `PublicKeyCallback` on the SSH server. The callback puts
the connection's metadata and key in the context the server's commands share,
runs the route `pubkeyAuth`, and returns what the route left under `pubkeyAuth`,
asserted to be a `*ssh.Permissions`, with the route's error. The route runs
`AuthKey`, which compares the key with the authorized one and returns a
permission carrying the user `builder` when they are equal.

The SSH library accepts the handshake exactly when the callback's error is nil.
The results below say what the callback does:

* with a key file that parses, a key equal to the authorized one gets the
  permission and a nil error (`SaBuilder.Sshd.publicKeyCallback_of_match`), and
  every other key makes the callback panic
  (`SaBuilder.Sshd.publicKeyCallback_panics_of_mismatch`). `AuthKey` rejects a
  key by returning `(nil, nil)`: no interrupt, so `HandleRequest`'s error is nil,
  and the stored nil fails the assertion to `*ssh.Permissions`. No key is
  refused with an error, and a callback never returns a nil permission;
* with a key file that does not parse, `AuthKey` panics for every key, calling
  `Type()` on the nil authorized key, and `Fingerprint` panics calling
  `Marshal()` on it (`SaBuilder.Sshd.authKey_panics_of_unparsed`).
-/

namespace SaBuilder

namespace Sshd

section Auth

-- the SSH library's `ssh.ParseAuthorizedKey`
variable (parseAuthorizedKey : List UInt8 → Except String PublicKey)

/-- The permission `AuthKey` grants: the extension `user` set to `builder`. -/
def builderPermissions : Permissions :=
  ⟨[("user", "builder")]⟩

/-- `AuthKey` authenticates based on a public key: the parameter `key` against
the key of the authorized-key file `file`. -/
def authKey (file : Option (List UInt8)) (p : Context) : Except Panic (Value × Option String) := do
  let key ← assertPublicKey (p.get "key" .nil)
  if ← compareKeys (some key) (allowedKey parseAuthorizedKey file) then
    return (.perm builderPermissions, none)
  return (.nil, none)

/-- The route `pubkeyAuth` is registered with the router by code that is not
among the source files; it is taken as the server's specification describes it:
one command, `pubkeyAuth`, which runs `AuthKey` with the context's `key` as its
parameter `key`. -/
def pubkeyAuthCmd (file : Option (List UInt8)) : Cmd where
  name := "pubkeyAuth"
  params := fun c n => if n = "key" then c "key" else none
  run := authKey parseAuthorizedKey file

/-- The server's routes, as far as the callback uses them, after the server's
specification. -/
def routes (file : Option (List UInt8)) : String → Option (List Cmd) :=
  fun n => if n = "pubkeyAuth" then some [pubkeyAuthCmd parseAuthorizedKey file] else none

/-- The `PublicKeyCallback` that `Configure` installs, called on the shared context
`c`: the context after the call, the permission and the error it returns. -/
def publicKeyCallback (rs : String → Option (List Cmd)) (c : Context) (m : ConnMetadata)
    (k : PublicKey) : Except Panic (Context × Permissions × Option String) := do
  let c := c.put "metadata" (.metadata m)
  let c := c.put "key" (.key k)
  let pubkeyAuth ← assertString (c.get "route.sshd.pubkeyAuth" (.str "pubkeyAuth"))
  let (c, err) ← handleRequest rs pubkeyAuth c
  let perm ← assertPermissions (c.get "pubkeyAuth" (.perm ⟨[]⟩))
  return (c, perm, err)

/-- `Configure` creates the server configuration: its callback, on the context
`Configure` was called with. It asserts the context's router first. -/
def configure (rs : String → Option (List Cmd)) (c : Context) :
    Except Panic
      (ConnMetadata → PublicKey → Except Panic (Context × Permissions × Option String)) :=
  match c.get "cookoo.Router" .nil with
  | .router => .ok (publicKeyCallback rs c)
  | _ => .error (.interfaceConversion "*cookoo.Router")

/-! ### What `AuthKey` returns -/

/-- **`AuthKey` grants exactly the authorized key.** With a key file that parses
to `a`, a presented key `k` gets the permission whose extensions are
`{"user": "builder"}` when its algorithm and its marshaled bytes are those of
`a`, and a nil permission otherwise. -/
theorem authKey_of_parsed {file : Option (List UInt8)} {a : PublicKey}
    (h : parseAuthorizedKey (readFile file) = .ok a) {p : Context} {k : PublicKey}
    (hk : p "key" = some (.key k)) :
    authKey parseAuthorizedKey file p =
      .ok (if k.type = a.type ∧ k.marshal = a.marshal then .perm ⟨[("user", "builder")]⟩ else .nil,
        none) := by
  by_cases hm : k.type = a.type ∧ k.marshal = a.marshal <;>
    simp [authKey, hk, assertPublicKey, allowedKey_of_ok parseAuthorizedKey h, hm,
      builderPermissions]

/-- A key file parsing to an RSA key, and a presented key equal to it. -/
theorem authKey_of_parsed_rsa :
    (fun _ => .ok ⟨"ssh-rsa", [1, 2]⟩ : List UInt8 → Except String PublicKey) (readFile none) =
        .ok ⟨"ssh-rsa", [1, 2]⟩ ∧
      authKey (fun _ => .ok ⟨"ssh-rsa", [1, 2]⟩) none (fun _ => some (.key ⟨"ssh-rsa", [1, 2]⟩)) =
        .ok (.perm ⟨[("user", "builder")]⟩, none) :=
  ⟨rfl, (@authKey_of_parsed (fun _ => .ok ⟨"ssh-rsa", [1, 2]⟩) none ⟨"ssh-rsa", [1, 2]⟩ rfl
    (fun _ => some (.key ⟨"ssh-rsa", [1, 2]⟩)) ⟨"ssh-rsa", [1, 2]⟩ rfl).trans rfl⟩

/-- **An unusable key file makes `AuthKey` and `Fingerprint` panic.** When the
authorized-key file does not parse, `AuthKey` calls `Type()` on the nil
authorized key for every presented key, and `Fingerprint` calls `Marshal()` on
it. -/
theorem authKey_panics_of_unparsed (md5Sum : List UInt8 → {h : List UInt8 // h.length = 16})
    {file : Option (List UInt8)} {e : String} (h : parseAuthorizedKey (readFile file) = .error e)
    {p : Context} {k : PublicKey} (hk : p "key" = some (.key k)) :
    authKey parseAuthorizedKey file p = .error .nilDereference ∧
      fingerprint parseAuthorizedKey md5Sum file = .error .nilDereference :=
  ⟨by simp [authKey, hk, assertPublicKey, allowedKey_of_error parseAuthorizedKey h],
    fingerprint_of_error parseAuthorizedKey md5Sum h⟩

/-- A missing key file, which the parser rejects. -/
theorem authKey_panics_of_missing_file :
    (fun _ => .error "ssh: no key found" : List UInt8 → Except String PublicKey) (readFile none) =
        .error "ssh: no key found" ∧
      authKey (fun _ => .error "ssh: no key found") none (fun _ => some (.key ⟨"ssh-rsa", [1]⟩)) =
          .error .nilDereference ∧
        fingerprint (fun _ => .error "ssh: no key found") (fun _ => ⟨List.replicate 16 0, rfl⟩) none =
          .error .nilDereference :=
  ⟨rfl, @authKey_panics_of_unparsed (fun _ => .error "ssh: no key found")
    (fun _ => ⟨List.replicate 16 0, rfl⟩) none _ rfl (fun _ => some (.key ⟨"ssh-rsa", [1]⟩))
    ⟨"ssh-rsa", [1]⟩ rfl⟩

/-! ### What the callback returns -/

variable {file : Option (List UInt8)} {a : PublicKey}

/-- The callback runs the route `pubkeyAuth` on the context holding the key:
`AuthKey`'s result on that key is stored under `pubkeyAuth`, with no error. -/
theorem handleRequest_pubkeyAuth (h : parseAuthorizedKey (readFile file) = .ok a) (c : Context)
    (k : PublicKey) :
    handleRequest (routes parseAuthorizedKey file) "pubkeyAuth" ((c.put "key" (.key k))) =
      .ok ((c.put "key" (.key k)).put "pubkeyAuth"
        (if k.type = a.type ∧ k.marshal = a.marshal then .perm builderPermissions else .nil),
        none) := by
  rw [handleRequest, routes, if_pos rfl]
  exact runCmds_single (authKey_of_parsed parseAuthorizedKey h (by simp [pubkeyAuthCmd]))

/-- The route the callback runs is `pubkeyAuth` unless the context names another. -/
def DefaultRoute (c : Context) : Prop :=
  c.get "route.sshd.pubkeyAuth" (.str "pubkeyAuth") = .str "pubkeyAuth"

/-- A put under another name keeps the route the callback runs. -/
theorem DefaultRoute.put {c : Context} (hc : DefaultRoute c) (n : String) (v : Value)
    (hn : "route.sshd.pubkeyAuth" ≠ n) : DefaultRoute (c.put n v) := by
  simpa [DefaultRoute, Context.put_ne _ _ hn] using hc

/-- **A key equal to the authorized one is accepted**, with the permission of
the user `builder`. -/
theorem publicKeyCallback_of_match (h : parseAuthorizedKey (readFile file) = .ok a) {c : Context}
    (hc : DefaultRoute c) (m : ConnMetadata) {k : PublicKey}
    (hk : k.type = a.type ∧ k.marshal = a.marshal) :
    (publicKeyCallback (routes parseAuthorizedKey file) c m k).map (·.2) =
      .ok (builderPermissions, none) := by
  simp only [DefaultRoute, Context.get_eq] at hc
  simp [publicKeyCallback, hc, assertString, handleRequest_pubkeyAuth parseAuthorizedKey h, hk,
    assertPermissions, Except.map]

/-- **Every other key makes the callback panic.** `AuthKey` returns `(nil, nil)`,
the route stores the nil under `pubkeyAuth` and returns no error, and asserting
the stored nil to `*ssh.Permissions` panics. -/
theorem publicKeyCallback_panics_of_mismatch (h : parseAuthorizedKey (readFile file) = .ok a)
    {c : Context} (hc : DefaultRoute c) (m : ConnMetadata) {k : PublicKey}
    (hk : ¬(k.type = a.type ∧ k.marshal = a.marshal)) :
    publicKeyCallback (routes parseAuthorizedKey file) c m k =
      .error (.interfaceConversion "*ssh.Permissions") := by
  simp only [DefaultRoute, Context.get_eq] at hc
  simp [publicKeyCallback, hc, assertString, handleRequest_pubkeyAuth parseAuthorizedKey h, hk,
    assertPermissions]

end Auth

/-- An RSA key on file and an Ed25519 key presented, on a fresh context. -/
theorem publicKeyCallback_panics_of_mismatch_ed25519 :
    (fun _ => .ok ⟨"ssh-rsa", [1]⟩ : List UInt8 → Except String PublicKey) (readFile none) =
        .ok ⟨"ssh-rsa", [1]⟩ ∧ DefaultRoute (fun _ => none) ∧
      ¬((⟨"ssh-ed25519", [1]⟩ : PublicKey).type = (⟨"ssh-rsa", [1]⟩ : PublicKey).type ∧
        (⟨"ssh-ed25519", [1]⟩ : PublicKey).marshal = (⟨"ssh-rsa", [1]⟩ : PublicKey).marshal) ∧
      publicKeyCallback (routes (fun _ => .ok ⟨"ssh-rsa", [1]⟩) none) (fun _ => none) ⟨"git"⟩
          ⟨"ssh-ed25519", [1]⟩ = .error (.interfaceConversion "*ssh.Permissions") :=
  ⟨rfl, rfl, by decide, @publicKeyCallback_panics_of_mismatch (fun _ => .ok ⟨"ssh-rsa", [1]⟩) none
    ⟨"ssh-rsa", [1]⟩ rfl (fun _ => none) rfl ⟨"git"⟩ ⟨"ssh-ed25519", [1]⟩ (by decide)⟩

end Sshd

end SaBuilder
