import Mathlib.Data.List.Basic

/-!
# Loading the host keys

`ParseHostKeys` loads the server's host keys. For each key type of its parameter
`keytypes` it reads the file the path template names for that type and parses it
as a private key; a file that cannot be read, or that does not parse, is skipped.
Then, when the *context* entry `enableV1` is set, it loads the protocol-1 key
`/etc/ssh/ssh_host_key` the same way. It returns the keys it loaded and a nil
interrupt, whichever files failed, none loaded included.

The library calls are parameters: `fmt.Sprintf` applied to the template and a key
type, `ioutil.ReadFile` (`none` on an error) and `ssh.ParsePrivateKey`. A value
of another type than the one asserted under `keytypes`, `path` or `enableV1`
makes the command panic; the parameters are taken here with their types.

The loop is the skip-on-failure filter it is meant to be
(`SaBuilder.Sshd.parseHostKeys_eq`): the keys of exactly the key types whose file
reads and parses, in the order of the types, then the protocol-1 key when the
context enables it and its file reads and parses. The documented parameter
`enableV1` is not what the code reads: a parameter of that name enables nothing.
-/

namespace SaBuilder

namespace Sshd

section HostKeys

variable {Signer : Type} (sprintf : String → String → String)
  (readFile : String → Option (List UInt8)) (parsePrivateKey : List UInt8 → Except String Signer)

/-- The parameters `ParseHostKeys` reads. -/
structure HostKeyParams where
  /-- `keytypes`, by default `rsa`, `dsa` and `ecdsa`. -/
  keytypes : Option (List String)
  /-- `path`, the path template, by default `/etc/ssh/ssh_host_%s_key`. -/
  path : Option String
  deriving DecidableEq, Repr

/-- The loop over the key types: `hostKeys` grows by each key that reads and
parses. -/
def hostKeyLoop (pathTpl : String) : List Signer → List String → List Signer
  | hostKeys, [] => hostKeys
  | hostKeys, t :: ts =>
    match readFile (sprintf pathTpl t) with
    | some key =>
      match parsePrivateKey key with
      | .ok hk => hostKeyLoop pathTpl (hostKeys ++ [hk]) ts
      | .error _ => hostKeyLoop pathTpl hostKeys ts
    | none => hostKeyLoop pathTpl hostKeys ts

/-- `ParseHostKeys(c, p)`: the host keys it returns, with the context's
`enableV1`. -/
def parseHostKeys (p : HostKeyParams) (enableV1 : Option Bool) : List Signer :=
  let hostKeyTypes := p.keytypes.getD ["rsa", "dsa", "ecdsa"]
  let pathTpl := p.path.getD "/etc/ssh/ssh_host_%s_key"
  let hostKeys := hostKeyLoop sprintf readFile parsePrivateKey pathTpl [] hostKeyTypes
  if enableV1.getD false then
    match readFile "/etc/ssh/ssh_host_key" with
    | none => hostKeys
    | some key =>
      match parsePrivateKey key with
      | .ok hk => hostKeys ++ [hk]
      | .error _ => hostKeys
  else hostKeys

/-- The key a file yields: read, then parsed. -/
def hostKey (path : String) : Option Signer :=
  (readFile path).bind fun key => (parsePrivateKey key).toOption

/-- The loop keeps the keys that read and parse, in order. -/
theorem hostKeyLoop_eq (pathTpl : String) (hostKeys : List Signer) (ts : List String) :
    hostKeyLoop sprintf readFile parsePrivateKey pathTpl hostKeys ts =
      hostKeys ++ ts.filterMap fun t => hostKey readFile parsePrivateKey (sprintf pathTpl t) := by
  induction ts generalizing hostKeys with
  | nil => simp [hostKeyLoop]
  | cons t ts ih =>
    rcases hr : readFile (sprintf pathTpl t) with _ | key
    · simp [hostKeyLoop, hostKey, hr, ih]
    · rcases hp : parsePrivateKey key with e | hk <;>
        simp [hostKeyLoop, hostKey, hr, hp, ih, Except.toOption]

/-- **`ParseHostKeys` skips what fails, and only that.** It returns the keys of
exactly the key types whose file reads and parses, in the order of the types,
then the protocol-1 key when the context's `enableV1` is set and its file reads
and parses. -/
theorem parseHostKeys_eq (p : HostKeyParams) (enableV1 : Option Bool) :
    parseHostKeys sprintf readFile parsePrivateKey p enableV1 =
      (p.keytypes.getD ["rsa", "dsa", "ecdsa"]).filterMap
          (fun t => hostKey readFile parsePrivateKey
            (sprintf (p.path.getD "/etc/ssh/ssh_host_%s_key") t)) ++
        if enableV1.getD false then (hostKey readFile parsePrivateKey "/etc/ssh/ssh_host_key").toList
        else [] := by
  rw [parseHostKeys, hostKeyLoop_eq, List.nil_append]
  split
  · rcases hr : readFile "/etc/ssh/ssh_host_key" with _ | key
    · simp [hostKey, hr]
    · rcases hp : parsePrivateKey key with e | hk <;> simp [hostKey, hr, hp, Except.toOption]
  · simp

end HostKeys

end Sshd

end SaBuilder
