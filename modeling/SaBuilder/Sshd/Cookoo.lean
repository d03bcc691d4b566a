import SaBuilder.Sshd.Keys

/-!
# The cookoo context and router

The SSH server is written as cookoo commands, and two pieces of the cookoo
runtime decide what its authentication callback returns. The *context* is a map
from names to values, shared by every command and by every callback of the
server. The *router* runs a named route, a list of commands, against the context,
and stores each command's result under the command's name.

cookoo is a library. The model gives the behaviour its documentation states for
the routes the builder runs:

* the commands of a route run in order, and each one's result is put in the
  context under its name;
* an interrupt a command returns stops the route, and `HandleRequest` returns it
  as its error;
* `Get(name, d)` returns the value stored under `name`, a stored nil included,
  and `d` only when nothing is stored.

A value read from the context is used through a type assertion `v.(T)`, which
panics when `v` does not hold a `T`, a nil `v` included.
-/

namespace SaBuilder

namespace Sshd

/-- The values the server stores in a cookoo context or passes as parameters. -/
inductive Value where
  /-- The nil interface value. -/
  | nil : Value
  | str (s : String) : Value
  | key (k : PublicKey) : Value
  /-- A non-nil `*ssh.Permissions`. -/
  | perm (p : Permissions) : Value
  | metadata (m : ConnMetadata) : Value
  /-- The `*cookoo.Router` the server registers its routes on. -/
  | router : Value
  deriving DecidableEq, Repr

/-- A cookoo context, or the parameters of a command: the value stored under
each name, if any. -/
def Context := String → Option Value

namespace Context

/-- `c.Get(name, d)`. -/
def get (c : Context) (name : String) (d : Value) : Value :=
  (c name).getD d

/-- `c.Put(name, v)`. -/
def put (c : Context) (name : String) (v : Value) : Context :=
  fun n => if n = name then some v else c n

@[simp] theorem put_same (c : Context) (name : String) (v : Value) :
    c.put name v name = some v := by
  simp [put]

@[simp] theorem put_ne (c : Context) {name n : String} (v : Value) (h : n ≠ name) :
    c.put name v n = c n := by
  simp [put, h]

@[simp] theorem get_eq (c : Context) (name : String) (d : Value) : c.get name d = (c name).getD d :=
  rfl

/-- `c.Put(n, v)` of the value already stored under `n` changes nothing. -/
theorem put_eq_self {c : Context} {n : String} {v : Value} (h : c n = some v) : c.put n v = c := by
  funext n'
  by_cases hn : n' = n
  · subst hn
    simp [h]
  · simp [hn]

end Context

/-! ### Type assertions -/

/-- `v.(string)`. -/
def assertString : Value → Except Panic String
  | .str s => .ok s
  | _ => .error (.interfaceConversion "string")

/-- `v.(ssh.PublicKey)`. -/
def assertPublicKey : Value → Except Panic PublicKey
  | .key k => .ok k
  | _ => .error (.interfaceConversion "ssh.PublicKey")

/-- `v.(*ssh.Permissions)`. -/
def assertPermissions : Value → Except Panic Permissions
  | .perm p => .ok p
  | _ => .error (.interfaceConversion "*ssh.Permissions")

/-! ### Routes -/

/-- A command of a route: the name its result is stored under, the parameters it
takes from the context, and what it runs on them. It returns its result and an
interrupt, nil or an error. -/
structure Cmd where
  name : String
  params : Context → Context
  run : Context → Except Panic (Value × Option String)

/-- The commands of a route, run in order on the context. -/
def runCmds (c : Context) : List Cmd → Except Panic (Context × Option String)
  | [] => .ok (c, none)
  | cmd :: rest => do
    let (v, irq) ← cmd.run (cmd.params c)
    match irq with
    | some e => return (c.put cmd.name v, some e)
    | none => runCmds (c.put cmd.name v) rest

/-- `router.HandleRequest(name, c, true)`: the route `name` run on `c`, with the
error it returns. -/
def handleRequest (routes : String → Option (List Cmd)) (name : String) (c : Context) :
    Except Panic (Context × Option String) :=
  match routes name with
  | some cmds => runCmds c cmds
  | none => .ok (c, some ("route not found: " ++ name))

/-- A route of one command that returns no interrupt stores the command's result
and returns no error. -/
theorem runCmds_single {c : Context} {cmd : Cmd} {v : Value}
    (h : cmd.run (cmd.params c) = .ok (v, none)) :
    runCmds c [cmd] = .ok (c.put cmd.name v, none) := by
  simp [runCmds, h]

end Sshd

end SaBuilder
