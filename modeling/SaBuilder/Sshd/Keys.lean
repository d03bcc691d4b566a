import SaBuilder.Go.Runtime

/-!
# Keys, and the comparison that authenticates them

The builder authenticates a push by comparing the key the client presents with
the single key of the authorized-key file `/etc/deistest.pub`. This file gives
the keys as the two methods the code calls on an `ssh.PublicKey`, `Type()` and
`Marshal()`, and translates what the code does with them:

* `subtle.ConstantTimeCompare`, the XOR–OR fold over the two byte sequences and
  its final unsigned-wraparound test (`SaBuilder.Sshd.constantTimeCompare`),
  which returns `1` exactly on equal sequences
  (`SaBuilder.Sshd.constantTimeCompare_eq_one_iff`);
* `compareKeys`, which calls `Type()` on both keys, then `Marshal()` on both;
* `Fingerprint`, which hashes the authorized key's marshaled form and writes the
  hash in colon notation, one byte of a slice at a time: its loop is proved to
  stay inside the slice and to write the hash's digits, a colon between every
  two bytes (`SaBuilder.Sshd.fingerprint_of_ok`).

A Go interface value may be nil, and a method called on a nil interface panics.
A key as the code holds it is therefore an `Option SaBuilder.Sshd.PublicKey`, and
every computation that calls a method returns `Except SaBuilder.Panic`. The
authorized key is the one place a nil key arises: the code discards the error of
reading and of parsing the file, and `ssh.ParseAuthorizedKey` returns a nil key
together with its error.

The parser and `md5.Sum` are library code; they are parameters here.
-/

namespace SaBuilder

namespace Sshd

/-! ### Keys and permissions -/

/-- An SSH public key, through the two methods the builder calls on it. -/
structure PublicKey where
  /-- `Type()`: the key's algorithm name. -/
  type : String
  /-- `Marshal()`: the key in wire format. -/
  marshal : List UInt8
  deriving DecidableEq, Repr

/-- `ssh.Permissions`, through the one field the builder sets. -/
structure Permissions where
  /-- `Extensions`, a `map[string]string`, as its list of entries. -/
  extensions : List (String × String)
  deriving DecidableEq, Repr

/-- `ssh.ConnMetadata`. The callback stores it in the context and nothing reads
it back; only the user name is kept. -/
structure ConnMetadata where
  /-- `User()`: the user name the client asked for. -/
  user : String
  deriving DecidableEq, Repr

/-- `k.Type()` on an interface value. -/
def keyType : Option PublicKey → Except Panic String
  | some k => .ok k.type
  | none => .error .nilDereference

/-- `k.Marshal()` on an interface value. -/
def keyMarshal : Option PublicKey → Except Panic (List UInt8)
  | some k => .ok k.marshal
  | none => .error .nilDereference

/-! ### Constant-time comparison -/

/-- `subtle.ConstantTimeByteEq(x, y)`: `int((uint32(x^y) - 1) >> 31)`. -/
def constantTimeByteEq (x y : UInt8) : Int :=
  (((x ^^^ y).toUInt32 - 1) >>> 31).toNat

/-- The loop of `subtle.ConstantTimeCompare`, `v |= x[i] ^ y[i]` for every index. -/
def xorOrFold (v : UInt8) : List UInt8 → List UInt8 → UInt8
  | a :: x, b :: y => xorOrFold (v ||| (a ^^^ b)) x y
  | _, _ => v

/-- `subtle.ConstantTimeCompare(x, y)`: `1` if the two slices have equal contents
and `0` otherwise; the time taken depends on the length only. -/
def constantTimeCompare (x y : List UInt8) : Int :=
  if x.length ≠ y.length then 0 else constantTimeByteEq (xorOrFold 0 x y) 0

theorem lor_eq_zero_iff {a b : Nat} : a ||| b = 0 ↔ a = 0 ∧ b = 0 := by
  refine ⟨fun h => ?_, fun h => by simp [h.1, h.2]⟩
  have hbit (i : Nat) : a.testBit i = false ∧ b.testBit i = false := by
    simpa using congrArg (Nat.testBit · i) h
  exact ⟨Nat.eq_of_testBit_eq fun i => by simp [hbit i],
    Nat.eq_of_testBit_eq fun i => by simp [hbit i]⟩

theorem uint8_eq_iff_toNat {a b : UInt8} : a = b ↔ a.toNat = b.toNat :=
  ⟨congrArg _, UInt8.toNat.inj⟩

theorem uint8_lor_eq_zero {a b : UInt8} : a ||| b = 0 ↔ a = 0 ∧ b = 0 := by
  simp only [uint8_eq_iff_toNat]
  exact lor_eq_zero_iff

theorem uint8_xor_eq_zero {a b : UInt8} : a ^^^ b = 0 ↔ a = b := by
  simp only [uint8_eq_iff_toNat]
  exact Nat.xor_eq_zero

/-- The loop's accumulator ends at zero exactly when it starts at zero and the
two sequences agree. -/
theorem xorOrFold_eq_zero {v : UInt8} {x y : List UInt8} (h : x.length = y.length) :
    xorOrFold v x y = 0 ↔ v = 0 ∧ x = y := by
  induction x generalizing v y with
  | nil => cases y <;> simp_all [xorOrFold]
  | cons a x ih =>
    cases y with
    | nil => simp at h
    | cons b y =>
      simp only [xorOrFold, ih (Nat.succ.inj h), uint8_lor_eq_zero, uint8_xor_eq_zero,
        List.cons.injEq]
      tauto

theorem uint32_shiftRight_31 (u : UInt32) : (u >>> 31).toNat = u.toNat / 2 ^ 31 := by
  show (u.toBitVec >>> (UInt32.mod 31 32).toBitVec).toNat = _
  rw [BitVec.ushiftRight_eq', BitVec.toNat_ushiftRight, Nat.shiftRight_eq_div_pow]
  rfl

theorem uint32_sub_one (u : UInt32) : (u - 1).toNat = (2 ^ 32 - 1 + u.toNat) % 2 ^ 32 := by
  show (u.toBitVec - 1#32).toNat = _
  rw [BitVec.toNat_sub]
  rfl

/-- **The wraparound test**: `uint32(v) - 1` has its top bit set exactly when
`v` is zero. -/
theorem constantTimeByteEq_eq (x y : UInt8) :
    constantTimeByteEq x y = if x = y then 1 else 0 := by
  have hv := (x ^^^ y).toNat_lt_size
  have hu : (x ^^^ y).toUInt32.toNat = (x ^^^ y).toNat := by
    simp [UInt8.toUInt32, Nat.toUInt32, UInt32.toNat]
  have hxy : (x ^^^ y).toNat = 0 ↔ x = y := by
    rw [← uint8_xor_eq_zero, uint8_eq_iff_toNat]
    rfl
  rw [UInt8.size] at hv
  rw [constantTimeByteEq, uint32_shiftRight_31, uint32_sub_one, hu]
  split
  · rw [hxy.mpr ‹_›]
    rfl
  · have : (2 ^ 32 - 1 + (x ^^^ y).toNat) % 2 ^ 32 / 2 ^ 31 = 0 := by
      have := mt hxy.mp ‹_›
      omega
    rw [this]
    rfl

/-- **`ConstantTimeCompare` is equality**: it returns `1` exactly on two byte
sequences of the same length and the same contents, and `0` otherwise. -/
theorem constantTimeCompare_eq (x y : List UInt8) :
    constantTimeCompare x y = if x = y then 1 else 0 := by
  unfold constantTimeCompare
  by_cases hl : x.length = y.length
  · simp only [hl, ne_eq, not_true_eq_false, if_false, constantTimeByteEq_eq,
      xorOrFold_eq_zero hl, true_and]
  · simp only [hl, ne_eq, not_false_eq_true, if_true]
    exact (if_neg fun h => hl (congrArg List.length h)).symm

theorem constantTimeCompare_eq_one_iff {x y : List UInt8} :
    constantTimeCompare x y = 1 ↔ x = y := by
  rw [constantTimeCompare_eq]
  split <;> simp_all

/-! ### Comparing two keys -/

/-- `compareKeys(a, b)`: the algorithms first, then the marshaled bytes in
constant time. -/
def compareKeys (a b : Option PublicKey) : Except Panic Bool := do
  let ta ← keyType a
  let tb ← keyType b
  if ta ≠ tb then return false
  let ma ← keyMarshal a
  let mb ← keyMarshal b
  return constantTimeCompare ma mb == 1

/-- **Two keys compare equal exactly when their algorithms and their marshaled
forms are equal.** -/
@[simp] theorem compareKeys_some (a b : PublicKey) :
    compareKeys (some a) (some b) = .ok (decide (a.type = b.type ∧ a.marshal = b.marshal)) := by
  simp only [compareKeys, keyType, keyMarshal, except_bind_ok, constantTimeCompare_eq]
  by_cases ht : a.type = b.type <;> by_cases hm : a.marshal = b.marshal <;> simp [ht, hm]

/-- Comparing with a nil key calls `Type()` on it. -/
@[simp] theorem compareKeys_none (a : Option PublicKey) :
    compareKeys a none = .error .nilDereference := by
  cases a <;> rfl

/-! ### The authorized key -/

section AuthorizedKey

-- the SSH library's `ssh.ParseAuthorizedKey`, through its key and its error
variable (parseAuthorizedKey : List UInt8 → Except String PublicKey)

/-- `ioutil.ReadFile` with its error discarded: the file's bytes, or nil when the
file cannot be read. -/
def readFile (file : Option (List UInt8)) : List UInt8 :=
  file.getD []

/-- The authorized key as the code holds it: `ssh.ParseAuthorizedKey` on the
file's bytes, its error discarded, so nil when the file does not parse. -/
def allowedKey (file : Option (List UInt8)) : Option PublicKey :=
  (parseAuthorizedKey (readFile file)).toOption

@[simp] theorem allowedKey_of_error {file : Option (List UInt8)} {e : String}
    (h : parseAuthorizedKey (readFile file) = .error e) :
    allowedKey parseAuthorizedKey file = none := by
  simp [allowedKey, h, Except.toOption]

@[simp] theorem allowedKey_of_ok {file : Option (List UInt8)} {a : PublicKey}
    (h : parseAuthorizedKey (readFile file) = .ok a) :
    allowedKey parseAuthorizedKey file = some a := by
  simp [allowedKey, h, Except.toOption]

/-! ### The fingerprint -/

/-- One entry of `hex.Encode`'s table `"0123456789abcdef"`. -/
def hexDigit (n : UInt8) : UInt8 :=
  if n < 10 then 48 + n else 87 + n

/-- `hex.Encode`: each byte as two lowercase hexadecimal digits. -/
def hexEncode (src : List UInt8) : List UInt8 :=
  src.flatMap fun b => [hexDigit (b >>> 4), hexDigit (b &&& 0x0f)]

@[simp] theorem hexEncode_nil : hexEncode [] = [] := rfl

@[simp] theorem hexEncode_cons (b : UInt8) (hs : List UInt8) :
    hexEncode (b :: hs) = hexDigit (b >>> 4) :: hexDigit (b &&& 0x0f) :: hexEncode hs := rfl

@[simp] theorem length_hexEncode (src : List UInt8) : (hexEncode src).length = 2 * src.length := by
  induction src with
  | nil => rfl
  | cons b src ih => simp [ih]; omega

/-- `fp[j] = b` on the slice `fp`, which panics outside it. -/
def store (fp : List UInt8) (j : Nat) (b : UInt8) : Except Panic (List UInt8) :=
  if j < fp.length then .ok (fp.set j b) else .error (.indexOutOfRange j fp.length)

/-- The next write of the loop, after the bytes `out` it has written on a zeroed
slice of length `n`. -/
theorem store_written {out : List UInt8} {n j : Nat} (hj : j = out.length) (h : j < n)
    (b : UInt8) :
    store (out ++ List.replicate (n - out.length) 0) j b =
      .ok ((out ++ [b]) ++ List.replicate (n - (out ++ [b]).length) 0) := by
  subst hj
  obtain ⟨m, hm⟩ : ∃ m, n - out.length = m + 1 := ⟨n - out.length - 1, by omega⟩
  simp [store, hm, List.replicate_succ]
  omega

/-- The loop of `Fingerprint`, from index `i` of `buf` on and writing at `j`: a
`':'` before every even index but the first, then the byte. -/
def colonLoop (fp : List UInt8) (i j : Nat) : List UInt8 → Except Panic (List UInt8)
  | [] => .ok fp
  | b :: rest =>
    if i > 0 ∧ i % 2 = 0 then do
      let fp ← store fp j 58
      let fp ← store fp (j + 1) b
      colonLoop fp (i + 1) (j + 2) rest
    else do
      let fp ← store fp j b
      colonLoop fp (i + 1) (j + 1) rest

section Pass

variable {out : List UInt8} {n i : Nat} (c : UInt8) (rest : List UInt8)

/-- One pass at an even index but the first: a colon, then the byte. -/
theorem colonLoop_colon (hi : i > 0 ∧ i % 2 = 0) (h : out.length + 2 ≤ n) :
    colonLoop (out ++ List.replicate (n - out.length) 0) i out.length (c :: rest) =
      colonLoop (out ++ [58, c] ++ List.replicate (n - (out ++ [58, c]).length) 0) (i + 1)
        (out ++ [58, c]).length rest := by
  rw [colonLoop, if_pos hi, store_written rfl (by omega), except_bind_ok,
    store_written (by simp) (by omega), except_bind_ok]
  simp

/-- One pass at any other index: the byte. -/
theorem colonLoop_plain (hi : ¬(i > 0 ∧ i % 2 = 0)) (h : out.length + 1 ≤ n) :
    colonLoop (out ++ List.replicate (n - out.length) 0) i out.length (c :: rest) =
      colonLoop (out ++ [c] ++ List.replicate (n - (out ++ [c]).length) 0) (i + 1)
        (out ++ [c]).length rest := by
  rw [colonLoop, if_neg hi, store_written rfl (by omega), except_bind_ok]
  simp

end Pass

/-- **The loop after the first hash byte**: for each further byte, a colon and
its two hexadecimal digits. -/
theorem colonLoop_written {n : Nat} (hs : List UInt8) : ∀ (out : List UInt8) (k : Nat),
    out.length + 3 * hs.length ≤ n →
    colonLoop (out ++ List.replicate (n - out.length) 0) (2 * k + 2) out.length (hexEncode hs) =
      .ok (out ++ (hs.map fun b => 58 :: hexEncode [b]).flatten ++
        List.replicate (n - out.length - 3 * hs.length) 0) := by
  induction hs with
  | nil => intro out k _; simp [colonLoop]
  | cons b hs ih =>
    intro out k hn
    simp only [List.length_cons] at hn
    rw [hexEncode_cons, colonLoop_colon _ _ (by omega) (by omega),
      colonLoop_plain _ _ (by omega) (by simp; omega),
      show 2 * k + 2 + 1 + 1 = 2 * (k + 1) + 2 by omega,
      ih _ _ (by simp; omega)]
    simp only [List.append_assoc, List.cons_append, List.singleton_append, List.nil_append,
      hexEncode_cons, hexEncode_nil, List.length_append, List.length_cons, List.length_singleton,
      List.length_nil, List.map_cons, List.flatten_cons, Except.ok.injEq, List.append_cancel_left_eq,
      List.cons.injEq, List.replicate_inj, or_true, and_true, true_and]
    omega

/-- A non-empty list joined by a separator: its first element, then each further
one after the separator. -/
theorem intercalate_cons_eq {α : Type} (sep l : List α) (ls : List (List α)) :
    sep.intercalate (l :: ls) = l ++ (ls.map (sep ++ ·)).flatten := by
  induction ls generalizing l with
  | nil => simp [List.intercalate]
  | cons l' ls ih => simpa [List.intercalate, List.intersperse_cons₂] using ih l'

/-- The fingerprint as it is meant: the hexadecimal digits of each hash byte, the
bytes separated by colons. -/
def colonHex (hash : List UInt8) : List UInt8 :=
  [58].intercalate (hash.map fun b => hexEncode [b])

-- `md5.Sum`, whose result is a `[16]byte`
variable (md5Sum : List UInt8 → {h : List UInt8 // h.length = 16})

/-- `Fingerprint()`: the MD5 hash of the authorized key's marshaled form, in hex,
a colon between every two digits. -/
def fingerprint (file : Option (List UInt8)) : Except Panic (List UInt8) := do
  let m ← keyMarshal (allowedKey parseAuthorizedKey file)
  let buf := hexEncode (md5Sum m).1
  colonLoop (List.replicate (buf.length + 15) 0) 0 0 buf

/-- Without a parsed key, `Fingerprint` calls `Marshal()` on the nil key. -/
theorem fingerprint_of_error {file : Option (List UInt8)} {e : String}
    (h : parseAuthorizedKey (readFile file) = .error e) :
    fingerprint parseAuthorizedKey md5Sum file = .error .nilDereference := by
  simp [fingerprint, allowedKey_of_error parseAuthorizedKey h, keyMarshal]

/-- **With a parsed key, `Fingerprint` is the colon notation of the hash**: its
loop stays inside the slice, which `len(buf)+15` sizes exactly for the 32 digits
and 15 colons of a 16-byte hash, and it returns the hexadecimal digits of each
hash byte, the bytes separated by colons. -/
theorem fingerprint_of_ok {file : Option (List UInt8)} {a : PublicKey}
    (h : parseAuthorizedKey (readFile file) = .ok a) :
    fingerprint parseAuthorizedKey md5Sum file = .ok (colonHex (md5Sum a.marshal).1) := by
  rcases hm : md5Sum a.marshal with ⟨_ | ⟨b, rest⟩, hlen⟩
  · simp at hlen
  simp only [List.length_cons] at hlen
  simp only [fingerprint, allowedKey_of_ok parseAuthorizedKey h, keyMarshal, hm, except_bind_ok,
    length_hexEncode, List.length_cons, hexEncode_cons]
  rw [show 2 * (rest.length + 1) + 15 = 47 by omega]
  show colonLoop ([] ++ List.replicate (47 - ([] : List UInt8).length) 0) 0 ([] : List UInt8).length
    _ = _
  rw [colonLoop_plain _ _ (by decide) (by decide), colonLoop_plain _ _ (by decide) (by simp),
    show 0 + 1 + 1 = 2 * 0 + 2 from rfl, colonLoop_written _ _ _ (by simp; omega)]
  have h0 : 45 - 3 * rest.length = 0 := by omega
  simp [colonHex, intercalate_cons_eq, Function.comp_def, h0]

/-- A key file parsing to an RSA key, under a hash that is all zeroes. -/
theorem fingerprint_of_ok_rsa :
    (fun _ => .ok ⟨"ssh-rsa", [1, 2]⟩ : List UInt8 → Except String PublicKey) (readFile none) =
        .ok ⟨"ssh-rsa", [1, 2]⟩ ∧
      fingerprint (fun _ => .ok ⟨"ssh-rsa", [1, 2]⟩) (fun _ => ⟨List.replicate 16 0, rfl⟩) none =
        .ok (colonHex (List.replicate 16 0)) :=
  ⟨rfl, fingerprint_of_ok _ _ rfl⟩

end AuthorizedKey

end Sshd

end SaBuilder
