import Mathlib.Data.Nat.Bitwise

/-!
# Panics and failing computations

The modelled Go code fails in two ways. A function returns a non-nil `error`,
which the model returns as `Except.error` of its message; or the runtime panics,
which the model returns as `Except.error` of a `SaBuilder.Panic`. A panic is not
caught anywhere in the code: in the SSH server it ends the process.

The equations below let `simp` run a `do` block of `Except` one step at a time.
-/

namespace SaBuilder

/-- The run-time panics the modelled code can raise. -/
inductive Panic where
  /-- A method called on a nil interface value. -/
  | nilDereference : Panic
  /-- A type assertion `x.(T)` on a value that does not hold a `T`. -/
  | interfaceConversion (target : String) : Panic
  /-- A slice written at an index outside it. -/
  | indexOutOfRange (index len : Nat) : Panic
  deriving DecidableEq, Repr

section Except

variable {ε α β : Type}

@[simp] theorem except_bind_ok (a : α) (f : α → Except ε β) : (Except.ok a >>= f) = f a := rfl

@[simp] theorem except_bind_error (e : ε) (f : α → Except ε β) :
    (Except.error e >>= f) = .error e := rfl

@[simp] theorem except_pure (a : α) : (pure a : Except ε α) = .ok a := rfl

end Except

end SaBuilder
