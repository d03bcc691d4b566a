import SaBuilder.Go.Strings

/-!
# Reading a ref update

The pre-receive hook hands the builder one line per updated ref,
`old-sha new-sha ref-name`. `readLine` splits the line at its spaces with
`strings.Split` and accepts it when there are three pieces.

`strings.Split` keeps the empty pieces between two adjacent spaces, and at either
end, and `readLine` does not look at the pieces. So a line is accepted exactly
when it has two spaces, and its three fields are what lies between them, empty
or not (`SaBuilder.Gitreceive.readLine_eq_ok`): `"a  b"` is read as the fields
`"a"`, `""` and `"b"`.
-/

namespace SaBuilder

namespace Gitreceive

open Strings

/-- `readLine` splits a line of the hook's input into its three fields. -/
def readLine (line : String) : Except String (String × String × String) :=
  match split line ' ' with
  | [oldRev, newRev, refName] => .ok (oldRev, newRev, refName)
  | _ => .error ("malformed line [" ++ line ++ "]")

/-- **What `readLine` accepts**: the lines made of three space-free fields, empty
or not, separated by single spaces, and it returns those fields. -/
theorem readLine_eq_ok {line a b c : String} :
    readLine line = .ok (a, b, c) ↔
      line = a ++ " " ++ b ++ " " ++ c ∧ ' ' ∉ a.data ∧ ' ' ∉ b.data ∧ ' ' ∉ c.data := by
  have hsplit : readLine line = .ok (a, b, c) ↔ split line ' ' = [a, b, c] := by
    unfold readLine
    split <;> simp_all
  have hjoin : join [a, b, c] ' ' = a ++ " " ++ b ++ " " ++ c := by
    simp [join, String.ext_iff, List.intercalate]
  rw [hsplit, split_eq_iff (List.cons_ne_nil _ _), hjoin]
  simp

/-- A line whose second field is empty, between two adjacent spaces, is
accepted. -/
theorem readLine_empty_field : readLine "a  b" = .ok ("a", "", "b") :=
  rfl

end Gitreceive

end SaBuilder
