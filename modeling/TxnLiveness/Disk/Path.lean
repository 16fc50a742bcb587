/-!
# Paths

A path names a file by the directories that lead there. Slashes at its end, repeated slashes and
steps that stay where they are do not count. `parent?` is the path of the directory that a path
lies in.
-/

namespace TxnLiveness.Disk

/-- Drops slashes and steps that stay where they are from the front of a reversed path, of which the
root remains. -/
def trimEnd : List Char → List Char
  | ['/'] => ['/']
  | '/' :: r => trimEnd r
  | '.' :: '/' :: r => trimEnd ('/' :: r)
  | r => r

theorem length_trimEnd_le (r : List Char) : (trimEnd r).length ≤ r.length := by
  fun_induction trimEnd r <;> simp_all <;> omega

/-- The reversed path of the directory that a path without slashes at its end lies in. -/
def above (r : List Char) : List Char := trimEnd (r.tail.dropWhile (· ≠ '/'))

theorem length_above_lt (c : Char) (r : List Char) : (above (c :: r)).length < (c :: r).length := by
  have h := (List.dropWhile_sublist (l := r) (· ≠ '/')).length_le
  have := length_trimEnd_le (r.dropWhile (· ≠ '/'))
  simp only [above, List.tail_cons, List.length_cons]
  omega

/-- The path of the directory that a path lies in, which is empty for a mere name. The root lies in
no directory. -/
def parent? (path : String) : Option String :=
  match trimEnd path.toList.reverse with
  | [] | ['/'] => none
  | r => some (String.ofList (above r).reverse)

/-- The directories on a reversed path that have names, innermost first. -/
def lineageFrom (r : List Char) : List String :=
  match r with
  | [] | ['/'] => []
  | c :: r => String.ofList (c :: r).reverse :: lineageFrom (above (c :: r))
termination_by r.length
decreasing_by exact length_above_lt c r

/-- A directory and those it lies in, innermost first, but neither the root nor the directory that
relative paths start from. -/
def lineage (path : String) : List String := lineageFrom (trimEnd path.toList.reverse)

/-- The names on a path, of which those before the first slash and behind the last may be empty. -/
def names : List Char → List (List Char)
  | [] => [[]]
  | c :: l =>
    if c = '/' then [] :: names l
    else
      match names l with
      | [] => [[c]]
      | name :: rest => (c :: name) :: rest

end TxnLiveness.Disk
