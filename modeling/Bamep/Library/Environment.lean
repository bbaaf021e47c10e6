import Bamep.Library.Text

/-! A configuration read from named texts: values that must be there, and durations with a default and bounds. -/
namespace Environment

abbrev Lookup := String → Option String

inductive Error where
  | missingEnv (name : String)
  | invalidEnv (name reason : String)
  deriving DecidableEq, Repr

def required (get : Lookup) (name : String) : Except Error String :=
  match get name with
  | some value => .ok value
  | none => .error (.missingEnv name)

def boundedMillis (get : Lookup) (name : String) (default low high : Nat) : Except Error Nat :=
  match get name with
  | none => .ok default
  | some raw =>
    match Text.parseUnsigned (2 ^ 64) raw.toList with
    | none => .error (.invalidEnv name "not a valid non-negative integer")
    | some ms =>
      if low ≤ ms ∧ ms ≤ high then .ok ms
      else .error (.invalidEnv name ("must be between " ++ low.repr ++ " and " ++ high.repr ++ " milliseconds, got " ++ ms.repr))

theorem bindOk {α β : Type} {read} {next : α → Except Error β} {result}
    (done : read >>= next = .ok result) : ∃ value, read = .ok value ∧ next value = .ok result := by
  cases read with
  | error e => cases done
  | ok value => exact ⟨value,rfl,done⟩

end Environment
