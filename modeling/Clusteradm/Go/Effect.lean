import Mathlib.Logic.Basic

/-!
# Go results: errors, panics, and the state-and-error monad

A Go function of the join command returns an `error`, may panic, and mutates its receiver in place; the
mutation stays visible after it returns an error. `EStateM` is that shape: the state survives on both exits.
This file fixes the error values the model uses and gives `EStateM` the application lemmas every proof of a
modelled function starts from, so that no later proof unfolds `bind`.
-/

namespace Clusteradm

/-- A Go byte slice. A nil slice and an empty one are the same value here; where the code compares a slice
with `nil` the field is an `Option Bytes` instead. -/
abbrev Bytes := List UInt8

/-- A Go `error` value. Errors of the Kubernetes client carry a `metav1.StatusReason`
(`apierrors.StatusError`);
errors made by `fmt.Errorf` carry only their text; `timeout` is the condition poller's timeout error. -/
inductive GoError
  | status (reason message : String)
  | text (message : String)
  | timeout
deriving DecidableEq, Repr

/-- Go's `len(s) == 0` on a string is emptiness. -/
theorem string_length_eq_zero (s : String) : s.length = 0 ↔ s = "" := by
  cases s
  simp [String.length, String.ext_iff]

/-- `errors.IsNotFound`: the error's status reason is `NotFound`. -/
def GoError.isNotFound : GoError → Bool
  | .status reason _ => reason == "NotFound"
  | _ => false

/-- How a Go call ends abnormally: it returns an `error`, or it panics (a nil dereference, an index out of
range). -/
inductive Fault
  | error (e : GoError)
  | panic (what : String)
deriving DecidableEq, Repr

end Clusteradm

namespace EStateM

variable {ε σ α β : Type}

/-! ## Application lemmas -/

@[simp] theorem bind_apply (x : EStateM ε σ α) (f : α → EStateM ε σ β) (s : σ) :
    (x >>= f) s = match x s with | .ok a s => f a s | .error e s => .error e s := rfl

@[simp] theorem pure_apply (a : α) (s : σ) : (pure a : EStateM ε σ α) s = .ok a s := rfl

@[simp] theorem throw_apply (e : ε) (s : σ) : (throw e : EStateM ε σ α) s = .error e s := rfl

@[simp] theorem get_apply (s : σ) : (get : EStateM ε σ σ) s = .ok s s := rfl

@[simp] theorem set_apply (s s' : σ) : (set s' : EStateM ε σ PUnit) s = .ok ⟨⟩ s' := rfl

@[simp] theorem modify_apply (f : σ → σ) (s : σ) :
    (modify f : EStateM ε σ PUnit) s = .ok ⟨⟩ (f s) := rfl

@[simp] theorem map_apply (f : α → β) (x : EStateM ε σ α) (s : σ) :
    (f <$> x) s = match x s with | .ok a s => .ok (f a) s | .error e s => .error e s := rfl

/-- A computation that ended normally ran each of its two halves normally. -/
theorem bind_eq_ok {x : EStateM ε σ α} {f : α → EStateM ε σ β} {s s' : σ} {b : β} :
    (x >>= f) s = .ok b s' ↔ ∃ a s₁, x s = .ok a s₁ ∧ f a s₁ = .ok b s' := by
  rw [bind_apply]
  cases x s <;> simp [and_assoc]

/-- Go's `defer`: `fin` runs after `x` on every exit, normal or not. `fin` cannot fail. -/
def deferring (x : EStateM ε σ α) (fin : σ → σ) : EStateM ε σ α := fun s =>
  match x s with
  | .ok a s => .ok a (fin s)
  | .error e s => .error e (fin s)

/-- The state a computation leaves, on either exit. -/
def Result.state : Result ε σ α → σ
  | .ok _ s => s
  | .error _ s => s

@[simp] theorem Result.state_ok (a : α) (s : σ) : (Result.ok a s : Result ε σ α).state = s := rfl

@[simp] theorem Result.state_error (e : ε) (s : σ) : (Result.error e s : Result ε σ α).state = s := rfl

/-- What a computation returned, its state aside. -/
def Result.value : Result ε σ α → Except ε α
  | .ok a _ => .ok a
  | .error e _ => .error e

@[simp] theorem Result.value_ok (a : α) (s : σ) : (Result.ok a s : Result ε σ α).value = .ok a := rfl

@[simp] theorem Result.value_error (e : ε) (s : σ) : (Result.error e s : Result ε σ α).value = .error e := rfl

/-- A run of a `Unit`-valued computation that did not succeed in the state it left ended in an error. -/
theorem Result.eq_error_of_ne_ok {r : Result ε σ Unit} (h : r ≠ .ok () r.state) : ∃ e, r = .error e r.state := by
  cases r with
  | ok u s => exact absurd rfl h
  | error e s => exact ⟨e, rfl⟩

@[simp] theorem deferring_state (x : EStateM ε σ α) (fin : σ → σ) (s : σ) :
    (deferring x fin s).state = fin (x s).state := by
  unfold deferring
  cases x s <;> rfl

end EStateM
