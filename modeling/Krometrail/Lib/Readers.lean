import Mathlib

/-!
# Readers of byte strings

A reader takes what it needs from the front of the unread bytes or fails.  `Reads p spelling value` says that `p`
reads `value` off the bytes `spelling`, whatever follows them; the rules compose readers the way their spellings
are appended, so that the round trip of a record follows from the round trips of its fields.
-/

namespace Readers

variable {ε α β : Type}

/-- A computation over the unread bytes that may fail. -/
abbrev Reader (ε α : Type) : Type := StateT (List UInt8) (Except ε) α

/-- The next `n` bytes, or `error` when fewer are left. -/
def take (error : ε) (n : Nat) : Reader ε (List UInt8) := fun bytes =>
  if n ≤ bytes.length then .ok (bytes.take n, bytes.drop n) else .error error

/-- Stops with `error` unless `condition` holds. -/
def ensure (error : ε) (condition : Prop) [Decidable condition] : Reader ε Unit :=
  if condition then Pure.pure () else throw error

/-- `p` reads `value` off the bytes `spelling`, whatever follows. -/
def Reads (p : Reader ε α) (spelling : List UInt8) (value : α) : Prop :=
  ∀ rest, p.run (spelling ++ rest) = .ok (value, rest)

variable {spelling : List UInt8} {p : Reader ε α} {value : α}

theorem reads_take (error : ε) {n : Nat} (h : spelling.length = n) : Reads (take error n) spelling spelling := by
  intro rest
  subst h
  change (if _ then _ else _) = _
  simp

theorem Reads.pure (value : α) : Reads (ε := ε) (Pure.pure value) [] value := fun _ => rfl

theorem Reads.bind {f : α → Reader ε β} {spelling' : List UInt8} {value' : β} (hp : Reads p spelling value)
    (hf : Reads (f value) spelling' value') : Reads (p >>= f) (spelling ++ spelling') value' := by
  intro rest
  rw [StateT.run_bind, List.append_assoc, hp]
  exact hf rest

theorem Reads.bind_pure {f : α → Reader ε β} {value' : β} (hp : Reads p [] value) (hf : Reads (f value) spelling value')
    : Reads (p >>= f) spelling value' :=
  hp.bind hf

theorem Reads.map (f : α → β) (hp : Reads p spelling value) : Reads (do return f (← p)) spelling (f value) := by
  simpa using hp.bind (f := fun value => Pure.pure (f value)) (Reads.pure (f value))

theorem reads_ensure (error : ε) {condition : Prop} [Decidable condition] (h : condition) :
    Reads (ensure error condition) [] () := by
  rw [ensure, if_pos h]
  exact Reads.pure ()

theorem reads_lift {result : Except ε α} (h : result = .ok value) : Reads (liftM result : Reader ε α) [] value := by
  subst h
  exact fun rest => rfl

/-- `p`, `n` times over. -/
def times (p : Reader ε α) : Nat → Reader ε (List α)
  | 0 => Pure.pure []
  | n + 1 => do
    let value ← p
    let values ← times p n
    Pure.pure (value :: values)

theorem reads_times {spelling : α → List UInt8} (values : List α) (h : ∀ value ∈ values, Reads p (spelling value) value) :
    Reads (times p values.length) (values.flatMap spelling) values := by
  induction values with
  | nil => exact Reads.pure []
  | cons value values ih =>
    have htail := (ih fun a ha => h a (by simp [ha])).bind (f := fun values => Pure.pure (value :: values)) (Reads.pure _)
    rw [List.append_nil] at htail
    exact (h value (by simp)).bind htail

/-- A reader in front of another one that need not leave what follows alone. -/
theorem Reads.run_bind (h : Reads p spelling value) (f : α → Reader ε β) (rest : List UInt8)
    : (p >>= f).run (spelling ++ rest) = (f value).run rest := by
  rw [StateT.run_bind, h]
  rfl

theorem run_lift_bind {result : Except ε α} (h : result = .ok value) (f : α → Reader ε β) (bytes : List UInt8)
    : ((liftM result : Reader ε α) >>= f).run bytes = (f value).run bytes := by
  subst h
  rfl

theorem Reads.run_eq (h : Reads p spelling value) : p.run spelling = .ok (value, []) := by
  simpa using h []

end Readers
