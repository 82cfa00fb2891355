import Krometrail.Lib.BigEndian
import Krometrail.Lib.Readers

/-!
# Canonical readers

`Consumes p spelling` is the converse of `Reads`: whenever the reader `p` accepts, the bytes that it has taken are
`spelling value` of the value that it returns.  A format whose fields are all consumed so has one spelling for each
value.  Sequences of steps are taken apart by `run_bind_eq_ok`, and the last step of a field by `run_lift_eq_ok` and
`run_pure_eq_ok`.
-/

namespace Readers

open BigEndian

variable {ε α β : Type}

variable {p : Reader ε α} {bytes rest : List UInt8} {n : Nat}

theorem run_bind_eq_ok {f : α → Reader ε β} {value : β} :
    (p >>= f).run bytes = .ok (value, rest) ↔
      ∃ first unread, p.run bytes = .ok (first, unread) ∧ (f first).run unread = .ok (value, rest) := by
  rw [StateT.run_bind]
  cases h : p.run bytes with
  | error e => exact ⟨nofun, fun ⟨_, _, h', _⟩ => nomatch h'⟩
  | ok out =>
    obtain ⟨first, unread⟩ := out
    constructor
    · exact fun hrest => ⟨first, unread, rfl, hrest⟩
    · rintro ⟨first', unread', hout, hrest⟩
      cases hout
      exact hrest

theorem run_lift_eq_ok {result : Except ε α} {value : α} :
    (liftM result : Reader ε α).run bytes = .ok (value, rest) ↔ result = .ok value ∧ bytes = rest := by
  cases result with
  | error e => exact ⟨nofun, fun h => nomatch h.1⟩
  | ok a =>
    change Except.ok (a, bytes) = Except.ok (value, rest) ↔ _
    simp

theorem run_pure_eq_ok {value value' : α} :
    (Pure.pure value : Reader ε α).run bytes = .ok (value', rest) ↔ value = value' ∧ bytes = rest := by
  change Except.ok (value, bytes) = Except.ok (value', rest) ↔ _
  simp

theorem run_ensure_eq_ok {error : ε} {condition : Prop} [Decidable condition] {value : Unit} :
    (ensure error condition).run bytes = .ok (value, rest) ↔ condition ∧ bytes = rest := by
  unfold ensure
  split
  · rename_i h
    rw [run_pure_eq_ok]
    simp [h]
  · rename_i h
    exact ⟨nofun, fun hholds => absurd hholds.1 h⟩

theorem run_take_eq_ok {error : ε} {spelling : List UInt8} :
    (take error n).run bytes = .ok (spelling, rest) ↔ bytes = spelling ++ rest ∧ spelling.length = n := by
  change (if _ then _ else _) = _ ↔ _
  constructor
  · intro h
    split at h
    · rename_i hlength
      cases h
      exact ⟨(List.take_append_drop n bytes).symm, List.length_take_of_le hlength⟩
    · cases h
  · rintro ⟨rfl, rfl⟩
    simp

/-- What `p` takes, whenever it accepts, is the spelling of the value that it returns. -/
def Consumes (p : Reader ε α) (spelling : α → List UInt8) : Prop :=
  ∀ ⦃bytes rest value⦄, p.run bytes = .ok (value, rest) → bytes = spelling value ++ rest

/-- A field of fixed width is consumed when its value spells the bytes back. -/
theorem consumes_field (error : ε) {f : List UInt8 → β} {spelling : β → List UInt8}
    (h : ∀ bytes : List UInt8, bytes.length = n → spelling (f bytes) = bytes) :
    Consumes (do return f (← take error n)) spelling := by
  intro bytes rest value hrun
  obtain ⟨field, unread, hfield, hpure⟩ := run_bind_eq_ok.1 hrun
  obtain ⟨rfl, hlength⟩ := run_take_eq_ok.1 hfield
  obtain ⟨rfl, rfl⟩ := run_pure_eq_ok.1 hpure
  rw [h field hlength]

theorem consumes_checked (error : ε) {f : List UInt8 → Except ε β} {spelling : β → List UInt8}
    (h : ∀ bytes : List UInt8, bytes.length = n → ∀ value, f bytes = .ok value → spelling value = bytes) :
    Consumes (do liftM (f (← take error n))) spelling := by
  intro bytes rest value hrun
  obtain ⟨field, unread, hfield, hlift⟩ := run_bind_eq_ok.1 hrun
  obtain ⟨rfl, hlength⟩ := run_take_eq_ok.1 hfield
  obtain ⟨hvalue, rfl⟩ := run_lift_eq_ok.1 hlift
  rw [h field hlength value hvalue]

/-- A value that is read and then judged is spelled by the value that was read. -/
theorem Consumes.checked {spelling : α → List UInt8} (hp : Consumes p spelling) {f : α → Except ε β}
    {spelling' : β → List UInt8} (h : ∀ first value, f first = .ok value → spelling' value = spelling first) :
    Consumes (do liftM (f (← p))) spelling' := by
  intro bytes rest value hrun
  obtain ⟨first, unread, hfirst, hlift⟩ := run_bind_eq_ok.1 hrun
  obtain ⟨hvalue, rfl⟩ := run_lift_eq_ok.1 hlift
  rw [hp hfirst, h first value hvalue]

theorem Consumes.times {spelling : α → List UInt8} (hp : Consumes p spelling) {values : List α}
    (h : (times p n).run bytes = .ok (values, rest)) : bytes = values.flatMap spelling ++ rest ∧ values.length = n := by
  induction n generalizing bytes values with
  | zero =>
    obtain ⟨rfl, rfl⟩ := run_pure_eq_ok.1 h
    exact ⟨rfl, rfl⟩
  | succ n ih =>
    obtain ⟨value, unread, hvalue, htail⟩ := run_bind_eq_ok.1 h
    obtain ⟨values', unread', hvalues, hpure⟩ := run_bind_eq_ok.1 htail
    obtain ⟨rfl, rfl⟩ := run_pure_eq_ok.1 hpure
    obtain ⟨hunread, hlength⟩ := ih hvalues
    have hbytes := hp hvalue
    exact ⟨by rw [hbytes, hunread, List.flatMap_cons, List.append_assoc], by rw [List.length_cons, hlength]⟩

theorem toBytes_ofBytes_of_length {width : Nat} (h : bytes.length = width) : toBytes width (ofBytes bytes) = bytes := by
  rw [← h, toBytes_ofBytes]

/-- A number that was read from `width` bytes is below `256 ^ width`. -/
theorem ofBytes_lt_of_length {width : Nat} (h : bytes.length = width) : ofBytes bytes < 256 ^ width := by
  rw [← h]
  exact ofBytes_lt bytes

end Readers
