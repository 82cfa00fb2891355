import Krometrail.Core.Error
import Krometrail.Core.Values
import Krometrail.Lib.Stateful

/-!
# Keys

How a sequence of chords is pressed.  Each key of a chord is a command to the browser; a command that fails ends the sequence, whether or
not it was delivered before.
-/

namespace Krometrail.Control

inductive Modifier
  | alt | control | shift | metaKey
  deriving DecidableEq

@[ext] structure Modifiers where
  alt : Bool
  control : Bool
  shift : Bool
  metaKey : Bool
  deriving DecidableEq

def Modifiers.default : Modifiers := ⟨false, false, false, false⟩

/-- `set_modifier`. -/
def Modifiers.set (value : Modifiers) (modifier : Modifier) (active : Bool) : Modifiers :=
  match modifier with
  | .alt => { value with alt := active }
  | .control => { value with control := active }
  | .shift => { value with shift := active }
  | .metaKey => { value with metaKey := active }

def modifierMask (value : Modifiers) : Nat :=
  value.alt.toNat ||| (value.control.toNat <<< 1) ||| (value.metaKey.toNat <<< 2) ||| (value.shift.toNat <<< 3)

inductive NamedKey
  | enter | tab | escape | backspace | delete | space | arrowUp | arrowDown | arrowLeft | arrowRight | home | «end» | pageUp | pageDown
  | f1 | f2 | f3 | f4 | f5 | f6 | f7 | f8 | f9 | f10 | f11 | f12

inductive KeySegment
  | modifier (modifier : Modifier)
  | namedKey (named : NamedKey)
  | char (ch : Char)

def KeySegment.modifier? : KeySegment → Option Modifier
  | .modifier value => some value
  | .namedKey _ | .char _ => none

/-- A chord that `parse_chord` accepts, by its segments. -/
structure KeyChord where
  segments : List KeySegment
  modifiers_nodup : (segments.filterMap KeySegment.modifier?).Nodup
  action_key : (segments.filter fun segment => segment.modifier?.isNone).length = 1

structure KeyDispatch where
  key : String
  code : String
  location : Nat
  keycode : Nat

/-- The function `key`. -/
def dispatchOf (key code : String) (keycode : Nat) : KeyDispatch := ⟨key, code, 0, keycode⟩

/-- `KEY_DISPATCH`. -/
def keyDispatch : NamedKey → KeyDispatch
  | .enter => dispatchOf "Enter" "Enter" 13
  | .tab => dispatchOf "Tab" "Tab" 9
  | .escape => dispatchOf "Escape" "Escape" 27
  | .backspace => dispatchOf "Backspace" "Backspace" 8
  | .delete => dispatchOf "Delete" "Delete" 46
  | .space => dispatchOf " " "Space" 32
  | .arrowUp => dispatchOf "ArrowUp" "ArrowUp" 38
  | .arrowDown => dispatchOf "ArrowDown" "ArrowDown" 40
  | .arrowLeft => dispatchOf "ArrowLeft" "ArrowLeft" 37
  | .arrowRight => dispatchOf "ArrowRight" "ArrowRight" 39
  | .home => dispatchOf "Home" "Home" 36
  | .«end» => dispatchOf "End" "End" 35
  | .pageUp => dispatchOf "PageUp" "PageUp" 33
  | .pageDown => dispatchOf "PageDown" "PageDown" 34
  | .f1 => dispatchOf "F1" "F1" 112
  | .f2 => dispatchOf "F2" "F2" 113
  | .f3 => dispatchOf "F3" "F3" 114
  | .f4 => dispatchOf "F4" "F4" 115
  | .f5 => dispatchOf "F5" "F5" 116
  | .f6 => dispatchOf "F6" "F6" 117
  | .f7 => dispatchOf "F7" "F7" 118
  | .f8 => dispatchOf "F8" "F8" 119
  | .f9 => dispatchOf "F9" "F9" 120
  | .f10 => dispatchOf "F10" "F10" 121
  | .f11 => dispatchOf "F11" "F11" 122
  | .f12 => dispatchOf "F12" "F12" 123

inductive KeyEventType
  | keyDown | rawKeyDown | keyUp
  deriving DecidableEq

/-- The parameters of `Input.dispatchKeyEvent`. -/
structure KeyEvent where
  type : KeyEventType
  key : String
  code : String
  location : Nat
  keycode : Nat
  text : Option String
  modifiers : Nat

/-! ### Commands -/

/-- How a command ends: it is answered, or it fails or is cancelled, and may have been delivered all the same. -/
inductive Attempt
  | answered
  | failed (delivered : Bool) (error : KrometrailError)

structure Sent where
  event : KeyEvent
  delivered : Bool

/-- A computation that sends key events. -/
abbrev Keyboard (α : Type) := EStateM KrometrailError (List Sent) α

section Commands

variable (attempts : Nat → Attempt)

/-- `dispatch_key_event`; the commands are numbered in the order in which they are sent. -/
def dispatchKeyEvent (event : KeyEvent) : Keyboard Unit := fun sent =>
  match attempts sent.length with
  | .answered => .ok () (sent ++ [⟨event, true⟩])
  | .failed delivered error => .error error (sent ++ [⟨event, delivered⟩])

def emitsText (modifiers : Modifiers) : Bool := !modifiers.control && !modifiers.metaKey && !modifiers.alt

/-- The key goes down and up, with its text where it emits one. -/
def dispatchKey (dispatch : KeyDispatch) (text : Option String) (modifiers : Modifiers) : Keyboard Unit := do
  dispatchKeyEvent attempts ⟨if text.isSome then .keyDown else .rawKeyDown, dispatch.key, dispatch.code, dispatch.location, dispatch.keycode,
    text, modifierMask modifiers⟩
  dispatchKeyEvent attempts ⟨.keyUp, dispatch.key, dispatch.code, dispatch.location, dispatch.keycode, none, modifierMask modifiers⟩

def dispatchNamed (named : NamedKey) (modifiers : Modifiers) : Keyboard Unit :=
  let text := match named with
    | .enter => some "\r"
    | .space => some " "
    | _ => none
  dispatchKey attempts (keyDispatch named) (text.filter fun _ => emitsText modifiers) modifiers

def dispatchCharKey (ch : Char) (modifiers : Modifiers) : Keyboard Unit :=
  let ch := if modifiers.shift && ch.isLower then ch.toUpper else ch
  let text := ch.toString
  let code := if ch.isAlpha then "Key" ++ ch.toUpper.toString else ""
  let keycode := ch.toUpper.toNat % 2 ^ 16
  dispatchKey attempts ⟨text, code, 0, keycode⟩ (if emitsText modifiers then some text else none) modifiers

def Modifier.dispatch : Modifier → KeyDispatch
  | .alt => ⟨"Alt", "AltLeft", 1, 18⟩
  | .control => ⟨"Control", "ControlLeft", 1, 17⟩
  | .shift => ⟨"Shift", "ShiftLeft", 1, 16⟩
  | .metaKey => ⟨"Meta", "MetaLeft", 1, 91⟩

/-- The event of a modifier that goes down or up. -/
def Modifier.event (modifier : Modifier) (down : Bool) (modifiers : Modifiers) : KeyEvent :=
  ⟨if down then .rawKeyDown else .keyUp, modifier.dispatch.key, modifier.dispatch.code, modifier.dispatch.location,
    modifier.dispatch.keycode, none, modifierMask modifiers⟩

def dispatchModifier (modifier : Modifier) (down : Bool) (modifiers : Modifiers) : Keyboard Unit :=
  dispatchKeyEvent attempts (modifier.event down modifiers)

/-- A turn of the loop that presses the modifiers of a chord. -/
def holdModifier : Modifiers × List Modifier → KeySegment → Keyboard (Modifiers × List Modifier)
  | (modifiers, held), .modifier modifier => do
    let modifiers := modifiers.set modifier true
    dispatchModifier attempts modifier true modifiers
    return (modifiers, held ++ [modifier])
  | state, _ => return state

/-- A turn of the loop that presses the other keys of a chord. -/
def dispatchSegment (modifiers : Modifiers) : KeySegment → Keyboard Unit
  | .modifier _ => return ()
  | .namedKey named => dispatchNamed attempts named modifiers
  | .char ch => dispatchCharKey attempts ch modifiers

/-- A turn of the loop that releases the modifiers of a chord. -/
def releaseModifier (modifiers : Modifiers) (modifier : Modifier) : Keyboard Modifiers := do
  let modifiers := modifiers.set modifier false
  dispatchModifier attempts modifier false modifiers
  return modifiers

/-- A turn of the loop over the chords. -/
def pressChord (segments : List KeySegment) : Keyboard Unit := do
  let (modifiers, held) ← segments.foldlM (holdModifier attempts) (.default, [])
  segments.forM (dispatchSegment attempts modifiers)
  let _ ← held.reverse.foldlM (releaseModifier attempts) modifiers
  return ()

/-- `press_keys`; `focus` is how focusing ends, where the target is not the whole page. -/
def pressKeys (focus : Option (Result Unit)) (keys : List KeyChord) : Keyboard Unit := do
  match focus with
  | some (.error error) => throw error
  | _ => pure ()
  keys.forM fun chord => pressChord attempts chord.segments

end Commands

end Krometrail.Control

/-!
## Modifiers that are held

What the browser holds after a sequence of commands.  A sequence that is cut short by a command that fails leaves the modifiers held that were
down at that moment: they are all released exactly when no command fails while one is held.
-/

namespace Krometrail.Control

open Stateful (finalState)

/-! ### Masks -/

def Modifiers.get (value : Modifiers) : Modifier → Bool
  | .alt => value.alt
  | .control => value.control
  | .shift => value.shift
  | .metaKey => value.metaKey

/-- The modifiers of a list. -/
def holding (held : List Modifier) : Modifiers :=
  ⟨decide (.alt ∈ held), decide (.control ∈ held), decide (.shift ∈ held), decide (.metaKey ∈ held)⟩

@[simp] theorem get_holding (held : List Modifier) (m : Modifier) : (holding held).get m = decide (m ∈ held) := by
  cases m <;> rfl

theorem Modifiers.ext_get {a b : Modifiers} (h : ∀ m, a.get m = b.get m) : a = b :=
  Modifiers.ext (h .alt) (h .control) (h .shift) (h .metaKey)

@[simp] theorem Modifiers.get_set (value : Modifiers) (m m' : Modifier) (active : Bool) :
    (value.set m active).get m' = if m' = m then active else value.get m' := by
  cases m <;> cases m' <;> rfl

theorem modifierMask_injective {a b : Modifiers} (h : modifierMask a = modifierMask b) : a = b := by
  obtain ⟨a₁, a₂, a₃, a₄⟩ := a
  obtain ⟨b₁, b₂, b₃, b₄⟩ := b
  revert a₁ a₂ a₃ a₄ b₁ b₂ b₃ b₄
  decide

theorem holding_nil : holding [] = .default := rfl

theorem holding_append (held : List Modifier) (m : Modifier) : (holding held).set m true = holding (held ++ [m]) := by
  refine Modifiers.ext_get fun m' => ?_
  simp only [Modifiers.get_set, get_holding, List.mem_append, List.mem_singleton]
  split <;> simp_all

theorem holding_release {held : List Modifier} {m : Modifier} (h : m ∉ held) : (holding (held ++ [m])).set m false = holding held := by
  refine Modifiers.ext_get fun m' => ?_
  simp only [Modifiers.get_set, get_holding, List.mem_append, List.mem_singleton]
  split <;> simp_all

theorem mask_eq_zero {held : List Modifier} : modifierMask (holding held) = 0 ↔ held = [] := by
  constructor
  · intro h
    have hnone : holding held = holding [] := modifierMask_injective h
    refine List.eq_nil_iff_forall_not_mem.2 fun m hm => ?_
    have hget := congrArg (Modifiers.get · m) hnone
    simp [hm] at hget
  · rintro rfl
    rfl

/-! ### Events -/

/-- The modifier whose key an event is about. -/
def KeyEvent.modifier? (event : KeyEvent) : Option Modifier :=
  [Modifier.alt, .control, .shift, .metaKey].find? fun m => decide (m.dispatch.code = event.code)

@[simp] theorem modifier?_event (m : Modifier) (down : Bool) (modifiers : Modifiers) : (m.event down modifiers).modifier? = some m := by
  cases m <;> rfl

/-- The modifiers that are held once a command has been sent. -/
def heldStep (held : List Modifier) (sent : Sent) : List Modifier :=
  match sent.event.modifier? with
  | none => held
  | some m => if sent.event.type = .keyUp then held.erase m else if sent.delivered then held ++ [m] else held

/-- The modifiers for which a key-down was delivered and no key-up has been sent since, in the order in which they were pressed. -/
def heldAfter (log : List Sent) : List Modifier := log.foldl heldStep []

theorem heldAfter_concat (log : List Sent) (sent : Sent) : heldAfter (log ++ [sent]) = heldStep (heldAfter log) sent := by
  rw [heldAfter, List.foldl_append]
  rfl

/-- A key-up is of the modifier that was pressed last, and an event that is delivered carries the modifiers that are held. -/
structure Fits (held : List Modifier) (sent : Sent) : Prop where
  last : ∀ m, sent.event.modifier? = some m → sent.event.type = .keyUp → held.getLast? = some m
  carries : sent.delivered = true → sent.event.modifiers = modifierMask (holding (heldStep held sent))

def Orderly (log : List Sent) : Prop := ∀ front sent back, log = front ++ sent :: back → Fits (heldAfter front) sent

/-- Every modifier that went down has been released afterwards, in the reverse order. -/
structure Released (log : List Sent) : Prop where
  orderly : Orderly log
  none_held : heldAfter log = []

theorem orderly_nil : Orderly [] := fun _ _ _ h => absurd h (by simp)

theorem Orderly.concat {log : List Sent} {sent : Sent} (h : Orderly log) (hfits : Fits (heldAfter log) sent) : Orderly (log ++ [sent]) := by
  intro front other back hsplit
  rcases back.eq_nil_or_concat with rfl | ⟨init, last, rfl⟩
  · obtain ⟨rfl, heq⟩ := List.append_inj' hsplit rfl
    exact (List.cons.inj heq).1 ▸ hfits
  · rw [List.concat_eq_append, ← List.cons_append, ← List.append_assoc] at hsplit
    exact h front other init (List.append_inj' hsplit rfl).1

/-- Events that press, use and release modifiers, from those that are held to those that are held at the end. -/
inductive Planned : List Modifier → List KeyEvent → List Modifier → Prop
  | done (held : List Modifier) : Planned held [] held
  | press {held : List Modifier} {m : Modifier} {events : List KeyEvent} {final : List Modifier} (hnew : m ∉ held)
    (h : Planned (held ++ [m]) events final) : Planned held (m.event true (holding (held ++ [m])) :: events) final
  | release {held : List Modifier} {m : Modifier} {events : List KeyEvent} {final : List Modifier} (hnew : m ∉ held)
    (h : Planned held events final) : Planned (held ++ [m]) (m.event false (holding held) :: events) final
  | key {held : List Modifier} {event : KeyEvent} {events : List KeyEvent} {final : List Modifier} (hkey : event.modifier? = none)
    (hmask : event.modifiers = modifierMask (holding held)) (h : Planned held events final) : Planned held (event :: events) final

variable {held final rest : List Modifier} {events others : List KeyEvent} {event : KeyEvent} {m : Modifier} {log : List Sent}
  {attempts : Nat → Attempt}

theorem Planned.append (h : Planned held events rest) (h' : Planned rest others final) : Planned held (events ++ others) final := by
  induction h with
  | done held => exact h'
  | press hnew _ ih => exact .press hnew (ih h')
  | release hnew _ ih => exact .release hnew (ih h')
  | key hkey hmask _ ih => exact .key hkey hmask (ih h')

/-- The commands for events, one after the other. -/
def sendAll (attempts : Nat → Attempt) : List KeyEvent → Keyboard Unit
  | [] => pure ()
  | event :: events => do
    dispatchKeyEvent attempts event
    sendAll attempts events

theorem sendAll_append : sendAll attempts (events ++ others) = (do sendAll attempts events; sendAll attempts others) := by
  induction events with
  | nil => rfl
  | cons event events ih => rw [List.cons_append, sendAll, sendAll, ih, bind_assoc]

/-- No modifier is left held by an event at which a sequence is cut short. -/
def Unheld (event : KeyEvent) (delivered : Bool) : Prop :=
  event.modifiers = 0 ∨ delivered = false ∧ ∃ m : Modifier, event = m.event true (holding [m])

/-- The first of the commands that fails leaves no modifier held. -/
def Harmless (attempts : Nat → Attempt) (start : Nat) (events : List KeyEvent) : Prop :=
  ∀ k event delivered error, events[k]? = some event → (∀ i < k, attempts (start + i) = .answered) →
    attempts (start + k) = .failed delivered error → Unheld event delivered

theorem harmless_nil {start : Nat} : Harmless attempts start [] := fun _ _ _ _ h => nomatch h

theorem harmless_answered {start : Nat} (h : attempts start = .answered) :
    Harmless attempts start (event :: events) ↔ Harmless attempts (start + 1) events := by
  constructor
  · intro hall k other delivered error hk hbefore hfails
    refine hall (k + 1) other delivered error (by simpa using hk) (fun i hi => ?_) (by rwa [Nat.add_right_comm] at hfails)
    rcases i with _ | i
    · exact h
    · have := hbefore i (by omega)
      rwa [Nat.add_right_comm] at this
  · intro hall k other delivered error hk hbefore hfails
    rcases k with _ | k
    · rw [Nat.add_zero, h] at hfails
      cases hfails
    · refine hall k other delivered error (by simpa using hk) (fun i hi => ?_) (by rwa [Nat.add_right_comm])
      rw [Nat.add_right_comm]
      exact hbefore (i + 1) (by omega)

theorem harmless_failed {start : Nat} {delivered : Bool} {error : KrometrailError} (h : attempts start = .failed delivered error) :
    Harmless attempts start (event :: events) ↔ Unheld event delivered := by
  constructor
  · intro hall
    exact hall 0 event delivered error rfl (fun i hi => absurd hi (Nat.not_lt_zero i)) h
  · intro hunheld k other delivered' error' hk hbefore hfails
    rcases k with _ | k
    · rw [Nat.add_zero, h] at hfails
      obtain ⟨rfl, -⟩ := Attempt.failed.inj hfails
      exact Option.some.inj hk ▸ hunheld
    · have := (hbefore 0 (Nat.succ_pos k)).symm.trans h
      cases this

/-! ### Runs of commands -/

theorem sendAll_answered (h : attempts log.length = .answered) :
    finalState (sendAll attempts (event :: events) log) = finalState (sendAll attempts events (log ++ [⟨event, true⟩])) := by
  change finalState (EStateM.bind (dispatchKeyEvent attempts event) (fun _ => sendAll attempts events) log) = _
  rw [EStateM.bind, dispatchKeyEvent, h]

theorem sendAll_failed {delivered : Bool} {error : KrometrailError} (h : attempts log.length = .failed delivered error) :
    finalState (sendAll attempts (event :: events) log) = log ++ [⟨event, delivered⟩] := by
  change finalState (EStateM.bind (dispatchKeyEvent attempts event) (fun _ => sendAll attempts events) log) = _
  rw [EStateM.bind, dispatchKeyEvent, h]
  rfl

theorem released_cons (hfits : ∀ delivered, Fits held ⟨event, delivered⟩)
    (hunheld : ∀ delivered, heldStep held ⟨event, delivered⟩ = [] ↔ Unheld event delivered)
    (hrest : ∀ log, Orderly log → heldAfter log = heldStep held ⟨event, true⟩ →
      (Released (finalState (sendAll attempts events log)) ↔ Harmless attempts log.length events))
    (horderly : Orderly log) (hheld : heldAfter log = held) :
    Released (finalState (sendAll attempts (event :: events) log)) ↔ Harmless attempts log.length (event :: events) := by
  subst hheld
  cases hattempt : attempts log.length with
  | answered =>
    rw [sendAll_answered hattempt, harmless_answered hattempt, hrest _ (horderly.concat (hfits true)) (heldAfter_concat _ _),
      List.length_append, List.length_singleton]
  | failed delivered error =>
    rw [sendAll_failed hattempt, harmless_failed hattempt, ← hunheld delivered, ← heldAfter_concat]
    exact ⟨fun h => h.none_held, fun h => ⟨horderly.concat (hfits delivered), h⟩⟩

theorem heldStep_press (delivered : Bool) (modifiers : Modifiers) :
    heldStep held ⟨m.event true modifiers, delivered⟩ = if delivered then held ++ [m] else held := by
  rw [heldStep, modifier?_event]
  exact if_neg nofun

theorem heldStep_release (hnew : m ∉ held) (delivered : Bool) (modifiers : Modifiers) :
    heldStep (held ++ [m]) ⟨m.event false modifiers, delivered⟩ = held := by
  rw [heldStep, modifier?_event]
  refine (if_pos rfl).trans ?_
  rw [List.erase_append_right _ hnew, List.erase_cons_head, List.append_nil]

theorem heldStep_key (hkey : event.modifier? = none) (delivered : Bool) : heldStep held ⟨event, delivered⟩ = held := by
  rw [heldStep, hkey]

theorem unheld_press (hnew : m ∉ held) (delivered : Bool) :
    heldStep held ⟨m.event true (holding (held ++ [m])), delivered⟩ = [] ↔ Unheld (m.event true (holding (held ++ [m]))) delivered := by
  rw [heldStep_press, Unheld]
  have hmask : (m.event true (holding (held ++ [m]))).modifiers ≠ 0 := fun h => by simpa using mask_eq_zero.1 h
  cases delivered with
  | true => simpa using hmask
  | false =>
    simp only [Bool.false_eq_true, if_false, hmask, false_or, true_and]
    constructor
    · rintro rfl
      exact ⟨m, rfl⟩
    · rintro ⟨m', heq⟩
      have hm : m = m' := by
        have := congrArg KeyEvent.modifier? heq
        simpa using this
      subst hm
      have hsame : holding (held ++ [m]) = holding [m] := modifierMask_injective (congrArg KeyEvent.modifiers heq)
      refine List.eq_nil_iff_forall_not_mem.2 fun other hother => ?_
      have hget := congrArg (Modifiers.get · other) hsame
      simp only [get_holding, List.mem_append, hother, true_or, List.mem_singleton, decide_true] at hget
      exact hnew (of_decide_eq_true hget.symm ▸ hother)

theorem unheld_carried (hmask : event.modifiers = modifierMask (holding held)) (hdown : event.modifier? = none ∨ event.type = .keyUp)
    (delivered : Bool) : held = [] ↔ Unheld event delivered := by
  rw [Unheld, hmask, mask_eq_zero]
  refine ⟨.inl, fun h => h.elim id ?_⟩
  rintro ⟨-, m, rfl⟩
  rcases hdown with hnone | hup
  · rw [modifier?_event] at hnone
    cases hnone
  · cases hup

theorem Planned.released_iff (h : Planned held events final) (hfinal : final = []) (horderly : Orderly log) (hheld : heldAfter log = held) :
    Released (finalState (sendAll attempts events log)) ↔ Harmless attempts log.length events := by
  induction h generalizing log with
  | done held => exact ⟨fun _ => harmless_nil, fun _ => ⟨horderly, hheld.trans hfinal⟩⟩
  | @press held m events final hnew _ ih =>
    refine released_cons (fun delivered => ⟨nofun, fun hdelivered => ?_⟩) (unheld_press hnew)
      (fun log horderly hheld => ih hfinal horderly (hheld.trans (heldStep_press true _))) horderly hheld
    obtain rfl : delivered = true := hdelivered
    rw [heldStep_press, if_pos rfl]
    rfl
  | @release held m events final hnew _ ih =>
    refine released_cons (fun delivered => ⟨fun m' hm' _ => ?_, fun _ => ?_⟩) (fun delivered => ?_)
      (fun log horderly hheld => ih hfinal horderly (hheld.trans (heldStep_release hnew true _))) horderly hheld
    · obtain rfl : m = m' := by simpa using hm'
      exact List.getLast?_concat
    · rw [heldStep_release hnew]
      rfl
    · rw [heldStep_release hnew]
      exact unheld_carried rfl (.inr rfl) delivered
  | @key held event events final hkey hmask _ ih =>
    refine released_cons (fun delivered => ⟨fun m hm _ => ?_, fun _ => ?_⟩) (fun delivered => ?_)
      (fun log horderly hheld => ih hfinal horderly (hheld.trans (heldStep_key hkey true))) horderly hheld
    · cases hkey.symm.trans hm
    · rw [heldStep_key hkey]
      exact hmask
    · rw [heldStep_key hkey]
      exact unheld_carried hmask (.inl hkey) delivered

/-! ### Chords -/

def keyEvents (dispatch : KeyDispatch) (text : Option String) (modifiers : Modifiers) : List KeyEvent :=
  [⟨if text.isSome then .keyDown else .rawKeyDown, dispatch.key, dispatch.code, dispatch.location, dispatch.keycode, text,
      modifierMask modifiers⟩,
    ⟨.keyUp, dispatch.key, dispatch.code, dispatch.location, dispatch.keycode, none, modifierMask modifiers⟩]

theorem dispatchKey_eq (dispatch : KeyDispatch) (text : Option String) (modifiers : Modifiers) :
    dispatchKey attempts dispatch text modifiers = sendAll attempts (keyEvents dispatch text modifiers) := by
  rw [keyEvents, sendAll, sendAll, sendAll, dispatchKey, bind_pure]

def pressEvents (held : List Modifier) : List Modifier → List KeyEvent
  | [] => []
  | m :: rest => m.event true (holding (held ++ [m])) :: pressEvents (held ++ [m]) rest

/-- The events that release modifiers, of which the last pressed is the first. -/
def releaseEvents : List Modifier → List KeyEvent
  | [] => []
  | m :: rest => m.event false (holding rest.reverse) :: releaseEvents rest

/-- The events of a segment that is not a modifier. -/
def segmentEvents (modifiers : Modifiers) : KeySegment → List KeyEvent
  | .modifier _ => []
  | .namedKey named =>
    let text := match named with
      | .enter => some "\r"
      | .space => some " "
      | _ => none
    keyEvents (keyDispatch named) (text.filter fun _ => emitsText modifiers) modifiers
  | .char ch =>
    let ch := if modifiers.shift && ch.isLower then ch.toUpper else ch
    let text := ch.toString
    let code := if ch.isAlpha then "Key" ++ ch.toUpper.toString else ""
    let keycode := ch.toUpper.toNat % 2 ^ 16
    keyEvents ⟨text, code, 0, keycode⟩ (if emitsText modifiers then some text else none) modifiers

def chordModifiers (segments : List KeySegment) : List Modifier := segments.filterMap KeySegment.modifier?

def chordEvents (segments : List KeySegment) : List KeyEvent :=
  pressEvents [] (chordModifiers segments) ++ segments.flatMap (segmentEvents (holding (chordModifiers segments))) ++
    releaseEvents (chordModifiers segments).reverse

theorem holdModifiers_eq (segments : List KeySegment) (held : List Modifier) :
    segments.foldlM (holdModifier attempts) (holding held, held) =
      (do sendAll attempts (pressEvents held (chordModifiers segments)); return (holding (held ++ chordModifiers segments), held ++ chordModifiers segments)) := by
  induction segments generalizing held with
  | nil =>
    rw [List.foldlM_nil, chordModifiers, List.filterMap_nil, pressEvents, sendAll, pure_bind, List.append_nil]
  | cons segment segments ih =>
    cases segment with
    | modifier m =>
      have hmodifiers : chordModifiers (.modifier m :: segments) = m :: chordModifiers segments := rfl
      rw [List.foldlM_cons, holdModifier, hmodifiers, pressEvents, sendAll]
      simp only [bind_assoc, pure_bind, holding_append, ih, List.append_assoc, List.singleton_append]
      rfl
    | namedKey named => exact (pure_bind _ _).trans (ih held)
    | char ch => exact (pure_bind _ _).trans (ih held)

theorem dispatchSegments_eq (segments : List KeySegment) (modifiers : Modifiers) :
    segments.forM (dispatchSegment attempts modifiers) = sendAll attempts (segments.flatMap (segmentEvents modifiers)) := by
  induction segments with
  | nil => rfl
  | cons segment segments ih =>
    rw [List.flatMap_cons, sendAll_append, ← ih]
    cases segment with
    | modifier m => rfl
    | namedKey named =>
      have hnamed : dispatchNamed attempts named modifiers = sendAll attempts (segmentEvents modifiers (.namedKey named)) :=
        dispatchKey_eq _ _ _
      rw [← hnamed]
      rfl
    | char ch =>
      have hchar : dispatchCharKey attempts ch modifiers = sendAll attempts (segmentEvents modifiers (.char ch)) := dispatchKey_eq _ _ _
      rw [← hchar]
      rfl

theorem releaseModifiers_eq (held : List Modifier) (hnodup : held.Nodup) :
    (do let _ ← held.foldlM (releaseModifier attempts) (holding held.reverse); return () : Keyboard Unit) =
      sendAll attempts (releaseEvents held) := by
  induction held with
  | nil => rfl
  | cons m held ih =>
    obtain ⟨hnew, hnodup⟩ := List.nodup_cons.1 hnodup
    rw [List.foldlM_cons, releaseEvents, sendAll, ← ih hnodup, releaseModifier, List.reverse_cons,
      holding_release (by simpa using hnew)]
    simp only [bind_assoc, pure_bind]
    rfl

theorem pressChord_eq {segments : List KeySegment} (hnodup : (chordModifiers segments).Nodup) :
    pressChord attempts segments = sendAll attempts (chordEvents segments) := by
  rw [pressChord, ← holding_nil, holdModifiers_eq, chordEvents, sendAll_append, sendAll_append, ← dispatchSegments_eq,
    ← releaseModifiers_eq _ (List.nodup_reverse.2 hnodup)]
  simp only [bind_assoc, pure_bind, List.nil_append, List.reverse_reverse]

theorem planned_press {ms : List Modifier} (hnodup : (held ++ ms).Nodup) : Planned held (pressEvents held ms) (held ++ ms) := by
  induction ms generalizing held with
  | nil => exact (List.append_nil held).symm ▸ .done held
  | cons m ms ih =>
    have hnew : m ∉ held := fun hm => (List.nodup_append.1 hnodup).2.2 m hm m List.mem_cons_self rfl
    rw [List.append_cons] at hnodup ⊢
    exact .press hnew (ih hnodup)

theorem planned_release {ms : List Modifier} (hnodup : ms.Nodup) : Planned ms.reverse (releaseEvents ms) [] := by
  induction ms with
  | nil => exact .done []
  | cons m ms ih =>
    obtain ⟨hnew, hnodup⟩ := List.nodup_cons.1 hnodup
    rw [List.reverse_cons]
    exact .release (by simpa using hnew) (ih hnodup)

theorem planned_keys (h : ∀ event ∈ events, event.modifier? = none ∧ event.modifiers = modifierMask (holding held)) :
    Planned held events held := by
  induction events with
  | nil => exact .done held
  | cons event events ih =>
    obtain ⟨hkey, hmask⟩ := h event List.mem_cons_self
    exact .key hkey hmask (ih fun other hother => h other (List.mem_cons_of_mem _ hother))

/-- A code that is not of a modifier. -/
def PlainCode (code : String) : Prop := ∀ m : Modifier, m.dispatch.code ≠ code

theorem plainCode_named (named : NamedKey) : PlainCode (keyDispatch named).code := by
  intro m
  cases m <;> cases named <;> decide

theorem plainCode_char (ch : Char) : PlainCode (if ch.isAlpha then "Key" ++ ch.toUpper.toString else "") := by
  intro m
  split
  · intro h
    have hhead : m.dispatch.code.toList.head? = some 'K' := by
      rw [h, String.toList_append]
      rfl
    cases m <;> exact absurd hhead (by decide)
  · cases m <;> decide

theorem keyEvents_plain {dispatch : KeyDispatch} (hplain : PlainCode dispatch.code) {text : Option String} {modifiers : Modifiers} :
    ∀ event ∈ keyEvents dispatch text modifiers, event.modifier? = none ∧ event.modifiers = modifierMask modifiers := by
  intro event hevent
  simp only [keyEvents, List.mem_cons, List.not_mem_nil, or_false] at hevent
  rcases hevent with rfl | rfl <;>
    exact ⟨List.find?_eq_none.2 fun m _ => by simpa using hplain m, rfl⟩

theorem segmentEvents_plain {segment : KeySegment} {modifiers : Modifiers} :
    ∀ event ∈ segmentEvents modifiers segment, event.modifier? = none ∧ event.modifiers = modifierMask modifiers := by
  cases segment with
  | modifier m => exact nofun
  | namedKey named => exact keyEvents_plain (plainCode_named named)
  | char ch => exact keyEvents_plain (plainCode_char _)

theorem planned_chord {segments : List KeySegment} (hnodup : (chordModifiers segments).Nodup) :
    Planned [] (chordEvents segments) [] := by
  refine ((planned_press hnodup).append (planned_keys fun event hevent => ?_)).append ?_
  · obtain ⟨segment, -, hevent⟩ := List.mem_flatMap.1 hevent
    exact segmentEvents_plain event hevent
  · have hrelease := planned_release (List.nodup_reverse.2 hnodup)
    rwa [List.reverse_reverse] at hrelease

def plannedEvents (keys : List KeyChord) : List KeyEvent := keys.flatMap fun chord => chordEvents chord.segments

theorem pressChords_eq (keys : List KeyChord) :
    (keys.forM fun chord => pressChord attempts chord.segments) = sendAll attempts (plannedEvents keys) := by
  induction keys with
  | nil => rfl
  | cons chord keys ih =>
    rw [plannedEvents, List.flatMap_cons, sendAll_append, ← pressChord_eq chord.modifiers_nodup, ← plannedEvents, ← ih]
    rfl

theorem planned_keys_events (keys : List KeyChord) : Planned [] (plannedEvents keys) [] := by
  induction keys with
  | nil => exact .done []
  | cons chord keys ih =>
    rw [plannedEvents, List.flatMap_cons]
    exact (planned_chord chord.modifiers_nodup).append ih

/-- Pressing keys releases every modifier that it presses exactly when it does not begin, or the first command that fails leaves no
modifier held: the event carries none, or it is of a chord's first modifier and was not delivered. -/
theorem press_keys_released_iff (attempts : Nat → Attempt) (focus : Option (Result Unit)) (keys : List KeyChord) :
    Released (finalState (pressKeys attempts focus keys [])) ↔
      (∃ error, focus = some (.error error)) ∨ Harmless attempts 0 (plannedEvents keys) := by
  have hrun : Released (finalState (sendAll attempts (plannedEvents keys) [])) ↔ Harmless attempts 0 (plannedEvents keys) :=
    (planned_keys_events keys).released_iff rfl orderly_nil rfl
  rcases focus with _ | ⟨error | done⟩
  · have hpress : pressKeys attempts none keys = sendAll attempts (plannedEvents keys) := (pure_bind _ _).trans (pressChords_eq keys)
    simpa [hpress] using hrun
  · exact ⟨fun _ => .inl ⟨error, rfl⟩, fun _ => ⟨orderly_nil, rfl⟩⟩
  · have hpress : pressKeys attempts (some (.ok done)) keys = sendAll attempts (plannedEvents keys) :=
      (pure_bind _ _).trans (pressChords_eq keys)
    simpa [hpress] using hrun

/-- The chord of the control key and a letter. -/
def controlA : KeyChord := ⟨[.modifier .control, .char 'a'], by decide, by decide⟩

/-- The command for the letter fails, and the control key stays down. -/
theorem press_keys_leaves_modifier_held : ¬ ∀ (attempts : Nat → Attempt) (focus : Option (Result Unit)) (keys : List KeyChord),
    Released (finalState (pressKeys attempts focus keys [])) := by
  intro h
  have hreleased := h (fun k => if k = 1 then .failed false (.new .interactionFailed "the command failed") else .answered) none [controlA]
  exact absurd hreleased.none_held (by decide)

end Krometrail.Control
