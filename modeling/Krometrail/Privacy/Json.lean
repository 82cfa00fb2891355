import Krometrail.Privacy.Redactor

/-!
# JSON texts and their layouts

JSON texts with the whitespace between their tokens and the spelling of their strings, by the grammar of the
format. A *secret* is the content of a string that is the value of a sensitive key. The layout of a text is what
is left when every secret is blanked: two texts of one layout differ in the contents of their secrets only.
-/

namespace Krometrail.Privacy

/-- The content of a JSON string, between its quotes. -/
inductive IsContent : Str → Prop where
  | nil : IsContent []
  | character {c : Char} {rest : Str} (hquote : c ≠ '"') (hbackslash : c ≠ '\\') (hcontrol : 0x20 ≤ c.toNat) :
      IsContent rest → IsContent (c :: rest)
  | escape {c : Char} {rest : Str} (hc : c ∈ ['"', '\\', '/', 'b', 'f', 'n', 'r', 't']) :
      IsContent rest → IsContent ('\\' :: c :: rest)
  | codePoint {digits rest : Str} (hlength : digits.length = 4) (hdigits : ∀ c ∈ digits, (hexDigit c).isSome) :
      IsContent rest → IsContent ('\\' :: 'u' :: (digits ++ rest))

structure Content where
  chars : Str
  wellFormed : IsContent chars

/-- The whitespace of the format. -/
structure Blank where
  chars : Str
  wellFormed : ∀ c ∈ chars, c ∈ [' ', '\t', '\n', '\r']

structure Digits where
  chars : Str
  nonempty : chars ≠ []
  wellFormed : ∀ c ∈ chars, c.isDigit = true

structure Exponent where
  marker : Char
  sign : Option Char
  digits : Digits
  markerValid : marker = 'e' ∨ marker = 'E'
  signValid : ∀ c ∈ sign, c = '+' ∨ c = '-'

structure Number where
  negative : Bool
  integer : Digits
  fraction : Option Digits
  exponent : Option Exponent
  noLeadingZero : integer.chars.head? = some '0' → integer.chars.length = 1

def Exponent.render (exponent : Exponent) : Str := exponent.marker :: (exponent.sign.toList ++ exponent.digits.chars)

def Number.render (number : Number) : Str :=
  (if number.negative then ['-'] else []) ++ number.integer.chars ++
    (match number.fraction with | some digits => '.' :: digits.chars | none => []) ++
    (match number.exponent with | some exponent => exponent.render | none => [])

inductive Literal where
  | false
  | null
  | true
  | number (value : Number)

def Literal.render : Literal → Str
  | .false => "false".toList
  | .null => "null".toList
  | .true => "true".toList
  | .number value => value.render

def Content.quoted (content : Content) : Str := '"' :: (content.chars ++ ['"'])

/-- The keys whose values the redactor is to hide. -/
def Content.isSensitive (key : Content) : Bool := isSensitiveKey (normalizeKey key.chars)

mutual

inductive Json where
  | literal (word : Literal)
  | string (content : Content)
  | emptyArray (blank : Blank)
  | array (elements : Elements)
  | emptyObject (blank : Blank)
  | object (members : Members)

inductive Elements where
  | last (before : Blank) (value : Json) (after : Blank)
  | cons (before : Blank) (value : Json) (after : Blank) (rest : Elements)

inductive Members where
  | last (before : Blank) (key : Content) (afterKey beforeValue : Blank) (value : Json) (after : Blank)
  | cons (before : Blank) (key : Content) (afterKey beforeValue : Blank) (value : Json) (after : Blank)
      (rest : Members)

end

/-- A key of an object with its colon and the whitespace around them. -/
def renderKey (before : Blank) (key : Content) (afterKey beforeValue : Blank) : Str :=
  before.chars ++ key.quoted ++ afterKey.chars ++ ':' :: beforeValue.chars

mutual

def Json.render : Json → Str
  | .literal word => word.render
  | .string content => content.quoted
  | .emptyArray blank => '[' :: (blank.chars ++ [']'])
  | .array elements => '[' :: (elements.render ++ [']'])
  | .emptyObject blank => '{' :: (blank.chars ++ ['}'])
  | .object members => '{' :: (members.render ++ ['}'])

def Elements.render : Elements → Str
  | .last before value after => before.chars ++ (value.render ++ after.chars)
  | .cons before value after rest => before.chars ++ (value.render ++ (after.chars ++ ',' :: rest.render))

def Members.render : Members → Str
  | .last before key afterKey beforeValue value after =>
    renderKey before key afterKey beforeValue ++ (value.render ++ after.chars)
  | .cons before key afterKey beforeValue value after rest =>
    renderKey before key afterKey beforeValue ++ (value.render ++ (after.chars ++ ',' :: rest.render))

end

/-! ### Secrets

`sensitive` says that the value stands at a sensitive key: a string there is a secret. -/

mutual

/-- Every secret satisfies `p`. -/
def Json.AllSecrets (p : Content → Prop) (sensitive : Bool) : Json → Prop
  | .literal _ => True
  | .string content => sensitive = true → p content
  | .emptyArray _ => True
  | .array elements => elements.AllSecrets p
  | .emptyObject _ => True
  | .object members => members.AllSecrets p

def Elements.AllSecrets (p : Content → Prop) : Elements → Prop
  | .last _ value _ => value.AllSecrets p false
  | .cons _ value _ rest => value.AllSecrets p false ∧ rest.AllSecrets p

def Members.AllSecrets (p : Content → Prop) : Members → Prop
  | .last _ key _ _ value _ => value.AllSecrets p key.isSensitive
  | .cons _ key _ _ value _ rest => value.AllSecrets p key.isSensitive ∧ rest.AllSecrets p

end

mutual

/-- Every secret replaced by the content given. -/
def Json.fill (secret : Content) (sensitive : Bool) : Json → Json
  | .literal word => .literal word
  | .string content => .string (if sensitive then secret else content)
  | .emptyArray blank => .emptyArray blank
  | .array elements => .array (elements.fill secret)
  | .emptyObject blank => .emptyObject blank
  | .object members => .object (members.fill secret)

def Elements.fill (secret : Content) : Elements → Elements
  | .last before value after => .last before (value.fill secret false) after
  | .cons before value after rest => .cons before (value.fill secret false) after (rest.fill secret)

def Members.fill (secret : Content) : Members → Members
  | .last before key afterKey beforeValue value after =>
    .last before key afterKey beforeValue (value.fill secret key.isSensitive) after
  | .cons before key afterKey beforeValue value after rest =>
    .cons before key afterKey beforeValue (value.fill secret key.isSensitive) after (rest.fill secret)

end

/-- A JSON text: one value with whitespace around it. -/
structure JsonText where
  before : Blank
  value : Json
  after : Blank

namespace JsonText

def render (text : JsonText) : Str := text.before.chars ++ (text.value.render ++ text.after.chars)

def AllSecrets (p : Content → Prop) (text : JsonText) : Prop := text.value.AllSecrets p false

def fill (secret : Content) (text : JsonText) : JsonText := { text with value := text.value.fill secret false }

/-- The text with its secrets blanked. -/
def layout (text : JsonText) : JsonText := text.fill ⟨[], .nil⟩

/-- No string is the value of a sensitive key. -/
def SecretFree (text : JsonText) : Prop := text.AllSecrets fun _ => False

end JsonText

section Filling

variable {secret other : Content} {p : Content → Prop}

mutual

theorem Json.fill_fill (sensitive : Bool) : ∀ value : Json,
    (value.fill other sensitive).fill secret sensitive = value.fill secret sensitive
  | .literal _ => rfl
  | .string content => by cases sensitive <;> rfl
  | .emptyArray _ => rfl
  | .array elements => congrArg Json.array elements.fill_fill
  | .emptyObject _ => rfl
  | .object members => congrArg Json.object members.fill_fill

theorem Elements.fill_fill : ∀ elements : Elements, (elements.fill other).fill secret = elements.fill secret
  | .last _ value _ => by simp only [Elements.fill, value.fill_fill]
  | .cons _ value _ rest => by simp only [Elements.fill, value.fill_fill, rest.fill_fill]

theorem Members.fill_fill : ∀ members : Members, (members.fill other).fill secret = members.fill secret
  | .last _ key _ _ value _ => by simp only [Members.fill, value.fill_fill]
  | .cons _ key _ _ value _ rest => by simp only [Members.fill, value.fill_fill, rest.fill_fill]

end

mutual

theorem Json.fill_of_secretFree (sensitive : Bool) : ∀ value : Json,
    value.AllSecrets (fun _ => False) sensitive → value.fill secret sensitive = value
  | .literal _, _ => rfl
  | .string content, h => by
    cases sensitive with
    | true => exact absurd (h rfl) id
    | false => rfl
  | .emptyArray _, _ => rfl
  | .array elements, h => congrArg Json.array (elements.fill_of_secretFree h)
  | .emptyObject _, _ => rfl
  | .object members, h => congrArg Json.object (members.fill_of_secretFree h)

theorem Elements.fill_of_secretFree : ∀ elements : Elements,
    elements.AllSecrets (fun _ => False) → elements.fill secret = elements
  | .last _ value _, h => by simp only [Elements.fill, value.fill_of_secretFree false h]
  | .cons _ value _ rest, h => by
    simp only [Elements.fill, value.fill_of_secretFree false h.1, rest.fill_of_secretFree h.2]

theorem Members.fill_of_secretFree : ∀ members : Members,
    members.AllSecrets (fun _ => False) → members.fill secret = members
  | .last _ key _ _ value _, h => by simp only [Members.fill, value.fill_of_secretFree _ h]
  | .cons _ key _ _ value _ rest, h => by
    simp only [Members.fill, value.fill_of_secretFree _ h.1, rest.fill_of_secretFree h.2]

end

mutual

theorem Json.allSecrets_fill (hp : p secret) (sensitive : Bool) : ∀ value : Json,
    (value.fill secret sensitive).AllSecrets p sensitive
  | .literal _ => trivial
  | .string content => fun h => by simpa [h] using hp
  | .emptyArray _ => trivial
  | .array elements => elements.allSecrets_fill hp
  | .emptyObject _ => trivial
  | .object members => members.allSecrets_fill hp

theorem Elements.allSecrets_fill (hp : p secret) : ∀ elements : Elements, (elements.fill secret).AllSecrets p
  | .last _ value _ => value.allSecrets_fill hp false
  | .cons _ value _ rest => ⟨value.allSecrets_fill hp false, rest.allSecrets_fill hp⟩

theorem Members.allSecrets_fill (hp : p secret) : ∀ members : Members, (members.fill secret).AllSecrets p
  | .last _ key _ _ value _ => value.allSecrets_fill hp key.isSensitive
  | .cons _ key _ _ value _ rest => ⟨value.allSecrets_fill hp key.isSensitive, rest.allSecrets_fill hp⟩

end

mutual

theorem Json.secretFree_of_fill (sensitive : Bool) : ∀ value : Json,
    (value.fill secret sensitive).AllSecrets (fun _ => False) sensitive → value.AllSecrets (fun _ => False) sensitive
  | .literal _, _ => trivial
  | .string _, h => h
  | .emptyArray _, _ => trivial
  | .array elements, h => elements.secretFree_of_fill h
  | .emptyObject _, _ => trivial
  | .object members, h => members.secretFree_of_fill h

theorem Elements.secretFree_of_fill : ∀ elements : Elements,
    (elements.fill secret).AllSecrets (fun _ => False) → elements.AllSecrets (fun _ => False)
  | .last _ value _, h => value.secretFree_of_fill false h
  | .cons _ value _ rest, h => ⟨value.secretFree_of_fill false h.1, rest.secretFree_of_fill h.2⟩

theorem Members.secretFree_of_fill : ∀ members : Members,
    (members.fill secret).AllSecrets (fun _ => False) → members.AllSecrets (fun _ => False)
  | .last _ _ _ _ value _, h => value.secretFree_of_fill _ h
  | .cons _ _ _ _ value _ rest, h => ⟨value.secretFree_of_fill _ h.1, rest.secretFree_of_fill h.2⟩

end

namespace JsonText

variable (text : JsonText)

theorem fill_of_secretFree (hfree : text.SecretFree) : text.fill secret = text := by
  simp only [fill, text.value.fill_of_secretFree false hfree]

theorem secretFree_of_fill (hfree : (text.fill secret).SecretFree) : text.SecretFree :=
  text.value.secretFree_of_fill false hfree

end JsonText

end Filling

end Krometrail.Privacy
