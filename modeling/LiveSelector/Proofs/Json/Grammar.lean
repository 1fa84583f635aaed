import LiveSelector.Json.Reader

namespace LiveSelector.Json

/-! The grammar of JSON texts.  Each kind of phrase has the texts that spell it: digits, the parts
of a number, the characters of a quoted text, and from these the values.  An object may be spelled
with its members in any order, a key may come twice, and the last value of a key counts; a grammar
may accept the keys of each object in some orders only. -/

def IsGap (text : List Char) : Prop :=
  ∀ c ∈ text, isGap c = true

/-- Decimal digits, one or more. -/
def IsRow (digits : List Nat) : Prop :=
  digits ≠ [] ∧ ∀ digit ∈ digits, digit < 10

def rowText (digits : List Nat) : List Char :=
  digits.map Nat.digitChar

inductive SpellsFraction : List Char → Option (List Nat) → Prop where
  | absent : SpellsFraction [] none
  | present {digits : List Nat} (row : IsRow digits) :
      SpellsFraction ('.' :: rowText digits) (some digits)

def IsMark (c : Char) : Prop :=
  c = 'e' ∨ c = 'E'

instance (c : Char) : Decidable (IsMark c) :=
  inferInstanceAs (Decidable (c = 'e' ∨ c = 'E'))

inductive SpellsExponent : List Char → Option Int → Prop where
  | absent : SpellsExponent [] none
  | unsigned {mark : Char} {digits : List Nat} (marked : IsMark mark) (row : IsRow digits) :
      SpellsExponent (mark :: rowText digits) (some (digitsValue digits))
  | positive {mark : Char} {digits : List Nat} (marked : IsMark mark) (row : IsRow digits) :
      SpellsExponent (mark :: '+' :: rowText digits) (some (digitsValue digits))
  | negative {mark : Char} {digits : List Nat} (marked : IsMark mark) (row : IsRow digits) :
      SpellsExponent (mark :: '-' :: rowText digits) (some (-digitsValue digits))

def signText : Bool → List Char
  | true => ['-']
  | false => []

/-- A number has digits before the point, and no zero in front of others. -/
inductive SpellsNumber : List Char → Spelling → Prop where
  | parts {whole : List Nat} {fraction : Option (List Nat)} {exponent : Option Int}
      {fractionText exponentText : List Char} (negative : Bool) (row : IsRow whole)
      (bare : whole.head? = some 0 → whole = [0]) (point : SpellsFraction fractionText fraction)
      (power : SpellsExponent exponentText exponent) :
      SpellsNumber (signText negative ++ rowText whole ++ fractionText ++ exponentText)
        ⟨negative, whole, fraction, exponent⟩

/-- What stands between quotes, and the characters that it stands for. -/
inductive SpellsChars : List Char → List Char → Prop where
  | nil : SpellsChars [] []
  | plain {c : Char} {text chars : List Char} (printed : 0x20 ≤ c.toNat) (notQuote : c ≠ '"')
      (notSlash : c ≠ '\\') (rest : SpellsChars text chars) : SpellsChars (c :: text) (c :: chars)
  | letter {mark c : Char} {text chars : List Char} (known : letterEscape? mark = some c)
      (rest : SpellsChars text chars) : SpellsChars ('\\' :: mark :: text) (c :: chars)
  | code {h₁ h₂ h₃ h₄ : Char} {n : Nat} {text chars : List Char}
      (spelled : hexQuad? h₁ h₂ h₃ h₄ = some n) (notHigh : isHighHalf n = false)
      (notLow : isLowHalf n = false) (rest : SpellsChars text chars) :
      SpellsChars ('\\' :: 'u' :: h₁ :: h₂ :: h₃ :: h₄ :: text) (Char.ofNat n :: chars)
  | pair {h₁ h₂ h₃ h₄ l₁ l₂ l₃ l₄ : Char} {high low : Nat} {text chars : List Char}
      (first : hexQuad? h₁ h₂ h₃ h₄ = some high) (isHigh : isHighHalf high = true)
      (second : hexQuad? l₁ l₂ l₃ l₄ = some low) (isLow : isLowHalf low = true)
      (rest : SpellsChars text chars) :
      SpellsChars
        ('\\' :: 'u' :: h₁ :: h₂ :: h₃ :: h₄ :: '\\' :: 'u' :: l₁ :: l₂ :: l₃ :: l₄ :: text)
        (Char.ofNat (joinHalves high low) :: chars)

inductive SpellsString : List Char → String → Prop where
  | quotes {text chars : List Char} (inner : SpellsChars text chars) :
      SpellsString ('"' :: text ++ ['"']) (.ofList chars)

/-- What a text may spell.  An element is a value with blanks around it. -/
inductive Phrase where
  | value (value : Json)
  | element (value : Json)
  | elements (values : List Json)
  | member (key : String) (value : Json)
  | members (members : List (String × Json))

/-- A text spells a phrase, the keys of each object standing in an accepted order. -/
inductive Spells (order : List String → Prop) : List Char → Phrase → Prop where
  | nullWord : Spells order ['n', 'u', 'l', 'l'] (.value .null)
  | trueWord : Spells order ['t', 'r', 'u', 'e'] (.value (.bool true))
  | falseWord : Spells order ['f', 'a', 'l', 's', 'e'] (.value (.bool false))
  | number {text : List Char} {spelling : Spelling} {number : Number}
      (spelled : SpellsNumber text spelling) (known : spelling.number? = some number) :
      Spells order text (.value (.number number))
  | string {text : List Char} {string : String} (spelled : SpellsString text string) :
      Spells order text (.value (.string string))
  | emptyArray {gap : List Char} (blank : IsGap gap) :
      Spells order ('[' :: gap ++ [']']) (.value (.array []))
  | array {text : List Char} {items : List Json} (inner : Spells order text (.elements items)) :
      Spells order ('[' :: text ++ [']']) (.value (.array items))
  | emptyObject {gap : List Char} (blank : IsGap gap) :
      Spells order ('{' :: gap ++ ['}']) (.value (.object []))
  | object {text : List Char} {members : List (String × Json)}
      (inner : Spells order text (.members members)) (ordered : order (members.map Prod.fst)) :
      Spells order ('{' :: text ++ ['}']) (.value (ofMembers members))
  | element {text front back : List Char} {value : Json} (before : IsGap front)
      (inner : Spells order text (.value value)) (behind : IsGap back) :
      Spells order (front ++ text ++ back) (.element value)
  | lastElement {text : List Char} {value : Json} (last : Spells order text (.element value)) :
      Spells order text (.elements [value])
  | nextElement {text more : List Char} {value : Json} {items : List Json}
      (first : Spells order text (.element value)) (rest : Spells order more (.elements items)) :
      Spells order (text ++ ',' :: more) (.elements (value :: items))
  | member {name text front back : List Char} {key : String} {value : Json} (before : IsGap front)
      (named : SpellsString name key) (behind : IsGap back)
      (inner : Spells order text (.element value)) :
      Spells order (front ++ name ++ back ++ ':' :: text) (.member key value)
  | lastMember {text : List Char} {key : String} {value : Json}
      (last : Spells order text (.member key value)) : Spells order text (.members [(key, value)])
  | nextMember {text more : List Char} {key : String} {value : Json}
      {members : List (String × Json)} (first : Spells order text (.member key value))
      (rest : Spells order more (.members members)) :
      Spells order (text ++ ',' :: more) (.members ((key, value) :: members))

/-- A text that spells a value, the keys of its objects in any order. -/
def Denotes (text : String) (value : Json) : Prop :=
  Spells (fun _ => True) text.toList (.element value)

def Ascending (keys : List String) : Prop :=
  keys.Pairwise (· < ·)

variable {order accepted : List String → Prop} {text : List Char} {phrase : Phrase}

theorem Spells.mono (weaker : ∀ keys, order keys → accepted keys)
    (spelled : Spells order text phrase) : Spells accepted text phrase := by
  induction spelled with
  | nullWord => exact .nullWord
  | trueWord => exact .trueWord
  | falseWord => exact .falseWord
  | number spelled known => exact .number spelled known
  | string spelled => exact .string spelled
  | emptyArray blank => exact .emptyArray blank
  | array _ inner => exact .array inner
  | emptyObject blank => exact .emptyObject blank
  | object _ ordered inner => exact .object inner (weaker _ ordered)
  | element before _ behind inner => exact .element before inner behind
  | lastElement _ last => exact .lastElement last
  | nextElement _ _ first rest => exact .nextElement first rest
  | member before named behind _ inner => exact .member before named behind inner
  | lastMember _ last => exact .lastMember last
  | nextMember _ _ first rest => exact .nextMember first rest

end LiveSelector.Json
