import Mathlib.Data.List.Basic

/-!
What JSON texts are, without regard to how they are read: strings and what they say, values, and the
texts that hold a record.
-/
namespace Pageviews.Json

def Blank (text : List Char) : Prop := ∀ c ∈ text, c ∈ [' ', '\n', '\t', '\r']

def HexDigit (c : Char) (value : Nat) : Prop :=
  value < 16 ∧ (c = value.digitChar ∨ c = value.digitChar.toUpper)

/-- Four hexadecimal digits and their number. -/
inductive CodeUnit : List Char → Nat → Prop where
  | mk {a b c d : Char} {i j k l : Nat} (ha : HexDigit a i) (hb : HexDigit b j) (hc : HexDigit c k)
      (hd : HexDigit d l) : CodeUnit [a, b, c, d] (((i * 16 + j) * 16 + k) * 16 + l)

def shortEscapes : List (Char × Char) :=
  [('"', '"'), ('\\', '\\'), ('/', '/'), ('b', '\x08'), ('f', '\x0c'), ('n', '\n'), ('r', '\r'),
    ('t', '\t')]

/-- How a string spells one character. -/
inductive Spelling : List Char → Char → Prop where
  | plain {c : Char} (hquote : c ≠ '"') (hbackslash : c ≠ '\\') (hcontrol : 0x20 ≤ c.toNat) :
      Spelling [c] c
  | short {letter c : Char} (h : (letter, c) ∈ shortEscapes) : Spelling ['\\', letter] c
  | unit {digits : List Char} {n : Nat} (h : CodeUnit digits n)
      (hwhole : n < 0xD800 ∨ 0xE000 ≤ n) : Spelling ('\\' :: 'u' :: digits) (Char.ofNat n)
  /-- The two halves of a character. -/
  | pair {first second : List Char} {high low : Nat} (hfirst : CodeUnit first high)
      (hsecond : CodeUnit second low) (hhigh : 0xD800 ≤ high ∧ high < 0xDC00)
      (hlow : 0xDC00 ≤ low ∧ low < 0xE000) :
      Spelling ('\\' :: 'u' :: first ++ '\\' :: 'u' :: second)
        (Char.ofNat (0x10000 + (high - 0xD800) * 0x400 + (low - 0xDC00)))

/-- The text of a string, without its quotes, and the characters that it spells. -/
inductive Spells : List Char → List Char → Prop where
  | nil : Spells [] []
  | cons {spelling text chars : List Char} {c : Char} (h : Spelling spelling c)
      (ht : Spells text chars) : Spells (spelling ++ text) (c :: chars)

/-- A part of a string that need not spell anything: the halves of characters may stand alone. -/
inductive Mark : List Char → Prop where
  | spelling {text : List Char} {c : Char} (h : Spelling text c) : Mark text
  | unit {digits : List Char} {n : Nat} (h : CodeUnit digits n) : Mark ('\\' :: 'u' :: digits)

inductive Marks : List Char → Prop where
  | nil : Marks []
  | cons {mark text : List Char} (h : Mark mark) (ht : Marks text) : Marks (mark ++ text)

def quoted (text : List Char) : List Char := '"' :: text ++ ['"']

inductive Says : List Char → List Char → Prop where
  | quoted {text chars : List Char} (h : Spells text chars) : Says (quoted text) chars

def IsDigits (text : List Char) : Prop := text ≠ [] ∧ ∀ c ∈ text, c.isDigit = true

/-- Digits without a zero in front, unless it stands alone. -/
inductive IsWhole : List Char → Prop where
  | zero : IsWhole ['0']
  | digits {c : Char} {rest : List Char} (hc : c.isDigit = true) (hne : c ≠ '0')
      (h : ∀ d ∈ rest, d.isDigit = true) : IsWhole (c :: rest)

inductive IsFraction : List Char → Prop where
  | none : IsFraction []
  | some {digits : List Char} (h : IsDigits digits) : IsFraction ('.' :: digits)

inductive IsExponent : List Char → Prop where
  | none : IsExponent []
  | some {letter : Char} {sign digits : List Char} (hletter : letter = 'e' ∨ letter = 'E')
      (hsign : sign ∈ [[], ['+'], ['-']]) (h : IsDigits digits) :
      IsExponent (letter :: (sign ++ digits))

inductive IsMagnitude : List Char → Prop where
  | mk {whole fraction exponent : List Char} (hwhole : IsWhole whole)
      (hfraction : IsFraction fraction) (hexponent : IsExponent exponent) :
      IsMagnitude (whole ++ (fraction ++ exponent))

inductive IsNumber : List Char → Prop where
  | positive {text : List Char} (h : IsMagnitude text) : IsNumber text
  | negative {text : List Char} (h : IsMagnitude text) : IsNumber ('-' :: text)

/-- A text between blanks. -/
structure Slot where
  left : List Char
  inner : List Char
  right : List Char
  left_blank : Blank left
  right_blank : Blank right

def Slot.text (s : Slot) : List Char := s.left ++ (s.inner ++ s.right)

/-- A member of an object: a name in quotes, a colon and a value, with blanks between them. -/
structure Entry where
  before : List Char
  name : List Char
  gap : List Char
  value : Slot
  before_blank : Blank before
  gap_blank : Blank gap

def Entry.text (e : Entry) : List Char :=
  e.before ++ (quoted e.name ++ (e.gap ++ ':' :: e.value.text))

/-- Parts between commas, in brackets. -/
inductive Enclosed (opening closing : Char) : List (List Char) → List Char → Prop where
  | none {blanks : List Char} (h : Blank blanks) :
      Enclosed opening closing [] (opening :: blanks ++ [closing])
  | some {parts : List (List Char)} (h : parts ≠ []) :
      Enclosed opening closing parts (opening :: [','].intercalate parts ++ [closing])

inductive IsValue : List Char → Prop where
  | word {text : List Char} (h : text ∈ ["null".toList, "true".toList, "false".toList]) :
      IsValue text
  | string {text : List Char} (h : Marks text) : IsValue (quoted text)
  | number {text : List Char} (h : IsNumber text) : IsValue text
  | array {elements : List Slot} {text : List Char} (h : ∀ e ∈ elements, IsValue e.inner)
      (ht : Enclosed '[' ']' (elements.map Slot.text) text) : IsValue text
  | object {entries : List Entry} {text : List Char} (hname : ∀ e ∈ entries, Marks e.name)
      (h : ∀ e ∈ entries, IsValue e.value.inner)
      (ht : Enclosed '\x7b' '\x7d' (entries.map Entry.text) text) : IsValue text

/-- A member with the characters that its name spells. -/
structure Labelled extends Entry where
  label : List Char
  spells : Spells name label

/-- Just one of the members has this name, and its value is a string that says this. -/
def Holds (members : List Labelled) (name chars : List Char) : Prop :=
  ∃ m, members.filter (·.label = name) = [m] ∧ Says m.value.inner chars

/-- An object that has a string for each name, or an array of these strings. -/
inductive IsRecord (names strings : List (List Char)) : List Char → Prop where
  | object {members : List Labelled} {text : List Char}
      (hvalue : ∀ m ∈ members, IsValue m.value.inner)
      (ht : Enclosed '\x7b' '\x7d' (members.map (·.text)) text)
      (h : List.Forall₂ (Holds members) names strings) : IsRecord names strings text
  | array {elements : List Slot} {text : List Char} (hlength : elements.length = names.length)
      (ht : Enclosed '[' ']' (elements.map Slot.text) text)
      (h : List.Forall₂ (Says ·.inner) elements strings) : IsRecord names strings text

end Pageviews.Json
