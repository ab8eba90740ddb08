import PgRole.Decimal.Arithmetic

/-!
# Decimals from text

`Decimal.ofText?` reads a sign, digits with at most one point and underscores after the first
digit. Digits that no longer fit behind the point are given up: the first of them rounds, and what
comes after it is not looked at. `Decimal.ofScientific?` reads such a text with a decimal exponent.
-/

namespace PgRole.Decimal

/-- Texts shorter than this have too few digits to overflow. -/
def longText : Nat := 18

/-- The mantissa from which on digits are collected in 96 bits rather than in 64. -/
def wideFrom : Nat := (2 ^ 64 - 1) / 10 - 255

/-- Rounds by the first character that does not count any more. -/
def roundBy (c : Char) (mantissa scale : Nat) : Option (Nat × Nat) :=
  match Text.digitVal? c with
  | some d =>
    if d < 5 then some (mantissa, scale)
    else if mantissa + 1 < limit then some (mantissa + 1, scale)
    else if scale = 0 then none
    else some ((mantissa + 5) / 10, scale - 1)
  | none => if c = '_' || c = '.' then some (mantissa, scale) else none

/-- How far a text has been read: whether past the point, whether there was a digit, whether the
mantissa has outgrown 64 bits, and the mantissa and the places so far. -/
structure Progress where
  point : Bool
  digit : Bool
  wide : Bool
  mantissa : Nat
  scale : Nat

/-- The places after one more digit. -/
def Progress.nextScale (p : Progress) : Nat := if p.point then p.scale + 1 else p.scale

/-- The progress by one digit. -/
def Progress.push (p : Progress) (long : Bool) (d : Nat) : Progress :=
  let m := 10 * p.mantissa + d
  { p with
    digit := true
    wide := p.wide || (long && decide (wideFrom ≤ m))
    mantissa := m
    scale := p.nextScale }

/-- The mantissa and places of the characters left. -/
def scan (long : Bool) (p : Progress) : List Char → Option (Nat × Nat)
  | [] => if p.digit then some (p.mantissa, p.scale) else none
  | c :: r =>
    match Text.digitVal? c with
    | some d =>
      if p.wide && limit ≤ 10 * p.mantissa + d then
        if p.point then roundBy c p.mantissa p.scale else none
      else if long && p.point && maxScale ≤ p.nextScale then
        match if p.wide then r.dropWhile (· = '_') else r with
        | [] => some (10 * p.mantissa + d, p.nextScale)
        | c' :: _ => roundBy c' (10 * p.mantissa + d) p.nextScale
      else scan long (p.push long d) r
    | none =>
      if c = '.' && !p.point then scan long { p with point := true } r
      else if c = '_' && p.digit then scan long p r
      else none

/-- The decimal of a text after its sign. -/
def readUnsigned? (negative long : Bool) (cs : List Char) : Option Decimal :=
  (scan long ⟨false, false, false, 0, 0⟩ cs).bind fun (m, s) => unsignedZero? negative m s

/-- The decimal of characters. -/
def ofChars? (cs : List Char) : Option Decimal :=
  let long := decide (longText ≤ cs.length)
  match cs with
  | '-' :: r => readUnsigned? true long r
  | '+' :: r => readUnsigned? false long r
  | cs => readUnsigned? false long cs

/-- The decimal of a text. -/
def ofText? (s : String) : Option Decimal := ofChars? s.toList

/-- A number of 32 bits with an optional plus sign. -/
def exponent? (cs : List Char) : Option Nat :=
  let ds := match cs with
    | '+' :: r => r
    | cs => cs
  (Text.readNat? ds).bind fun n => if n < 2 ^ 32 then some n else none

/-- The greatest power of ten by which a decimal is multiplied at once. -/
def powerStep : Nat := 19

/-- A mantissa and places times a power of ten, in steps of `powerStep`. -/
def timesPower (mantissa scale : Nat) (e : Nat) : Option (Nat × Nat) :=
  if h : powerStep ≤ e then do
    let (m, s) ← fit (mantissa * 10 ^ powerStep) scale
    timesPower m s (e - powerStep)
  else if e = 0 then some (mantissa, scale)
  else fit (mantissa * 10 ^ e) scale
termination_by e
decreasing_by have : 0 < powerStep := by decide
              omega

/-- A decimal with its point moved to the left. -/
def shiftLeft? (d : Decimal) (e : Nat) : Option Decimal :=
  if d.scale + e ≤ maxScale then ofParts? d.negative d.mantissa (d.scale + e) else none

/-- A decimal with its point moved to the right. -/
def shiftRight? (d : Decimal) (e : Nat) : Option Decimal :=
  if e ≤ d.scale then ofParts? d.negative d.mantissa (d.scale - e)
  else if e ≤ maxScale then
    (timesPower d.mantissa d.scale (e - d.scale)).bind fun (m, _) => ofParts? d.negative m 0
  else none

/-- The characters in front of the first letter of an exponent and those after it. -/
def splitExponent? (cs : List Char) : Option (List Char × List Char) :=
  let isLetter (c : Char) : Bool := c = 'e' || c = 'E'
  match cs.dropWhile fun c => !isLetter c with
  | [] => none
  | _ :: r => some (cs.takeWhile fun c => !isLetter c, r)

/-- The decimal of a text with an exponent. -/
def ofScientific? (s : String) : Option Decimal := do
  let (base, e) ← splitExponent? s.toList
  let d ← ofChars? base
  match e with
  | '-' :: r => (exponent? r).bind d.shiftLeft?
  | r => (exponent? r).bind d.shiftRight?

/-- The decimal of a text in either form. -/
def read? (s : String) : Option Decimal := (ofText? s).or (ofScientific? s)

example : (read? "1_000").map text = some "1000" := by decide +kernel
example : (read? "_1").map text = none := by decide +kernel
example : (read? "-12.50").map text = some "-12.50" := by decide +kernel
example : (read? "1.5e3").map text = some "1500" := by decide +kernel
example : (read? "1e-28").map text = some "0.0000000000000000000000000001" := by decide +kernel

end PgRole.Decimal
