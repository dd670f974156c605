import PubSub.Text.Binary64

/-!
# Numbers in decimal notation

How option values write numbers.

* `Text.nat?`, `Text.int?`: whole numbers, with or without a sign, in any number of digits.
* `Text.float?`: a number with an optional fraction and exponent, or a name for infinity or for no number, as the
  nearest binary64 number.
-/

namespace PubSub.Text

/-- Whether `c` is a decimal digit. -/
def isDigit (c : Char) : Bool := '0' ≤ c && c ≤ '9'

/-- The number that decimal digits write. -/
def digitsValue (cs : List Char) : Nat :=
  cs.foldl (fun v c => v * 10 + (c.toNat - 48)) 0

/-- A non-empty list of decimal digits, as a number. -/
def digits? (cs : List Char) : Option Nat :=
  if cs ≠ [] ∧ cs.all isDigit then some (digitsValue cs) else none

/-- A whole number of at most `most`, with an optional plus sign. -/
def nat? (most : Nat) (s : String) : Option Nat :=
  let v := match s.toList with
    | '+' :: cs => digits? cs
    | cs => digits? cs
  v.filter (· ≤ most)

/-- A whole number from `least` to `most`, with an optional sign. -/
def int? (least most : Int) (s : String) : Option Int :=
  let v : Option Int := match s.toList with
    | '+' :: cs => (digits? cs).map Int.ofNat
    | '-' :: cs => (digits? cs).map fun n => -Int.ofNat n
    | cs => (digits? cs).map Int.ofNat
  v.filter fun n => least ≤ n ∧ n ≤ most

/-- The pattern of the number nearest to `m` times ten to the power of `e`, where `digits` is the number of digits of
`m`. Beyond four hundred places the answer is infinity or zero. -/
def scaled (m digits : Nat) (e : Int) : Nat :=
  if m = 0 then 0
  else if 400 < e + digits then Binary64.infinity
  else if e + digits < -400 then 0
  else if e < 0 then Binary64.nearest m (Nat.pow 10 e.natAbs)
  else Binary64.nearest (m * Nat.pow 10 e.natAbs) 1

/-- An exponent: the mark `e`, an optional sign and digits; zero where there is nothing. -/
def exponent? : List Char → Option Int
  | [] => some 0
  | c :: rest =>
    if c = 'e' ∨ c = 'E' then
      match rest with
      | '+' :: cs => (digits? cs).map Int.ofNat
      | '-' :: cs => (digits? cs).map fun n => -Int.ofNat n
      | cs => (digits? cs).map Int.ofNat
    else none

/-- The pattern of a number without its sign. -/
def unsigned? (cs : List Char) : Option Nat :=
  let word := cs.map Char.toLower
  if word = ['i', 'n', 'f'] ∨ word = ['i', 'n', 'f', 'i', 'n', 'i', 't', 'y'] then some Binary64.infinity
  else if word = ['n', 'a', 'n'] then some Binary64.notNumber
  else
    let whole := cs.takeWhile isDigit
    let rest := cs.drop whole.length
    let fraction := match rest with
      | '.' :: r => r.takeWhile isDigit
      | _ => []
    let rest := match rest with
      | '.' :: r => r.drop fraction.length
      | r => r
    if whole = [] ∧ fraction = [] then none
    else
      let all := (whole ++ fraction).dropWhile (· == '0')
      (exponent? rest).map fun e => scaled (digitsValue all) all.length (e - fraction.length)

/-- A number, with an optional sign. -/
def float? (s : String) : Option Float :=
  match s.toList with
  | '+' :: cs => (unsigned? cs).map Binary64.toFloat
  | '-' :: cs => (unsigned? cs).map fun pattern => Binary64.toFloat (Binary64.sign + pattern)
  | cs => (unsigned? cs).map Binary64.toFloat

end PubSub.Text
