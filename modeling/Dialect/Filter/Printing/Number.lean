import Dialect.Filter.Octet

/-! Numbers in the arguments of `printf`: how they are read, and how a directive writes them. -/
namespace Dialect.Filter.Printing

structure Layout where
  left : Bool := false
  plus : Bool := false
  blank : Bool := false
  alternate : Bool := false
  zeros : Bool := false
  width : Nat := 0
  precision : Option Nat := none
  deriving Repr, DecidableEq

def Layout.fill (layout : Layout) (text : Octets) : Octets :=
  let blanks := List.replicate (layout.width - text.length) ' '
  if layout.left then text ++ blanks else blanks ++ text

def Layout.text (layout : Layout) (text : Octets) : Octets :=
  layout.fill (text.take (layout.precision.getD text.length))

/-- A sign or a base in front of digits. Zeros, where they fill the width, stand between the two. -/
def Layout.number (layout : Layout) (zeros : Bool) (front body : Octets) : Octets :=
  if zeros && layout.zeros && !layout.left then
    front ++ List.replicate (layout.width - front.length - body.length) '0' ++ body
  else layout.fill (front ++ body)

def Layout.sign (layout : Layout) (negative : Bool) : Octets :=
  if negative then ['-'] else if layout.plus then ['+'] else if layout.blank then [' '] else []

/-- The digits of an integer, at least as many as the precision asks for. -/
def Layout.digits (layout : Layout) (base value : Nat) : Octets :=
  let digits := if value = 0 ∧ layout.precision = some 0 then [] else Nat.toDigits base value
  List.replicate (layout.precision.getD 0 - digits.length) '0' ++ digits

def Layout.signed (layout : Layout) (value : Int) : Octets :=
  layout.number layout.precision.isNone (layout.sign (value < 0)) (layout.digits 10 value.natAbs)

def Layout.unsigned (layout : Layout) (value : Nat) : Octets :=
  layout.number layout.precision.isNone [] (layout.digits 10 value)

def Layout.octal (layout : Layout) (value : Nat) : Octets :=
  let digits := layout.digits 8 value
  let digits := if layout.alternate && digits.head? ≠ some '0' then '0' :: digits else digits
  layout.number layout.precision.isNone [] digits

/-- In the alternate form the base stands before all numbers but zero. -/
def Layout.hex (layout : Layout) (upper : Bool) (value : Nat) : Octets :=
  let digits := layout.digits 16 value
  let front : Octets := if layout.alternate && value ≠ 0 then ['0', 'x'] else []
  let shown (text : Octets) : Octets := if upper then text.map Char.toUpper else text
  layout.number layout.precision.isNone (shown front) (shown digits)

structure Reading (α : Type) where
  value : α
  found : Bool
  rest : Octets
  inRange : Bool := true

def isSpace (c : Char) : Bool := c == ' ' || ('\t' ≤ c && c ≤ '\r')

def valueOf (base : Nat) (digits : Octets) : Nat :=
  digits.foldl (fun value c => base * value + (digitValue? base c).getD 0) 0

/-- Blanks and a sign: whether it is a minus, and what follows. -/
def readSign (text : Octets) : Bool × Octets :=
  match text.dropWhile isSpace with
  | '-' :: rest => (true, rest)
  | '+' :: rest => (false, rest)
  | rest => (false, rest)

/-- Digits in base 16 after `0x`, in base 8 after `0`, and in base 10 otherwise. -/
def readMagnitude (text : Octets) : Reading Nat :=
  let inBase (base : Nat) (text : Octets) : Reading Nat :=
    let digits := text.takeWhile fun c => (digitValue? base c).isSome
    ⟨valueOf base digits, !digits.isEmpty, text.drop digits.length, true⟩
  match text with
  | '0' :: 'x' :: rest | '0' :: 'X' :: rest =>
    if rest.head?.any fun c => (digitValue? 16 c).isSome then inBase 16 rest
    else ⟨0, true, text.tail, true⟩
  | '0' :: _ => inBase 8 text
  | _ => inBase 10 text

/-- An integer of 64 bits. One that is out of range becomes the nearest one. -/
def readSigned (text : Octets) : Reading Int :=
  let (negative, body) := readSign text
  let magnitude := readMagnitude body
  let limit := Nat.pow 2 63
  let value : Int := if negative then -(magnitude.value : Int) else magnitude.value
  let nearest := max (-(limit : Int)) (min value ((limit : Int) - 1))
  ⟨nearest, magnitude.found, if magnitude.found then magnitude.rest else text, nearest == value⟩

def readUnsigned (text : Octets) : Reading Nat :=
  let (negative, body) := readSign text
  let magnitude := readMagnitude body
  let size := Nat.pow 2 64
  let inRange := magnitude.value < size
  let value :=
    if !inRange then size - 1
    else if negative then (size - magnitude.value) % size
    else magnitude.value
  ⟨value, magnitude.found, if magnitude.found then magnitude.rest else text, inRange⟩

inductive Real where
  | finite (numerator denominator : Nat)
  | infinite
  | undefined
  deriving Repr, DecidableEq

def roundQuotient (numerator denominator : Nat) : Nat :=
  let quotient := numerator / denominator
  let twice := 2 * (numerator % denominator)
  if denominator < twice ∨ (twice = denominator ∧ quotient % 2 = 1) then quotient + 1 else quotient

def Real.rounded (bits : Nat) : Real → Real
  | .finite numerator denominator =>
    if numerator = 0 ∨ denominator = 0 then .finite 0 1
    else
      -- The quotient has `up - down` binary digits, or one less.
      let up := numerator.log2
      let down := denominator.log2
      let scale (n d : Nat) : Nat × Nat :=
        if up ≤ down + bits then (n * Nat.pow 2 (bits + down - up), d)
        else (n, d * Nat.pow 2 (up - down - bits))
      let (n, d) := scale numerator denominator
      let (n, d) := if Nat.pow 2 bits * d ≤ n then (n, 2 * d) else (n, d)
      let whole := roundQuotient n d
      -- Undo the scaling.
      .finite (whole * d * numerator) (n * denominator)
  | other => other

def exponentLimit : Nat := 5000

def readDecimal (text : Octets) : Reading Real :=
  let whole := text.takeWhile Char.isDigit
  let rest := text.drop whole.length
  let (fraction, rest) := match rest with
    | '.' :: more =>
      let fraction := more.takeWhile Char.isDigit
      if whole.isEmpty && fraction.isEmpty then ([], rest) else (fraction, more.drop fraction.length)
    | rest => ([], rest)
  if whole.isEmpty && fraction.isEmpty then ⟨.finite 0 1, false, text, true⟩
  else
    let (exponent, rest) : Int × Octets := match rest with
      | e :: more =>
        let unsigned := match more with
          | '-' :: digits | '+' :: digits => digits
          | digits => digits
        let digits := unsigned.takeWhile Char.isDigit
        if (e = 'e' ∨ e = 'E') ∧ !digits.isEmpty then
          (if more.head? = some '-' then -(valueOf 10 digits : Int) else valueOf 10 digits,
            unsigned.drop digits.length)
        else (0, rest)
      | [] => (0, [])
    let value := valueOf 10 (whole ++ fraction)
    let exponent := exponent - fraction.length
    if value = 0 then ⟨.finite 0 1, true, rest, true⟩
    else if (exponentLimit : Int) < exponent then ⟨.infinite, true, rest, false⟩
    else if exponent < -(exponentLimit : Int) then ⟨.finite 0 1, true, rest, false⟩
    else if 0 ≤ exponent then ⟨.finite (value * Nat.pow 10 exponent.toNat) 1, true, rest, true⟩
    else ⟨.finite value (Nat.pow 10 exponent.natAbs), true, rest, true⟩

/-- A number as it stands in an argument, with its sign. `bits` binary digits are kept, and numbers
from 2 to the power `limit` on are infinite. -/
def readReal (bits limit : Nat) (text : Octets) : Reading (Bool × Real) :=
  let (negative, body) := readSign text
  let lower := String.ofList ((body.take 8).map Char.toLower)
  let found := fun (value : Real) (length : Nat) =>
    (⟨(negative, value), true, body.drop length, true⟩ : Reading (Bool × Real))
  if lower = "infinity" then found .infinite 8
  else if lower.startsWith "inf" then found .infinite 3
  else if lower.startsWith "nan" then found .undefined 3
  else
    let reading := match body with
      | '0' :: 'x' :: _ | '0' :: 'X' :: _ =>
        let magnitude := readMagnitude body
        (⟨.finite magnitude.value 1, true, magnitude.rest, true⟩ : Reading Real)
      | _ => readDecimal body
    let value := reading.value.rounded bits
    let (value, inRange) := match value with
      | .finite numerator denominator =>
        if Nat.pow 2 limit * denominator ≤ numerator then (Real.infinite, false)
        else (value, reading.inRange)
      | other => (other, reading.inRange)
    ⟨(negative && reading.found, value), reading.found, if reading.found then reading.rest else text, inRange⟩

def pointed (alternate : Bool) (places value : Nat) : Octets :=
  let digits := Nat.toDigits 10 value
  let digits := List.replicate (places + 1 - digits.length) '0' ++ digits
  let whole := digits.take (digits.length - places)
  if places = 0 then whole ++ (if alternate then ['.'] else [])
  else whole ++ '.' :: digits.drop (digits.length - places)

def scaledBy (exponent : Int) (numerator denominator : Nat) : Nat :=
  if 0 ≤ exponent then roundQuotient (numerator * Nat.pow 10 exponent.toNat) denominator
  else roundQuotient numerator (denominator * Nat.pow 10 exponent.natAbs)

/-- The first `places + 1` digits of a quotient, and the power of ten of the first one. -/
def leadingDigits (places numerator denominator : Nat) : Nat × Int :=
  if numerator = 0 then (0, 0)
  else
    let guess : Int :=
      (Nat.toDigits 10 numerator).length - ((Nat.toDigits 10 denominator).length : Int)
    -- The power is the guess or one less.
    let isLess :=
      if 0 ≤ guess then numerator < denominator * Nat.pow 10 guess.toNat
      else numerator * Nat.pow 10 guess.natAbs < denominator
    let power := if isLess then guess - 1 else guess
    let digits := scaledBy (places - power) numerator denominator
    if digits = Nat.pow 10 (places + 1) then (digits / 10, power + 1) else (digits, power)

def exponentText (power : Int) : Octets :=
  let digits := Nat.toDigits 10 power.natAbs
  'e' :: (if power < 0 then '-' else '+') :: List.replicate (2 - digits.length) '0' ++ digits

def trimmed (text : Octets) : Octets :=
  if text.contains '.' then
    ((text.reverse.dropWhile (· == '0')).dropWhile (· == '.')).reverse
  else text

/-- A number with a fraction in the style of a letter: `f`, `e` or `g`. -/
def Layout.real (layout : Layout) (style : Char) (upper negative : Bool) (value : Real) : Octets :=
  let shown (text : Octets) : Octets := if upper then text.map Char.toUpper else text
  let front := layout.sign negative
  let places := layout.precision.getD 6
  match value with
  | .infinite => layout.number false front (shown "inf".toList)
  | .undefined => layout.number false front (shown "nan".toList)
  | .finite numerator denominator =>
    let scientific (places : Nat) : Octets × Int :=
      let (digits, power) := leadingDigits places numerator denominator
      (pointed layout.alternate places digits, power)
    let body := match style with
      | 'f' => pointed layout.alternate places (scaledBy places numerator denominator)
      | 'e' =>
        let (digits, power) := scientific places
        digits ++ exponentText power
      | _ =>
        let places := max places 1
        let (digits, power) := scientific (places - 1)
        let kept (text : Octets) : Octets := if layout.alternate then text else trimmed text
        if -4 ≤ power ∧ power < places then
          let places := ((places : Int) - 1 - power).toNat
          kept (pointed layout.alternate places (scaledBy places numerator denominator))
        else kept digits ++ exponentText power
    layout.number true front (shown body)

end Dialect.Filter.Printing
