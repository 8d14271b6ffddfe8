import Dialect.Order

/-! Labels of host names with characters outside ASCII, written in ASCII and read back. The ASCII characters of a label come
first; each of the others follows as the number of steps from the one before, in order of the
characters and, for one character, of its places. The numbers are written in base 36 with a last digit
that is recognised by a threshold, and the thresholds follow the sizes of the numbers so far. -/
namespace Dialect.Address.Punycode

/-- The digit of a number below 36: a letter, then a numeral. -/
def digit (n : Nat) : Char := if n < 26 then Char.ofNat (0x61 + n) else Char.ofNat (0x16 + n)

def threshold (place bias : Nat) : Nat :=
  if place ≤ bias then 1 else if bias + 26 ≤ place then 26 else place - bias

theorem threshold_pos (place bias : Nat) : 1 ≤ threshold place bias := by
  unfold threshold
  split
  · exact Nat.le_refl 1
  · split <;> omega

def digits (bias place n : Nat) : List Char :=
  let least := threshold place bias
  if n < least then [digit n]
  else digit (least + (n - least) % (36 - least)) ::
    digits bias (place + 36) ((n - least) / (36 - least))
termination_by n
decreasing_by
  have positive := threshold_pos place bias
  exact Nat.lt_of_le_of_lt (Nat.div_le_self _ _) (by omega)

def damp (n bias : Nat) : Nat :=
  if 455 < n then damp (n / 35) (bias + 36) else bias + 36 * n / (n + 38)
termination_by n
decreasing_by exact Nat.div_lt_self (by omega) (by omega)

/-- The bias after a number has been written as the `count`th character. -/
def adapt (n count : Nat) (first : Bool) : Nat :=
  let scaled := if first then n / 700 else n / 2
  damp (scaled + scaled / count) 0

structure Progress where
  output : List Char
  steps : Nat
  bias : Nat
  count : Nat

/-- Passes the character `c` of the label while the places of `target` are written; `basic` counts the
ASCII characters. -/
def pass (basic target : Nat) (progress : Progress) (c : Char) : Progress :=
  if c.toNat < target then { progress with steps := progress.steps + 1 }
  else if c.toNat = target then
    ⟨progress.output ++ digits progress.bias 36 progress.steps, 0,
      adapt progress.steps (progress.count + 1) (progress.count == basic), progress.count + 1⟩
  else progress

/-- Writes the places of all `targets`; `next` is the first character that has not been passed. -/
def write (label : List Char) (basic : Nat) : List Nat → Nat → Progress → Progress
  | [], _, progress => progress
  | target :: rest, next, progress =>
    let start := { progress with
      steps := progress.steps + (target - next) * (progress.count + 1) }
    let done := label.foldl (pass basic target) start
    write label basic rest (target + 1) { done with steps := done.steps + 1 }

def targets (label : List Char) : List Nat :=
  (sortBy (fun a b => a ≤ b) ((label.filter fun c => 0x80 ≤ c.toNat).map Char.toNat)).eraseDups

def encode (label : List Char) : List Char :=
  let basic := label.filter fun c => c.toNat < 0x80
  if basic.length = label.length then label
  else
    "xn--".toList ++ (if basic.isEmpty then [] else basic ++ ['-']) ++
      (write label basic.length (targets label) 0x80 ⟨[], 0, 72, basic.length⟩).output

def value? (c : Char) : Option Nat :=
  if 'a' ≤ c && c ≤ 'z' then some (c.toNat - 0x61)
  else if '0' ≤ c && c ≤ '9' then some (c.toNat - 0x16)
  else none

def limit : Nat := 0x100000000

/-- Reads a number and adds it to `sum`. The next digit stands at `place` and counts `weight` times. -/
def number? (bias : Nat) : Nat → Nat → Nat → List Char → Option (Nat × List Char)
  | _, _, _, [] => none
  | place, weight, sum, c :: rest =>
    match value? c with
    | none => none
    | some value =>
      let least := threshold place bias
      let total := sum + value * weight
      if limit ≤ total then none
      else if value < least then some (total, rest)
      else if limit ≤ weight * (36 - least) then none
      else number? bias (place + 36) (weight * (36 - least)) total rest

theorem length_lt_of_number? {bias place weight sum total : Nat} {digits rest : List Char}
    (found : number? bias place weight sum digits = some (total, rest)) :
    rest.length < digits.length := by
  induction digits generalizing place weight sum with
  | nil => simp [number?] at found
  | cons c digits ih =>
    rw [number?] at found
    split at found
    · simp at found
    · simp only at found
      split at found
      · simp at found
      · split at found
        · simp only [Option.some.injEq, Prod.mk.injEq] at found
          simp [found.2]
        · split at found
          · simp at found
          · exact Nat.lt_succ_of_lt (ih found)

/-- Puts the characters that the digits tell of into `label`. The last one was `code`, and stands right
before `next`. -/
def insertAll? (bias code next : Nat) (label digits : List Char) : Option (List Char) :=
  if digits.isEmpty then some label
  else
    match _ : number? bias 36 1 next digits with
    | none => none
    | some (total, rest) =>
      let count := label.length + 1
      let reached := code + total / count
      if reached.isValidChar then
        insertAll? (adapt (total - next) count (next == 0)) reached (total % count + 1)
          (label.insertIdx (total % count) (Char.ofNat reached)) rest
      else none
termination_by digits.length
decreasing_by exact length_lt_of_number? ‹_›

/-- Reads what `encode` writes after `xn--`. The ASCII characters end at the last hyphen. -/
def decode? (code : List Char) : Option (List Char) :=
  let digits := (code.reverse.takeWhile (· ≠ '-')).reverse
  let basic := code.take (code.length - digits.length - 1)
  if basic.isEmpty && digits.length < code.length then none
  else insertAll? 72 0x80 0 basic digits

end Dialect.Address.Punycode
