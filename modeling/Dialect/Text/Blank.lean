/-! Blank characters are those with the Unicode property White_Space; trimming and splitting into
words mean these everywhere in the project. -/
namespace Dialect

def isBlank (c : Char) : Bool :=
  let n := c.toNat
  (9 ≤ n && n ≤ 13) || n == 0x20 || n == 0x85 || n == 0xA0 || n == 0x1680 ||
    (0x2000 ≤ n && n ≤ 0x200A) || n == 0x2028 || n == 0x2029 || n == 0x202F || n == 0x205F ||
    n == 0x3000

def trimStart (text : List Char) : List Char := text.dropWhile isBlank

def trimEnd (text : List Char) : List Char := (text.reverse.dropWhile isBlank).reverse

def trim (text : List Char) : List Char := trimEnd (trimStart text)

def isBlankText (text : List Char) : Bool := text.all isBlank

/-- The maximal runs of characters that are not blank, in order. -/
def blankSeparated (text : List Char) : List (List Char) :=
  (text.foldr
    (fun c (words : List (List Char)) =>
      if isBlank c then [] :: words
      else match words with
        | [] => [[c]]
        | word :: rest => (c :: word) :: rest)
    [[]]).filter (fun word => !word.isEmpty)

end Dialect
