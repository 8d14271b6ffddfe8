import Dialect.Filter.Files

/-! The program `paste`, which joins lines. -/
namespace Dialect.Filter.Paste

def delimiters? : Octets → Option (List Octets)
  | [] => some []
  | ['\\'] => none
  | '\\' :: c :: rest => do
    let delimiter : Octets := if c = '0' then [] else [(escapeOf? c).getD c]
    return delimiter :: (← delimiters? rest)
  | c :: rest => do
    return [c] :: (← delimiters? rest)

def joined (delimiters : List Octets) (place : Nat) : List Octets → Octets
  | [] => []
  | [line] => line
  | line :: rest =>
    line ++ (delimiters[place % delimiters.length]?).getD [] ++ joined delimiters (place + 1) rest

def parallel (delimiters : List Octets) (finish : Char) : Nat → List (List Octets) → Octets
  | 0, _ => []
  | fuel + 1, columns =>
    if columns.all (·.isEmpty) then []
    else
      joined delimiters 0 (columns.map fun column => column.head?.getD []) ++ finish ::
        parallel delimiters finish fuel (columns.map (·.tail))

def dealt (count : Nat) (lines : List Octets) : List (List Octets) :=
  (List.range count).map fun i =>
    (lines.zipIdx.filter fun (_, place) => place % count == i).map (·.1)

def switches : List Switch := [
  ⟨'d', ["delimiters"], .value, true⟩,
  ⟨'s', ["serial"], .nothing, true⟩,
  ⟨'z', ["zero-terminated"], .nothing, true⟩]

/-- The columns of files: the input is shared by all operands that name it. -/
def columnsOf (lines : List Octets) (operands : List Octets) : List (List Octets) :=
  let shares := dealt (operands.filter isInput).length lines
  (operands.foldl
    (fun (columns, shares) operand =>
      if isInput operand then (columns ++ [(shares.head?.getD [] : List Octets)], shares.tail)
      else (columns ++ [[]], shares))
    (([] : List (List Octets)), shares)).1

def run (args : List Octets) (input : Octets) : Outcome :=
  match Arguments.read switches args with
  | .error misuse => misused "paste" 1 misuse
  | .ok arguments =>
    let listed := (arguments.value? 'd').getD ['\t']
    match delimiters? listed with
    | none =>
      ⟨1, [], "paste: delimiter list ends with an unescaped backslash: ".toList ++ listed ++ ['\n']⟩
    | some delimiters =>
      let delimiters := if delimiters.isEmpty then [[]] else delimiters
      let finish := if arguments.has 'z' then '\x00' else '\n'
      let swapped (c : Char) : Char :=
        if !arguments.has 'z' then c else if c = '\n' then '\x00' else if c = '\x00' then '\n' else c
      let linesOf (text : Octets) : List Octets :=
        (rows (text.map swapped)).map fun row => row.1.map swapped
      let operands := if arguments.operands.isEmpty then [['-']] else arguments.operands
      let files := filesNamed input operands
      let found := gathered (missingFile "paste") files
      if arguments.has 's' then
        { found with
          out := files.flatMap fun file =>
            match file.text with
            | some text => joined delimiters 0 (linesOf text) ++ [finish]
            | none => [] }
      else if found.code ≠ 0 then { found with out := [] }
      else
        let columns := columnsOf (linesOf input) operands
        { found with out := parallel delimiters finish (input.length + 1) columns }

end Dialect.Filter.Paste
