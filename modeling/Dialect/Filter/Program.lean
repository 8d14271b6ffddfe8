import Dialect.Filter.Printing
import Dialect.Filter.Columns.Cut
import Dialect.Filter.Columns.Fold
import Dialect.Filter.Columns.Paste
import Dialect.Filter.Columns.Tabs
import Dialect.Filter.Condition
import Dialect.Filter.Counting
import Dialect.Filter.Encoding
import Dialect.Filter.Ends
import Dialect.Filter.Naming
import Dialect.Filter.Sorting
import Dialect.Filter.Search
import Dialect.Filter.StreamEdit
import Dialect.Filter.Waiting
import Dialect.Filter.Exchange

/-! The programs by name. -/
namespace Dialect.Filter

structure Program where
  reads : Bool
  run : List Octets → Octets → Outcome

def program? (name : String) : Option Program :=
  match name with
  | "cat" => some ⟨true, cat⟩
  | "tr" => some ⟨true, Exchange.run⟩
  | "sed" => some ⟨true, StreamEdit.run⟩
  | "tac" => some ⟨true, tac⟩
  | "rev" => some ⟨true, rev⟩
  | "head" => some ⟨true, Ends.head⟩
  | "tail" => some ⟨true, Ends.tail⟩
  | "sort" => some ⟨true, Sorting.sort⟩
  | "uniq" => some ⟨true, uniq⟩
  | "wc" => some ⟨true, wc⟩
  | "tee" => some ⟨true, tee⟩
  | "grep" => some ⟨true, Search.run⟩
  | "echo" => some ⟨false, fun args _ => echo .program args⟩
  | "printf" => some ⟨false, fun args _ => printf args⟩
  | "true" => some ⟨false, fun _ _ => {}⟩
  | "false" => some ⟨false, fun _ _ => ⟨1, [], []⟩⟩
  | "sleep" => some ⟨false, fun args _ => sleep args⟩
  | "test" => some ⟨false, fun args _ => Condition.run .program "test".toList args⟩
  | "[" => some ⟨false, fun args _ => Condition.bracketed .program ['['] args⟩
  | "nl" => some ⟨true, nl⟩
  | "cut" => some ⟨true, Cut.run⟩
  | "paste" => some ⟨true, Paste.run⟩
  | "fold" => some ⟨true, Fold.run⟩
  | "expand" => some ⟨true, Tabs.expand⟩
  | "unexpand" => some ⟨true, Tabs.unexpand⟩
  | "base64" => some ⟨true, Base64.run⟩
  | "od" => some ⟨true, Dump.run⟩
  | "basename" => some ⟨false, fun args _ => basename args⟩
  | "dirname" => some ⟨false, fun args _ => dirname args⟩
  | "seq" => some ⟨false, fun args _ => Sequence.run args⟩
  | _ => none

end Dialect.Filter
