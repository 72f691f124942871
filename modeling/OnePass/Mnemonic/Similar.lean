import OnePass.Mnemonic.Table
import OnePass.Text.EditDistance

/-!
# Similar mnemonics

The keywords offered as a hint when a mnemonic is unknown: those that differ from it by at most two
edits and by at most one in length, up to case.
-/

namespace OnePass.MnemonicTable

/-- Whether a keyword is spelled like a name. -/
def isSimilar (name keyword : Text) : Bool :=
  let k := Text.foldCase keyword
  let n := Text.foldCase name
  decide (k.length ≤ n.length + 1) && decide (n.length ≤ k.length + 1) &&
    decide (Text.editDistance n k ≤ 2)

/-- The first three keywords of the table that are spelled like a name. -/
def similar (t : MnemonicTable) (name : Text) : List Text :=
  (t.keywords.filter (isSimilar name)).take 3

end OnePass.MnemonicTable
