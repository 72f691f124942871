import OnePass.Symbol.Table

/-!
# Symbol listings

A symbol table is written in two ways: as a report for people, with aligned columns, and as a
symbol file with one line per symbol.
-/

namespace OnePass

namespace Symbol

/-- The line of a symbol in the report. The columns are minimum widths. -/
def reportLine (s : Symbol) : Text :=
  "label=" ++ Text.padRight 15 s.name ++ " offset=" ++ Text.padLeft 4 (Text.ofInt s.offset) ++
    " line_num=" ++ Text.zeroPadded 3 s.line

def fileLine (s : Symbol) : Text :=
  s.name ++ " " ++ Text.ofInt s.offset ++ " " ++ Text.ofInt s.line ++ "\n"

end Symbol

def reportHeader : Text := "label table:"

def report (symbols : List Symbol) : List Text := reportHeader :: symbols.map Symbol.reportLine

def fileHeader : List Text := ["# Symbol table\n", "# Generated by linasm\n"]

def SymbolTable.fileLines (t : SymbolTable) : List Text :=
  fileHeader ++ t.symbols.map Symbol.fileLine

end OnePass
