import SetQuery.Dialect
import SetQuery.Text.Blank

/-!
# Quoted identifiers

An identifier stands between two delimiters, and a closing delimiter inside it is written twice.
A qualified name is quoted part by part, the parts being what stands between dots.
-/

namespace SetQuery

/-- The delimiters of quoted identifiers. -/
structure Delimiters where
  opening : Char
  closing : Char
deriving DecidableEq, Repr

/-- The text with every occurrence of a character written twice. -/
def doubled (c : Char) (s : List Char) : List Char :=
  s.flatMap fun x => if x = c then [c, c] else [x]

/-- The text between the delimiters. -/
def Delimiters.quote (d : Delimiters) (s : List Char) : List Char :=
  d.opening :: doubled d.closing s ++ [d.closing]

namespace Dialect

/-- The delimiters of the dialect. -/
def delimiters : Dialect → Delimiters
  | .msSql => ⟨'[', ']'⟩
  | .bigQuery | .mySql | .hive => ⟨'\x60', '\x60'⟩
  | _ => ⟨'"', '"'⟩

/-- The identifier in the dialect's delimiters. -/
def quoteIdent (d : Dialect) (ident : String) : String :=
  String.ofList (d.delimiters.quote ident.toList)

/-- The name with each of its parts quoted. -/
def quoteQualified (d : Dialect) (name : String) : String :=
  ".".intercalate ((Text.pieces '.' name).map d.quoteIdent)

end Dialect

end SetQuery
