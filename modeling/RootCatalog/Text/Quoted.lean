import RootCatalog.Text.EscapedTable
import RootCatalog.Text.Hex
/-! Texts and characters in quotation marks. The mark and the backslash are escaped, four controls
have letters, and every other character that has no shape of its own is shown by number. -/
namespace RootCatalog.Text

def isEscaped (c : Char) : Bool := CodeRange.contain c.toNat escapedRanges

def escape (mark c : Char) : String :=
  if c = '\\' then "\\\\"
  else if c = '\n' then "\\n"
  else if c = '\r' then "\\r"
  else if c = '\t' then "\\t"
  else if c.toNat = 0 then "\\0"
  else if c = mark then String.ofList ['\\', mark]
  else if isEscaped c then "\\u\x7b" ++ hexNumber c.toNat ++ "\x7d"
  else c.toString

def quoted (s : String) : String :=
  "\"" ++ String.join (s.toList.map (escape '"')) ++ "\""

def quotedChar (c : Char) : String := "'" ++ escape '\'' c ++ "'"

end RootCatalog.Text
