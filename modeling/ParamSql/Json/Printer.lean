import ParamSql.Json
import ParamSql.Octets
import ParamSql.Double.Decimal

/-! JSON text without blanks. Quotes, backslashes and control characters are escaped and all other
characters stand for themselves. -/
namespace ParamSql.Json

def escape (c : Char) : List Char :=
  if c = '\x22' || c = '\\' then ['\\',c]
  else if c = '\x08' then ['\\','b']
  else if c = '\x0c' then ['\\','f']
  else if c = '\n' then ['\\','n']
  else if c = '\r' then ['\\','r']
  else if c = '\t' then ['\\','t']
  else if c.toNat < 0x20 then "\\u00".toList ++ Octets.toHex [UInt8.ofNat c.toNat]
  else [c]

def quoted (s : String) : String := String.ofList ('\x22' :: s.toList.flatMap escape ++ ['\x22'])

mutual
def text : Json → String
  | .null => "null"
  | .bool b => if b then "true" else "false"
  | .int n => toString n
  | .float x => x.text
  | .string s => quoted s
  | .array items => "[" ++ String.intercalate "," (texts items) ++ "]"
  | .object members => "\x7b" ++ String.intercalate "," (memberTexts members) ++ "\x7d"

def texts : List Json → List String
  | [] => []
  | item :: items => item.text :: texts items

def memberTexts : List (String × Json) → List String
  | [] => []
  | (name,value) :: members => (quoted name ++ ":" ++ value.text) :: memberTexts members
end

end ParamSql.Json
