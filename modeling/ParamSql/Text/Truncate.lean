/-! Cutting a text to a number of UTF-8 bytes. The cut falls between characters: what is kept
is the longest run of whole leading characters that fits. -/
namespace ParamSql.Text

/-- The leading characters whose encodings fit into `limit` bytes together. -/
def fitting : Nat → List Char → List Char
  | _, [] => []
  | limit, c :: cs => if c.utf8Size ≤ limit then c :: fitting (limit - c.utf8Size) cs else []

/-- A text that exceeds the limit is cut and marked with three dots. -/
def truncate (limit : Option Nat) (s : String) : String :=
  match limit with
  | some n => if n < s.utf8ByteSize then String.ofList (fitting n s.toList) ++ "..." else s
  | none => s

end ParamSql.Text
