/-! Blank text. A character is blank when it has the Unicode property White_Space.
Trimming removes blank characters at the ends; the words of a text are its maximal runs of
other characters. -/
namespace ParamSql.Text

/-- The 25 code points of White_Space. -/
def isBlank (c : Char) : Bool :=
  (0x09 ≤ c.toNat && c.toNat ≤ 0x0d) || (0x2000 ≤ c.toNat && c.toNat ≤ 0x200a) ||
    [0x20,0x85,0xa0,0x1680,0x2028,0x2029,0x202f,0x205f,0x3000].contains c.toNat

def trimStart (cs : List Char) : List Char := cs.dropWhile isBlank

def trimEnd (cs : List Char) : List Char := (cs.reverse.dropWhile isBlank).reverse

def trim (cs : List Char) : List Char := trimEnd (trimStart cs)

/-- The words of a text, after the reversed characters of a word that is still open. -/
def wordsFrom (word : List Char) : List Char → List (List Char)
  | [] => if word.isEmpty then [] else [word.reverse]
  | c :: cs =>
    if isBlank c then
      if word.isEmpty then wordsFrom [] cs else word.reverse :: wordsFrom [] cs
    else wordsFrom (c :: word) cs

def words (cs : List Char) : List (List Char) := wordsFrom [] cs

/-- The text before and after its last blank character. -/
def splitAtLastBlank? (cs : List Char) : Option (List Char × List Char) :=
  match cs.reverse.span (!isBlank ·) with
  | (_,[]) => none
  | (tail,_ :: head) => some (head.reverse,tail.reverse)

/-- Whether a text is empty once trimmed. -/
def isBlankText (s : String) : Bool := s.toList.all isBlank

def trimmed (s : String) : String := String.ofList (trim s.toList)

/-- Equality of keywords, which ignores the case of ASCII letters. -/
def sameKeyword (a b : List Char) : Bool := a.map Char.toLower == b.map Char.toLower

/-- The pieces between the separators; without a separator, the whole text. -/
def splitOnChar (separator : Char) : List Char → List (List Char)
  | [] => [[]]
  | c :: cs =>
    if c = separator then [] :: splitOnChar separator cs
    else match splitOnChar separator cs with
      | [] => [[c]]
      | part :: parts => (c :: part) :: parts

end ParamSql.Text
