import ParamSql.Statement

/-! Fragments: SQL text with slots for arguments. Placeholders have no numbers inside a fragment;
they are numbered from left to right when the whole text is written out, so fragments can be put
together in any way. Text next to text is one piece, and no piece is empty text. -/
namespace ParamSql

inductive Piece where
  | text (s : String)
  | slot (v : Value)
  deriving DecidableEq, Inhabited

namespace Piece

/-- Adds text at the end, to the last piece if that is text. -/
def addText (s : String) : List Piece → List Piece
  | [] => if s.isEmpty then [] else [text s]
  | [text last] => [text (last ++ s)]
  | piece :: pieces => piece :: addText s pieces

def addAll (pieces : List Piece) : List Piece → List Piece
  | [] => pieces
  | text s :: rest => addAll (addText s pieces) rest
  | slot v :: rest => addAll (pieces ++ [slot v]) rest

def arg? : Piece → Option Value
  | text _ => none
  | slot v => some v

def renderFrom (d : Dialect) : (count : Nat) → List Piece → String
  | _, [] => ""
  | count, text s :: pieces => s ++ renderFrom d count pieces
  | count, slot _ :: pieces => d.placeholder (count + 1) ++ renderFrom d (count + 1) pieces

end Piece

structure Fragment where
  pieces : List Piece
  tag : Option String
  /-- The first template whose markers did not match its arguments. -/
  mismatch : Option MarkerMismatch
  deriving DecidableEq, Inhabited

namespace Fragment

def empty : Fragment := ⟨[],none,none⟩

def text (f : Fragment) (s : String) : Fragment := { f with pieces := Piece.addText s f.pieces }

def ofText (s : String) : Fragment := empty.text s

def bind (f : Fragment) (v : Value) : Fragment := { f with pieces := f.pieces ++ [.slot v] }

def bindRest (f : Fragment) : List Value → Fragment
  | [] => f
  | v :: vs => ((f.text ", ").bind v).bindRest vs

/-- A list of slots; no value at all is `NULL`, which an `IN` never finds. -/
def bindList (f : Fragment) : List Value → Fragment
  | [] => f.text "NULL"
  | v :: vs => (f.bind v).bindRest vs

def ident (f : Fragment) (d : Dialect) (name : String) : Fragment := f.text (d.quote name)

def idents (f : Fragment) (d : Dialect) (names : List String) : Fragment :=
  f.text (String.intercalate ", " (names.map d.quote))

/-- Puts another fragment at the end. The tag and the mismatch of the first one count, if it has
them. -/
def append (f g : Fragment) : Fragment :=
  ⟨Piece.addAll f.pieces g.pieces,f.tag.or g.tag,f.mismatch.or g.mismatch⟩

def withTag (f : Fragment) (tag : String) : Fragment := { f with tag := some tag }

def args (f : Fragment) : List Value := f.pieces.filterMap Piece.arg?

def isEmpty (f : Fragment) : Bool := f.pieces.isEmpty

def render (f : Fragment) (d : Dialect) : String := Piece.renderFrom d 0 f.pieces

def build (f : Fragment) (d : Dialect) : Except Error Statement :=
  match f.mismatch with
  | some mismatch => .error (.validation (.markers mismatch))
  | none => .ok ⟨f.render d,f.args,f.tag,none⟩

end Fragment

end ParamSql
