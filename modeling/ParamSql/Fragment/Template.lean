import ParamSql.Fragment

/-! Templates: SQL text in which `?` marks an argument and `??` is a question mark. -/
namespace ParamSql.Fragment

def markerCount : List Char → Nat
  | '?' :: '?' :: cs => markerCount cs
  | '?' :: cs => markerCount cs + 1
  | _ :: cs => markerCount cs
  | [] => 0

def mismatch? (template : String) (args : List Value) : Option MarkerMismatch :=
  let markers := markerCount template.toList
  if markers = args.length then none else some ⟨template,markers,args.length⟩

/-- Writes the characters of a template and binds an argument at each marker. A marker without
argument stays a question mark. -/
def fillChars : List Char → List Value → Fragment → Fragment
  | '?' :: '?' :: cs, args, f => fillChars cs args (f.text "?")
  | '?' :: cs, v :: args, f => fillChars cs args (f.bind v)
  | '?' :: cs, [], f => fillChars cs [] (f.text "?")
  | c :: cs, args, f => fillChars cs args (f.text c.toString)
  | [], _, f => f

/-- Writes a template; a mismatch is kept for the build. -/
def fill (f : Fragment) (template : String) (args : List Value) : Fragment :=
  fillChars template.toList args { f with mismatch := f.mismatch.or (mismatch? template args) }

/-- Writes a template whose markers match its arguments. -/
def fill? (template : String) (args : List Value) : Change Fragment Unit := do
  if let some mismatch := mismatch? template args then throw (.validation (.markers mismatch))
  modify (·.fill template args)

end ParamSql.Fragment
