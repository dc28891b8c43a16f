import ParamSql.Dialect
import ParamSql.Duration
import ParamSql.Value

/-! Errors, by cause, and their wording. -/
namespace ParamSql

structure MarkerMismatch where
  template : String
  markers : Nat
  args : Nat
  deriving DecidableEq, Repr

def MarkerMismatch.message (m : MarkerMismatch) : String :=
  "`" ++ m.template ++ "` has " ++ m.markers.repr ++ " placeholder(s) but " ++ m.args.repr ++
    " argument(s)"

/-- A statement, or a part of one, that its builder refuses. -/
inductive Misuse where
  | markers (mismatch : MarkerMismatch)
  | selectMarkers (mismatch : MarkerMismatch)
  /-- Found by a call that could not fail, and kept for the build. -/
  | deferred (cause : Misuse)
  | unnamedSubquery
  | unnamedCte
  | recursiveWithoutUnion (cte : String)
  | updateWithoutColumns (table : String)
  | updateWithoutFilter (table : String)
  | deleteWithoutFilter (table : String)
  | upsertWithoutTarget
  | batchInsertWithoutColumns
  | batchInsertBlankColumn
  | batchInsertRepeatedColumn
  | batchInsertRowWidth (row given expected : Nat)
  | batchInsertWithoutRows (table : String)
  | batchUpdateWithoutRows (table : String)
  | batchUpdateWithoutColumns (table : String)
  | noPrimaryKey (table : String)
  | keyColumnWithoutValue (table column : String)
  | keyWidth (table : String) (expected given : Nat)
  | generatedKeyRefused (table : String) (key : Int64)
  /-- A refusal that a caller's own code puts into words. -/
  | stated (text : String)
  deriving DecidableEq, Repr

def Misuse.detail : Misuse → String
  | markers m => m.message
  | selectMarkers m => "select expression " ++ m.message
  | deferred cause => "Validation error: " ++ cause.detail
  | unnamedSubquery => "subquery in FROM requires an alias"
  | unnamedCte => "CTE requires a name"
  | recursiveWithoutUnion cte => "recursive CTE `" ++ cte ++ "` requires UNION or UNION ALL"
  | updateWithoutColumns table => "UPDATE " ++ table ++ " has no SET columns"
  | updateWithoutFilter table =>
    "UPDATE " ++ table ++ " without WHERE; call all_rows() to update every row"
  | deleteWithoutFilter table =>
    "DELETE FROM " ++ table ++ " without WHERE; call all_rows() to delete every row"
  | upsertWithoutTarget => "upsert requires conflict target columns"
  | batchInsertWithoutColumns => "batch insert requires at least one column"
  | batchInsertBlankColumn => "batch insert column names must not be empty"
  | batchInsertRepeatedColumn => "batch insert columns must be unique"
  | batchInsertRowWidth row given expected =>
    "batch insert row " ++ row.repr ++ " has " ++ given.repr ++ " value(s), expected " ++
      expected.repr
  | batchInsertWithoutRows table => "batch insert into " ++ table ++ " has no rows"
  | batchUpdateWithoutRows table => "batch update of " ++ table ++ " has no rows"
  | batchUpdateWithoutColumns table => "batch update of " ++ table ++ " has no columns to set"
  | noPrimaryKey table => table ++ " has no primary key"
  | keyColumnWithoutValue table column =>
    table ++ ": primary key column " ++ column ++ " has no value"
  | keyWidth table expected given =>
    table ++ " key has " ++ expected.repr ++ " column(s), got " ++ given.repr ++ " value(s)"
  | generatedKeyRefused table key =>
    table ++ " does not accept generated key " ++ toString key.toInt
  | stated text => text

inductive NarrowInt where
  | i16
  | i32
  | u32
  deriving DecidableEq, Repr

def NarrowInt.name : NarrowInt → String
  | i16 => "i16"
  | i32 => "i32"
  | u32 => "u32"

inductive DecodeFault where
  | mismatch (expected given : Kind)
  | outOfRange (n : Int64) (target : NarrowInt)
  | noSuchColumn
  | noSuchIndex
  | unsupportedType (name : String)
  /-- The text or the bytes are no valid form of the kind. -/
  | malformed (expected : Kind)
  | stated (text : String)
  deriving DecidableEq, Repr

def DecodeFault.message : DecodeFault → String
  | mismatch expected given => "expected " ++ expected.name ++ ", got " ++ given.name
  | outOfRange n target => toString n.toInt ++ " is out of range for " ++ target.name
  | noSuchColumn => "no such column"
  | noSuchIndex => "column index out of range"
  | unsupportedType name => "unsupported column type `" ++ name ++ "`; cast it with `::text`"
  | malformed expected => "malformed " ++ expected.name
  | stated text => text

inductive Error where
  | validation (misuse : Misuse)
  | missingParam (name : String)
  | unsupported (operation : String) (dialect : Dialect)
  | unknownDriver (name : String)
  | config (detail : String)
  | query (detail : String)
  | backend (detail : String)
  | notFound (detail : String)
  | uniqueViolation (detail : String)
  | foreignKeyViolation (detail : String)
  | checkViolation (detail : String)
  | decode (column : String) (fault : DecodeFault)
  | timeout (after : Duration)
  deriving DecidableEq, Repr

namespace Error

def message : Error → String
  | validation misuse => "Validation error: " ++ misuse.detail
  | missingParam name => "Missing named parameter ':" ++ name ++ "'"
  | unsupported operation dialect =>
    operation ++ " is not supported by the " ++ dialect.name ++ " dialect"
  | unknownDriver name => "Unknown database driver: " ++ name
  | config detail => "Config error: " ++ detail
  | query detail => "Query error: " ++ detail
  | backend detail => "Backend error: " ++ detail
  | notFound detail => "Not found: " ++ detail
  | uniqueViolation detail => "Unique constraint violation: " ++ detail
  | foreignKeyViolation detail => "Foreign key violation: " ++ detail
  | checkViolation detail => "Check constraint violation: " ++ detail
  | decode column fault => "Decode error on column '" ++ column ++ "': " ++ fault.message
  | timeout after => "Query timeout after " ++ after.text

def isUniqueViolation : Error → Bool
  | uniqueViolation _ => true
  | _ => false

def isNotFound : Error → Bool
  | notFound _ => true
  | _ => false

def isTimeout : Error → Bool
  | timeout _ => true
  | _ => false

def isValidation : Error → Bool
  | validation _ => true
  | _ => false

end Error

/-- Work that changes a state in place and may fail. What it has changed before it fails stays. -/
abbrev Change (σ : Type) := ExceptT Error (StateM σ)

end ParamSql
