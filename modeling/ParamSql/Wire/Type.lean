/-! The types of parameters and columns of Postgres, told apart by their names. -/
namespace ParamSql

inductive WireType where
  | bool
  | int2
  | int4
  | int8
  | oid
  | float4
  | float8
  | text
  | varchar
  | bpchar
  | name
  | unknown
  | bytea
  | json
  | jsonb
  | timestamp
  | timestamptz
  | uuid
  | date
  | time
  | other (typeName : String)
  deriving DecidableEq, Repr, Inhabited

namespace WireType

def typeName : WireType → String
  | bool => "bool"
  | int2 => "int2"
  | int4 => "int4"
  | int8 => "int8"
  | oid => "oid"
  | float4 => "float4"
  | float8 => "float8"
  | text => "text"
  | varchar => "varchar"
  | bpchar => "bpchar"
  | name => "name"
  | unknown => "unknown"
  | bytea => "bytea"
  | json => "json"
  | jsonb => "jsonb"
  | timestamp => "timestamp"
  | timestamptz => "timestamptz"
  | uuid => "uuid"
  | date => "date"
  | time => "time"
  | other typeName => typeName

def ofName (typeName : String) : WireType :=
  let named := [bool,int2,int4,int8,oid,float4,float8,text,varchar,bpchar,name,unknown,bytea,json,jsonb,
    timestamp,timestamptz,uuid,date,time].find? (·.typeName = typeName)
  named.getD (other typeName)

end WireType

end ParamSql
