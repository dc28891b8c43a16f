import ParamSql.Select.Compile
import ParamSql.Update
import ParamSql.Delete
import ParamSql.Upsert
import ParamSql.Batch.Insert
import ParamSql.Batch.Update
import ParamSql.Named

/-! Everything that builds a statement for a dialect. -/
namespace ParamSql

inductive Query where
  | select (q : Select)
  | insert (q : Insert)
  | update (q : Update)
  | delete (q : Delete)
  | upsert (q : Upsert)
  | batchInsert (q : BatchInsert)
  | batchUpdate (q : BatchUpdate)
  | named (q : NamedSql)
  | fragment (f : Fragment)
  deriving Inhabited

namespace Query

def build : Query → Dialect → Except Error Statement
  | select q, d => q.build d
  | insert q, d => q.build d
  | update q, d => q.build d
  | delete q, d => q.build d
  | upsert q, d => q.build d
  | batchInsert q, d => q.build d
  | batchUpdate q, d => q.build d
  | named q, d => q.build d
  | fragment f, d => f.build d

end Query

end ParamSql
